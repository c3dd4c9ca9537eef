import PointStream.Scheduler.Basic
import PointStream.Source.Fixed

/-!
# Runs of the scheduler

A run is any sequence of calls of clients, moves of threads and requests to shut down. Each move is made in an
environment of its own, so nothing binds a provider or a consumer to what it did before. What a run leaves
behind is its history: of every step, what was done and which events it showed.
-/

namespace PointStream

namespace Scheduler

/-! ### Calls -/

inductive Call where
  | create (session : Nat) (pipeline : String) (callback : Callback)
  | parse (session : Nat) (pipeline : String) (callback : Callback)
  | destroy (session : Nat)
  | read (session : Nat) (arguments : List Argument)
  | cancel (session : Nat)

/-- What comes of a call. Of a read this is also the source that it found and the generation for which it
claimed the slot. -/
inductive Reply where
  | done
  | invoked (result : Except InvocationError Unit)
  | read (result : Except InvocationError Unit) (source : Option Source) (claim : Option Nat)
  | cancelled (found : Bool)

/-- The generation that holds a slot which was free before. -/
def newHolder? (before after : ReadSlot) : Option Nat :=
  if before.isActive then none else after.active.map ActiveRead.generation

def call (s : Scheduler) : Call → Scheduler × Reply
  | .create session pipeline callback =>
    let (after, result) := s.create session pipeline callback
    (after, .invoked result)
  | .parse session pipeline callback =>
    let (after, result) := s.parse session pipeline callback
    (after, .invoked result)
  | .destroy session => (s.destroy session, .done)
  | .read session arguments =>
    let (after, result) := s.read session arguments
    let claim := newHolder? (s.sessions session).slot (after.sessions session).slot
    (after, .read result (s.sessions session).source claim)
  | .cancel session =>
    let (after, found) := s.cancel session
    (after, .cancelled found)

def Call.session : Call → Nat
  | create session _ _ | parse session _ _ | destroy session | read session _ | cancel session => session

def Call.callback? : Call → Option Callback
  | create _ _ callback | parse _ _ callback => some callback
  | read _ arguments => (Argument.splitCallback arguments).toOption.map (·.2)
  | destroy _ | cancel _ => none

/-! ### Steps -/

/-- What makes a step: a call, a move in an environment, or a request to shut down. -/
inductive Action where
  | call (c : Call)
  | move (environment : Environment) (m : Move)
  | shutdown

/-- What is done in a step. -/
inductive Deed where
  | called (c : Call) (reply : Reply)
  /-- The control thread runs a job. -/
  | ran (j : ControlJob)
  /-- A worker takes a task from the queue. -/
  | took (worker : Nat) (t : Task)
  /-- A worker goes on with its task. -/
  | worked (worker : Nat) (t : Task)
  /-- A stop message is sent or taken, or a shutdown begins. -/
  | stopping

/-- A step of a run as it is remembered. -/
structure Occurrence where
  deed : Deed
  events : List Event

/-- What an action does in a state. -/
def deed (s : Scheduler) : Action → Deed
  | .call c => .called c (s.call c).2
  | .move _ .control =>
    match s.control with
    | .job j :: _ => .ran j
    | _ => .stopping
  | .move _ (.worker i) =>
    match s.workers[i]?, s.work with
    | some (.running t), _ => .worked i t
    | some .idle, .job t :: _ => .took i t
    | _, _ => .stopping
  | .move _ .shutdown | .shutdown => .stopping

/-- Takes a step; none when the thread that is to move has nothing to do. -/
def act? (s : Scheduler) (a : Action) : Option (Scheduler × Occurrence) :=
  match a with
  | .call c => some ((s.call c).1, ⟨s.deed a, []⟩)
  | .move environment m => (s.move? environment m).map fun (after, events) => (after, ⟨s.deed a, events⟩)
  | .shutdown => some (s.shutdown, ⟨s.deed a, []⟩)

/-- The runs from a state by actions of a kind: their histories and the states they lead to. -/
inductive Run (admits : Action → Prop) (initial : Scheduler) : List Occurrence → Scheduler → Prop
  | start : Run admits initial [] initial
  | step {history s a s' o} : Run admits initial history s → admits a → s.act? a = some (s', o) →
      Run admits initial (history ++ [o]) s'

/-- Takes the steps of a list of actions, leaving out those that cannot be taken. -/
def follow (s : Scheduler) : List Action → Scheduler × List Occurrence
  | [] => (s, [])
  | a :: rest =>
    match s.act? a with
    | some (s', o) => ((follow s' rest).1, o :: (follow s' rest).2)
    | none => follow s rest

theorem Run.trans {admits : Action → Prop} {s₁ s₂ s₃ : Scheduler} {early late : List Occurrence}
    (first : Run admits s₁ early s₂) (second : Run admits s₂ late s₃) :
    Run admits s₁ (early ++ late) s₃ := by
  induction second with
  | start => rwa [List.append_nil]
  | step _ admitted acted ih =>
    rw [← List.append_assoc]
    exact ih.step admitted acted

theorem Run.mono {admits wider : Action → Prop} {initial s : Scheduler} {history : List Occurrence}
    (run : Run admits initial history s) (wide : ∀ a, admits a → wider a) : Run wider initial history s := by
  induction run with
  | start => exact .start
  | step _ admitted acted ih => exact ih.step (wide _ admitted) acted

theorem run_follow {admits : Action → Prop} (s : Scheduler) (actions : List Action)
    (admitted : ∀ a ∈ actions, admits a) :
    Run admits s (s.follow actions).2 (s.follow actions).1 := by
  induction actions generalizing s with
  | nil => exact .start
  | cons a rest ih =>
    have others : ∀ b ∈ rest, admits b := fun b member => admitted b (List.mem_cons_of_mem a member)
    unfold follow
    split
    next s' o acted =>
      have first : Run admits s ([] ++ [o]) s' := .step .start (admitted a List.mem_cons_self) acted
      exact first.trans (ih s' others)
    next => exact ih s others

/-- The action leaves the scheduler running and hands over no callback that aborts. -/
def Action.IsCalm : Action → Prop
  | call c => ∀ callback, c.callback? = some callback → callback.aborts = false
  | move _ _ => True
  | shutdown => False

def IsQuiet (s : Scheduler) : Prop := s.control = [] ∧ s.work = [] ∧ ∀ w ∈ s.workers, w = .idle

theorem isQuiet_of_workers {s : Scheduler} (n : Nat) (control : s.control = []) (work : s.work = [])
    (workers : s.workers = List.replicate n .idle) : s.IsQuiet := by
  refine ⟨control, work, fun w member => ?_⟩
  rw [workers] at member
  exact List.eq_of_mem_replicate member

/-! ### A short run -/

/-- An environment where every pipeline opens a source of two points of one byte each, and every consumer takes
what it is offered. -/
def openHanded : Environment where
  provider :=
    { openSource := fun _ =>
        .returned (.ok ((FixedAnswer.counts 2).toSource 2 [⟨"Intensity", .unsigned, 1⟩] "\x7b\x7d"))
      validate := fun _ => .returned (.ok ()) }
  consumer _ _ _ _ := ConsumerScript.toConsumer {}

/-- A read of both points of such a source, answered to a recipient. -/
def readOfBoth (recipient : Nat) : Call :=
  .read 0 [.value (.string "consumer"), .value (.ofNat 7000), .value (.object []), .value (.ofNat 0),
    .value (.ofNat 2), .callback { recipient }]

/-- A source is opened and read twice. The second read is called before the first is decoded, and the query of
the first is about to run. -/
def twoReads : List Action := [
  .call (.create 0 "pipeline" { recipient := 0 }), .move openHanded (.worker 0), .move openHanded (.worker 0),
  .move openHanded .control, .call (readOfBoth 1), .call (readOfBoth 2), .move openHanded .control,
  .move openHanded (.worker 1)]

theorem calm_twoReads : ∀ a ∈ twoReads, a.IsCalm := by
  have calm (recipient : Nat) : (Action.call (readOfBoth recipient)).IsCalm := by
    intro callback same
    cases same
    rfl
  simp only [twoReads, List.forall_mem_cons, List.not_mem_nil, false_implies, implies_true, and_true]
  refine ⟨?_, trivial, trivial, trivial, calm 1, calm 2, trivial, trivial⟩
  intro callback same
  cases same
  rfl

end Scheduler

end PointStream
