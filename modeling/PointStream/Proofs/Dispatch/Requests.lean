import PointStream.Dispatch.Connection
import PointStream.Proofs.Scheduler.Ownership

/-!
# Requests and their answers

A line asks for a command, or it cannot be served. Whatever it asks for, serving it either says something at once
that answers it, or makes a call that leaves the session one answer in debt. Each step of the scheduler pays as many
debts as it gives answers.
-/

namespace PointStream

/-- What a line asks for. -/
def asked (line : List UInt8) : Except DispatchError Command :=
  match Request.ofLine line with
  | .error e => .error e
  | .ok request =>
    match request.validate with
    | .error e => .error e
    | .ok () => request.resolve

/-- The messages that answer a line. -/
inductive Answers (line : List UInt8) : Message → Prop
  /-- The line cannot be parsed, or names no command. -/
  | unserved (e : DispatchError) (fails : asked line = .error e) : Answers line (.ofError e)
  | created (reason : Option String) (asks : asked line = .ok .create) : Answers line (.created reason)
  | parsed (reason : Option String) (asks : asked line = .ok .parse) : Answers line (.parsed reason)
  | destroyed (asks : asked line = .ok .destroy) : Answers line .destroyed
  | numPoints (value : Nat) (asks : asked line = .ok .numPoints) : Answers line (.numPoints value)
  | noNumPoints (asks : asked line = .ok .numPoints) : Answers line (.ofError .notCreated)
  | schema (v : Json) (asks : asked line = .ok .schema) : Answers line (.schema v)
  | noSchema (asks : asked line = .ok .schema) : Answers line (.ofError .notCreated)
  | invalidSchema (reason : String) (asks : asked line = .ok .schema) : Answers line (.ofError (.invalidSchema reason))
  | accepted (points bytes : Nat) (asks : asked line = .ok .read) : Answers line (.accepted points bytes)
  | rejected (reason : String) (asks : asked line = .ok .read) : Answers line (.rejected reason)
  | cancelled (found : Bool) (asks : asked line = .ok .cancel) : Answers line (.cancelled found)

def Answer.command : Answer → Command
  | opened _ => .create
  | validated _ => .parse
  | read _ => .read

theorem answers_ofAnswer {line : List UInt8} {a : Answer} (asks : asked line = .ok a.command) :
    Answers line (.ofAnswer a) := by
  cases a with
  | opened result => exact .created _ asks
  | validated result => exact .parsed _ asks
  | read response =>
    cases response with
    | accepted points bytes => exact .accepted points bytes asks
    | rejected reason => exact .rejected reason asks

/-- Errors of requests that fit are no reason to close a connection. -/
theorem not_fatal_of_asked {line : List UInt8} {e : DispatchError} (fails : asked line = .error e) :
    e.isFatal = false := by
  unfold asked at fails
  split at fails
  next e' unread =>
    cases fails
    unfold Request.ofLine at unread
    dsimp only at unread
    split at unread
    next => cases unread; rfl
    next =>
      split at unread <;> cases unread
      rfl
  next request _ =>
    split at fails
    next e' invalid =>
      cases fails
      unfold Request.validate at invalid
      split at invalid <;> cases invalid
      rfl
    next =>
      unfold Request.resolve at fails
      split at fails <;> cases fails
      rfl

namespace Scheduler

/-! ### Calls -/

/-- The command that a call leaves to be answered later. -/
def Call.command? : Call → Option Command
  | create .. => some .create
  | parse .. => some .parse
  | read _ arguments => (Argument.splitCallback arguments).toOption.map fun _ => .read
  | destroy _ | cancel _ => none

/-- What serving a line comes to: the state afterwards, and what is to be said at once. -/
inductive Served (s : Scheduler) (session : Nat) (line : List UInt8) :
    Scheduler → Except DispatchError (Option Message) → Prop
  | refused (e : DispatchError) (answers : Answers line (.ofError e)) (survives : e.isFatal = false) :
      Served s session line s (.error e)
  | told (m : Message) (answers : Answers line m) : Served s session line s (.ok (some m))
  | done (c : Call) (m : Message) (own : c.session = session) (owes_nothing : c.command? = none)
      (answers : Answers line m) : Served s session line (s.call c).1 (.ok (some m))
  | owed (c : Call) (command : Command) (own : c.session = session) (owes : c.command? = some command)
      (asks : asked line = .ok command) : Served s session line (s.call c).1 (.ok none)

variable {s : Scheduler} {session : Nat} {line : List UInt8}

/-- While the workers serve their queue a source is asked for whatever the pipeline. -/
theorem create_of_serving (serving : s.Serving) (pipeline : String) (callback : Callback) :
    s.create session pipeline callback = ((s.call (.create session pipeline callback)).1, .ok ()) := by
  simp [create, call, submitTask?_of_working serving.isWorking, submitted]

theorem parse_of_serving (serving : s.Serving) (pipeline : String) (callback : Callback) :
    s.parse session pipeline callback = ((s.call (.parse session pipeline callback)).1, .ok ()) := by
  simp [parse, call, submitTask?_of_working serving.isWorking, submitted]

/-- While the control thread serves its queue every read with a callback is taken on. -/
theorem read_of_serving (serving : s.Serving) (positional : List Argument) (callback : Callback) :
    s.read session (positional ++ [.callback callback])
      = ((s.call (.read session (positional ++ [.callback callback]))).1, .ok ()) := by
  refine Prod.ext rfl ?_
  have split := splitCallback_append positional callback
  by_cases unclaimed : (s.sessions session).source = none ∨ (s.sessions session).slot.active ≠ none
  · simp [read_unclaimed split unclaimed, submission, serving.alive]
  · -- The read claims the slot.
    obtain ⟨found, free⟩ := not_or.mp unclaimed
    obtain ⟨source, has_source⟩ := Option.ne_none_iff_exists'.mp found
    rw [read_claimed split has_source (not_not.mp free) serving.alive]

theorem served_request (serving : s.Serving) {request : Request} (asks : asked line = request.resolve) :
    Served s session line (s.serve session request).1 (s.serve session request).2 := by
  unfold serve
  cases resolved : request.resolve with
  | error e =>
    rw [resolved] at asks
    exact .refused e (.unserved e asks) (not_fatal_of_asked asks)
  | ok command =>
    rw [resolved] at asks
    cases command with
    | create =>
      dsimp only
      split
      next pipeline _ _ =>
        rw [create_of_serving serving]
        exact .owed (.create session pipeline { recipient := session }) .create rfl rfl asks
      next => exact .told _ (.created _ asks)
    | parse =>
      dsimp only
      split
      next pipeline _ _ =>
        rw [parse_of_serving serving]
        exact .owed (.parse session pipeline { recipient := session }) .parse rfl rfl asks
      next => exact .told _ (.parsed _ asks)
    | destroy => exact .done (.destroy session) _ rfl rfl (.destroyed asks)
    | numPoints =>
      dsimp only
      split
      next value _ => exact .told _ (.numPoints value asks)
      next => exact .refused _ (.noNumPoints asks) rfl
    | schema =>
      dsimp only
      split
      next text _ =>
        split
        next v _ => exact .told _ (.schema v asks)
        next => exact .refused _ (.invalidSchema _ asks) rfl
      next => exact .refused _ (.noSchema asks) rfl
    | read =>
      dsimp only
      rw [read_of_serving serving]
      refine .owed (.read session (request.arguments.map .value ++ [.callback { recipient := session }])) .read rfl ?_
        asks
      simp [Call.command?, splitCallback_append, Except.toOption]
    | cancel => exact .done (.cancel session) _ rfl rfl (.cancelled _ asks)

/-- While the scheduler serves its queues every line is answered at once or leaves one answer owed. -/
theorem served (serving : s.Serving) (session : Nat) (line : List UInt8) :
    Served s session line (s.serveLine session line).1 (s.serveLine session line).2 := by
  unfold serveLine
  cases parsed : Request.ofLine line with
  | error e =>
    have fails : asked line = .error e := by simp [asked, parsed]
    exact .refused e (.unserved e fails) (not_fatal_of_asked fails)
  | ok request =>
    cases valid : request.validate with
    | error e =>
      have fails : asked line = .error e := by simp [asked, parsed, valid]
      simp only [valid]
      exact .refused e (.unserved e fails) (not_fatal_of_asked fails)
    | ok =>
      simp only [valid]
      exact served_request serving (by simp [asked, parsed, valid])

/-! ### Debts -/

/-- The answer that is still to be given to a session when the item is done. -/
def Item.debt? (id : Nat) (i : Item) : Option Command :=
  let owed (session : Nat) (command : Command) := if session = id then some command else none
  match i with
  | .task (.openSource session _ _) | .job (.opened session _ _) => owed session .create
  | .task (.validate session _ _) | .job (.validated session _ _) => owed session .parse
  | .job (.startRead session _ _ _ _) | .task (.query session _ _) | .job (.queried session _ _ _) =>
    owed session .read
  | .task (.stream ..) | .job (.streamed ..) => none

def debts (id : Nat) (items : Multiset Item) : Multiset Command := items.filterMap (Item.debt? id)

end Scheduler

open Scheduler

/-- The answer that an event gives to a session. -/
def Event.answer? (id : Nat) : Event → Option Answer
  | .answered session _ a => if session = id then some a else none
  | _ => none

/-- The answers that some events give to a session, in their order. -/
def answersTo (id : Nat) (events : List Event) : List Answer := events.filterMap (Event.answer? id)

namespace Scheduler

/-- The debt that an action makes with a session. -/
def Action.debt (id : Nat) : Action → Multiset Command
  | .call c => if c.session = id then ↑c.command?.toList else 0
  | .move .. | .shutdown => 0

@[simp] theorem debts_zero (id : Nat) : debts id 0 = 0 := Multiset.filterMap_zero _

@[simp] theorem debts_add (id : Nat) (m₁ m₂ : Multiset Item) : debts id (m₁ + m₂) = debts id m₁ + debts id m₂ :=
  Multiset.filterMap_add _ m₁ m₂

@[simp] theorem debts_singleton (id : Nat) (i : Item) : debts id {i} = ↑(i.debt? id).toList := by
  unfold debts
  rw [← Multiset.cons_zero]
  cases debt : i.debt? id with
  | none => rw [Multiset.filterMap_cons_none _ _ debt, Multiset.filterMap_zero]; rfl
  | some command => rw [Multiset.filterMap_cons_some _ _ _ debt, Multiset.filterMap_zero]; rfl

@[simp] theorem answersTo_nil (id : Nat) : answersTo id [] = [] := rfl

@[simp] theorem answersTo_append (id : Nat) (early late : List Event) :
    answersTo id (early ++ late) = answersTo id early ++ answersTo id late := List.filterMap_append

@[simp] theorem answersTo_cons (id : Nat) (e : Event) (events : List Event) :
    answersTo id (e :: events) = (e.answer? id).toList ++ answersTo id events := by
  unfold answersTo
  cases answer : e.answer? id <;> simp [answer]

@[simp] theorem answersTo_contacts (id session generation : Nat) (contacts : List Contact) :
    answersTo id (contacts.map (.contacted session generation)) = [] := by
  simp [answersTo, Event.answer?]

theorem answersTo_notes {notes : List Event} (quiet : ∀ e ∈ notes, e.isNote = true) (id : Nat) :
    answersTo id notes = [] := by
  unfold answersTo
  rw [List.filterMap_eq_nil_iff]
  intro e member
  have note := quiet e member
  cases e with
  | noted => rfl
  | _ => cases note

/-- Each step pays as many debts of a session as it gives answers to it. -/
theorem Effect.pays {x x' : Nat → Session} {a : Action} {o : Occurrence} {consumed produced : Multiset Item}
    (effect : Effect true true x a o consumed produced x') (id : Nat) :
    ↑((answersTo id o.events).map Answer.command) + debts id produced = a.debt id + debts id consumed := by
  have noted {notes : List Event} (quiet : ∀ e ∈ notes, e.isNote = true) := answersTo_notes quiet id
  cases effect with
  | readStopped _ _ _ _ _ _ _ _ gone => cases gone
  | misread session arguments e split => simp [Action.debt, Call.command?, split, Except.toOption]
  | create session | parse session =>
    by_cases own : session = id <;> simp [Action.debt, Call.session, Call.command?, Item.debt?, own]
  | readUnclaimed session arguments positional callback split
  | readClaimed session arguments positional callback source split =>
    by_cases own : session = id <;>
      simp [Action.debt, Call.session, Call.command?, split, Except.toOption, Item.debt?, own]
  | destroy | cancel => simp [Action.debt, Call.command?]
  | startQuery environment session generation source positional callback command notes made quiet =>
    simp [Action.debt, Item.debt?, noted quiet]
  | decodeFailed environment session generation source positional callback rejection notes refused quiet =>
    by_cases own : session = id <;>
      simp [Action.debt, Item.debt?, noted quiet, Event.answer?, refusal, Answer.command, own]
  | opened environment session result callback notes quiet =>
    by_cases own : session = id <;> simp [Action.debt, Item.debt?, noted quiet, Event.answer?, Answer.command, own]
  | notCreated environment session | inProgress environment session | validated environment session
  | queryFailed environment session | accept environment session | acceptAborted environment session =>
    by_cases own : session = id <;> simp [Action.debt, Item.debt?, Event.answer?, refusal, Answer.command, own]
  | stopping a silent =>
    cases a with
    | call c => exact absurd rfl (silent c)
    | _ => simp [Action.debt]
  | took | finish | openSource | validate | query | stream | streamEnd =>
    simp [Action.debt, Item.debt?, Event.answer?]

variable {s : Scheduler}

theorem pays_of_act (serving : s.Serving) {s' : Scheduler} {a : Action} {o : Occurrence}
    (acted : s.act? a = some (s', o)) (id : Nat) :
    ↑((answersTo id o.events).map Answer.command) + debts id s'.pending = a.debt id + debts id s.pending := by
  obtain ⟨rest, consumed, produced, split, merged, effect⟩ := act_effect acted
  -- While both kinds of threads serve their queues nothing that is sent gets lost.
  rw [serving.isWorking, serving.alive] at effect
  rw [split, merged, debts_add, debts_add, ← add_assoc, ← add_assoc, effect.pays id]

theorem act_call (s : Scheduler) (c : Call) : s.act? (.call c) = some ((s.call c).1, ⟨s.deed (.call c), []⟩) := rfl

/-- A call makes its debt and gives no answer. -/
theorem debts_call (serving : s.Serving) (c : Call) (id : Nat) :
    debts id (s.call c).1.pending = (Action.call c).debt id + debts id s.pending := by
  have pays := pays_of_act serving (act_call s c) id
  rwa [answersTo_nil, List.map_nil, Multiset.coe_nil, zero_add] at pays

theorem Serving.call (serving : s.Serving) (c : Call) : (s.call c).1.Serving :=
  serving.act (a := .call c) nofun (act_call s c)

end Scheduler

end PointStream
