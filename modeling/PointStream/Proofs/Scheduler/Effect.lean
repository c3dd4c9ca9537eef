import PointStream.Proofs.Scheduler.Pending

/-!
# What a step can do

Every step takes at most one item away, puts at most one in its place, and changes at most one session. The
relation `Effect` lists all the ways, with the events that each shows; `act_effect` says that there are no
others. What is proved of runs is proved by cases on it, and never by opening the scheduler's operations.
-/

namespace PointStream

namespace Scheduler

/-! ### Sessions -/

def withSlot (x : Nat → Session) (id : Nat) (slot : ReadSlot) : Nat → Session :=
  Function.update x id { x id with slot }

def withSource (x : Nat → Session) (id : Nat) (source : Option Source) : Nat → Session :=
  Function.update x id { x id with source }

theorem slot_withSlot (x : Nat → Session) (id : Nat) (slot : ReadSlot) (other : Nat) :
    (withSlot x id slot other).slot = if other = id then slot else (x other).slot := by
  unfold withSlot
  rw [Function.update_apply]
  split <;> rfl

@[simp] theorem slot_withSlot_self (x : Nat → Session) (id : Nat) (slot : ReadSlot) :
    (withSlot x id slot id).slot = slot := by simp [slot_withSlot]

/-- What the new slot has in common with the old one, every session keeps. -/
theorem kept_withSlot {β : Type} (f : ReadSlot → β) {x : Nat → Session} {id other : Nat} {slot : ReadSlot}
    (same : other = id → f slot = f (x id).slot) : f (withSlot x id slot other).slot = f (x other).slot := by
  rw [slot_withSlot]
  split
  next here =>
    rw [same here, here]
  next => rfl

@[simp] theorem source_withSlot (x : Nat → Session) (id : Nat) (slot : ReadSlot) (other : Nat) :
    (withSlot x id slot other).source = (x other).source := by
  unfold withSlot
  rw [Function.update_apply]
  split
  next same => rw [same]
  next => rfl

@[simp] theorem slot_withSource (x : Nat → Session) (id : Nat) (source : Option Source) (other : Nat) :
    (withSource x id source other).slot = (x other).slot := by
  unfold withSource
  rw [Function.update_apply]
  split
  next same => rw [same]
  next => rfl

@[simp] theorem withSlot_withSlot (x : Nat → Session) (id : Nat) (slot later : ReadSlot) :
    withSlot (withSlot x id slot) id later = withSlot x id later := by
  simp [withSlot]

@[simp] theorem withSource_self (x : Nat → Session) (id : Nat) : withSource x id (x id).source = x := by
  simp [withSource]

@[simp] theorem sessions_setSlot (s : Scheduler) (id : Nat) (slot : ReadSlot) :
    (s.setSlot id slot).sessions = withSlot s.sessions id slot := sessions_setSession s id _

@[simp] theorem sessions_setSource (s : Scheduler) (id : Nat) (source : Option Source) :
    (s.setSource id source).sessions = withSource s.sessions id source := sessions_setSession s id _

/-- The sessions after a read gave its slot free. -/
def released (x : Nat → Session) (id generation : Nat) : Nat → Session :=
  withSlot x id ((x id).slot.release generation).2

@[simp] theorem sessions_releaseSlot (s : Scheduler) (id generation : Nat) :
    (s.releaseSlot id generation).sessions = released s.sessions id generation := sessions_setSlot s id _

/-! ### The results of foreign code -/

def submission (served : Bool) : Except InvocationError Unit := if served then .ok () else .error .stopped

def queryResult (command : ReadCommand) : Attempt (ReadCommand × Except ReadError Unit) :=
  match command.run with
  | (filled, .returned result) => .returned (filled, result)
  | (_, .aborted) => .aborted

/-- Why a query failed, if it did. -/
def failure? : Attempt (ReadCommand × Except ReadError Unit) → Option String
  | .returned (_, .ok ()) => none
  | .returned (_, .error e) => some e.message
  | .aborted => some abortedText

/-- What is reported of a transmission that moved `numBytes` bytes. -/
def finalOutcome (numBytes : Nat) : Attempt Outcome → Outcome
  | .returned outcome => outcome
  | .aborted => .failed 0 numBytes abortedText

def sourceAfter (old : Option Source) : Attempt (Except SourceError Source) → Option Source
  | .returned (.ok source) => some source
  | _ => old

def sourceAfterValidation (old : Option Source) : Attempt (Except SourceError Unit) → Option Source
  | .returned (.ok ()) => none
  | _ => old

end Scheduler

open Scheduler

/-- A detail for the log, which no callback and no observer sees. -/
def Event.isNote : Event → Bool
  | noted _ _ => true
  | _ => false

namespace Scheduler

def refusal (id : Nat) (callback : Callback) (reason : String) : Event :=
  .answered id callback (.read (.rejected reason))

/-- The effects of a step on sessions `x`: what it does, which items it takes away, which it puts in their place
and what the sessions are then. `working` and `alive` tell whether the workers and the control thread still
serve their queues. -/
inductive Effect (working alive : Bool) (x : Nat → Session) :
    Action → Occurrence → Multiset Item → Multiset Item → (Nat → Session) → Prop
  | create (id : Nat) (pipeline : String) (callback : Callback) :
      Effect working alive x (.call (.create id pipeline callback))
        ⟨.called (.create id pipeline callback) (.invoked (submission working)), []⟩
        0 (sentIf working (.task (.openSource id pipeline callback))) x
  | parse (id : Nat) (pipeline : String) (callback : Callback) :
      Effect working alive x (.call (.parse id pipeline callback))
        ⟨.called (.parse id pipeline callback) (.invoked (submission working)), []⟩
        0 (sentIf working (.task (.validate id pipeline callback))) x
  | destroy (id : Nat) :
      Effect working alive x (.call (.destroy id)) ⟨.called (.destroy id) .done, []⟩ 0 0
        (withSource x id none)
  /-- A read without callback. -/
  | misread (id : Nat) (arguments : List Argument) (e : InvocationError)
      (split : Argument.splitCallback arguments = .error e) :
      Effect working alive x (.call (.read id arguments))
        ⟨.called (.read id arguments) (.read (.error e) (x id).source none), []⟩ 0 0 x
  /-- A read that finds no source or a slot that is taken. -/
  | readUnclaimed (id : Nat) (arguments positional : List Argument) (callback : Callback)
      (split : Argument.splitCallback arguments = .ok (positional, callback))
      (unclaimed : (x id).source = none ∨ (x id).slot.active ≠ none) :
      Effect working alive x (.call (.read id arguments))
        ⟨.called (.read id arguments) (.read (submission alive) (x id).source none), []⟩
        0 (sentIf alive (.job (.startRead id (x id).source none positional callback))) x
  | readClaimed (id : Nat) (arguments positional : List Argument) (callback : Callback) (source : Source)
      (split : Argument.splitCallback arguments = .ok (positional, callback))
      (found : (x id).source = some source) (free : (x id).slot.active = none) (served : alive = true) :
      Effect working alive x (.call (.read id arguments))
        ⟨.called (.read id arguments) (.read (.ok ()) (some source) (some ((x id).slot.issued + 1))), []⟩
        0 {.job (.startRead id (some source) (some ((x id).slot.issued + 1)) positional callback)}
        (withSlot x id { (x id).slot with
          active := some ⟨(x id).slot.issued + 1, false⟩, issued := (x id).slot.issued + 1 })
  /-- A read whose claim is given back, because the control thread has left. -/
  | readStopped (id : Nat) (arguments positional : List Argument) (callback : Callback) (source : Source)
      (split : Argument.splitCallback arguments = .ok (positional, callback))
      (found : (x id).source = some source) (free : (x id).slot.active = none) (gone : alive = false) :
      Effect working alive x (.call (.read id arguments))
        ⟨.called (.read id arguments) (.read (.error .stopped) (some source) none), []⟩ 0 0
        (withSlot x id { (x id).slot with active := none, issued := (x id).slot.issued + 1 })
  | cancel (id : Nat) :
      Effect working alive x (.call (.cancel id))
        ⟨.called (.cancel id) (.cancelled (x id).slot.cancel.1), []⟩ 0 0
        (withSlot x id (x id).slot.cancel.2)
  | notCreated (environment : Environment) (id : Nat) (claim : Option Nat) (positional : List Argument)
      (callback : Callback) :
      Effect working alive x (.move environment .control)
        ⟨.ran (.startRead id none claim positional callback),
          [.reported id (.readRejected notCreatedText), refusal id callback notCreatedText]⟩
        {.job (.startRead id none claim positional callback)} 0 x
  | inProgress (environment : Environment) (id : Nat) (source : Source) (positional : List Argument)
      (callback : Callback) :
      Effect working alive x (.move environment .control)
        ⟨.ran (.startRead id (some source) none positional callback),
          [.reported id (.readRejected inProgressText), refusal id callback inProgressText]⟩
        {.job (.startRead id (some source) none positional callback)} 0 x
  | decodeFailed (environment : Environment) (id generation : Nat) (source : Source)
      (positional : List Argument) (callback : Callback) (rejection : Rejection) (notes : List Event)
      (refused : ReadCommand.ofArguments source positional generation = .error rejection)
      (quiet : ∀ e ∈ notes, e.isNote = true) :
      Effect working alive x (.move environment .control)
        ⟨.ran (.startRead id (some source) (some generation) positional callback),
          notes ++ [refusal id callback rejection.message]⟩
        {.job (.startRead id (some source) (some generation) positional callback)} 0
        (if callback.aborts then x else released x id generation)
  | startQuery (environment : Environment) (id generation : Nat) (source : Source)
      (positional : List Argument) (callback : Callback) (command : ReadCommand) (notes : List Event)
      (made : ReadCommand.ofArguments source positional generation = .ok command)
      (quiet : ∀ e ∈ notes, e.isNote = true) :
      Effect working alive x (.move environment .control)
        ⟨.ran (.startRead id (some source) (some generation) positional callback), notes⟩
        {.job (.startRead id (some source) (some generation) positional callback)}
        (sentIf working (.task (.query id command callback)))
        (if working then x else released x id generation)
  | opened (environment : Environment) (id : Nat) (result : Attempt (Except SourceError Source))
      (callback : Callback) (notes : List Event) (quiet : ∀ e ∈ notes, e.isNote = true) :
      Effect working alive x (.move environment .control)
        ⟨.ran (.opened id result callback), notes ++ [.answered id callback (.opened (resultText result))]⟩
        {.job (.opened id result callback)} 0 (withSource x id (sourceAfter (x id).source result))
  | validated (environment : Environment) (id : Nat) (result : Attempt (Except SourceError Unit))
      (callback : Callback) :
      Effect working alive x (.move environment .control)
        ⟨.ran (.validated id result callback), [.answered id callback (.validated (resultText result))]⟩
        {.job (.validated id result callback)} 0
        (withSource x id (sourceAfterValidation (x id).source result))
  | queryFailed (environment : Environment) (id generation : Nat)
      (result : Attempt (ReadCommand × Except ReadError Unit)) (callback : Callback) (reason : String)
      (failed : failure? result = some reason) :
      Effect working alive x (.move environment .control)
        ⟨.ran (.queried id generation result callback),
          [.reported id (.readFailed generation reason), refusal id callback reason]⟩
        {.job (.queried id generation result callback)} 0
        (if callback.aborts then x else released x id generation)
  | accept (environment : Environment) (id generation : Nat) (command : ReadCommand) (callback : Callback)
      (calm : callback.aborts = false) :
      Effect working alive x (.move environment .control)
        ⟨.ran (.queried id generation (.returned (command, .ok ())) callback),
          [.reported id (.readAccepted generation command.numPoints command.numBytes),
            .answered id callback (.read (.accepted command.numPoints command.numBytes)),
            .reported id (.transmitStarted generation command.host command.port command.numBytes)]⟩
        {.job (.queried id generation (.returned (command, .ok ())) callback)}
        (sentIf working (.task (.stream id command {})))
        (let advanced := withSlot x id ((x id).slot.advance generation).2
          if working then advanced else released advanced id generation)
  /-- The callback that takes the acceptance aborts. -/
  | acceptAborted (environment : Environment) (id generation : Nat) (command : ReadCommand)
      (callback : Callback) (aborts : callback.aborts = true) :
      Effect working alive x (.move environment .control)
        ⟨.ran (.queried id generation (.returned (command, .ok ())) callback),
          [.reported id (.readAccepted generation command.numPoints command.numBytes),
            .answered id callback (.read (.accepted command.numPoints command.numBytes))]⟩
        {.job (.queried id generation (.returned (command, .ok ())) callback)} 0
        (withSlot x id ((x id).slot.advance generation).2)
  | finish (environment : Environment) (id generation numBytes : Nat) (result : Attempt Outcome) :
      Effect working alive x (.move environment .control)
        ⟨.ran (.streamed id generation numBytes result),
          [.reported id (.transmitFinished generation (finalOutcome numBytes result))]⟩
        {.job (.streamed id generation numBytes result)} 0 (released x id generation)
  | took (environment : Environment) (i : Nat) (t : Task) :
      Effect working alive x (.move environment (.worker i)) ⟨.took i t, []⟩ 0 0 x
  | openSource (environment : Environment) (i id : Nat) (pipeline : String) (callback : Callback) :
      Effect working alive x (.move environment (.worker i))
        ⟨.worked i (.openSource id pipeline callback), []⟩ {.task (.openSource id pipeline callback)}
        (sentIf alive (.job (.opened id (environment.provider.openSource pipeline) callback))) x
  | validate (environment : Environment) (i id : Nat) (pipeline : String) (callback : Callback) :
      Effect working alive x (.move environment (.worker i))
        ⟨.worked i (.validate id pipeline callback), []⟩ {.task (.validate id pipeline callback)}
        (sentIf alive (.job (.validated id (environment.provider.validate pipeline) callback))) x
  | query (environment : Environment) (i id : Nat) (command : ReadCommand) (callback : Callback) :
      Effect working alive x (.move environment (.worker i)) ⟨.worked i (.query id command callback), []⟩
        {.task (.query id command callback)}
        (sentIf alive (.job (.queried id command.generation (queryResult command) callback))) x
  | stream (environment : Environment) (i id : Nat) (command : ReadCommand) (t t' : Transmission)
      (contacts : List Contact)
      (stepped : t.step (environment.consumer id command.generation command.host command.port) command
        ((x id).slot.isCancelled command.generation) = (contacts, .goesOn t')) :
      Effect working alive x (.move environment (.worker i))
        ⟨.worked i (.stream id command t), contacts.map (Event.contacted id command.generation)⟩
        {.task (.stream id command t)} {.task (.stream id command t')} x
  | streamEnd (environment : Environment) (i id : Nat) (command : ReadCommand) (t : Transmission)
      (contacts : List Contact) (result : Attempt Outcome)
      (stepped : t.step (environment.consumer id command.generation command.host command.port) command
        ((x id).slot.isCancelled command.generation) = (contacts, .ends result)) :
      Effect working alive x (.move environment (.worker i))
        ⟨.worked i (.stream id command t), contacts.map (Event.contacted id command.generation)⟩
        {.task (.stream id command t)}
        (sentIf alive (.job (.streamed id command.generation command.numBytes result))) x
  | stopping (a : Action) (silent : ∀ c, a ≠ .call c) : Effect working alive x a ⟨.stopping, []⟩ 0 0 x

theorem Effect.of_sessions_eq {working alive : Bool} {x y z : Nat → Session} {a : Action} {o : Occurrence}
    {consumed produced : Multiset Item} (same : y = z)
    (effect : Effect working alive x a o consumed produced z) :
    Effect working alive x a o consumed produced y := same ▸ effect

/-- A step from one state to another that takes items away and puts items in their place as `Effect` says, and
leaves the rest. -/
def Accounted (s : Scheduler) (a : Action) (o : Occurrence) (s' : Scheduler) : Prop :=
  ∃ rest consumed produced, s.pending = consumed + rest ∧ s'.pending = produced + rest ∧
    Effect s.isWorking s.controlAlive s.sessions a o consumed produced s'.sessions

theorem Accounted.of_more {s s' : Scheduler} {a : Action} {o : Occurrence} {produced : Multiset Item}
    (more : s'.pending = produced + s.pending)
    (effect : Effect s.isWorking s.controlAlive s.sessions a o 0 produced s'.sessions) :
    Accounted s a o s' := ⟨s.pending, 0, produced, (zero_add _).symm, more, effect⟩

theorem Accounted.of_same {s s' : Scheduler} {a : Action} {o : Occurrence} (same : s'.pending = s.pending)
    (effect : Effect s.isWorking s.controlAlive s.sessions a o 0 0 s'.sessions) : Accounted s a o s' :=
  .of_more (by rw [same, zero_add]) effect

/-! ### Calls -/

theorem submitted_task (s : Scheduler) (t : Task) :
    (s.submitted (s.submitTask? t)).1.pending = sentIf s.isWorking (.task t) + s.pending ∧
    (s.submitted (s.submitTask? t)).1.sessions = s.sessions ∧
    (s.submitted (s.submitTask? t)).2 = submission s.isWorking := by
  cases working : s.isWorking with
  | true =>
    rw [submitTask?_of_working working]
    exact ⟨pending_queueTask s t, rfl, rfl⟩
  | false =>
    rw [submitTask?_of_not_working working]
    exact ⟨(zero_add _).symm, rfl, rfl⟩

theorem newHolder?_self (slot : ReadSlot) : newHolder? slot slot = none := by
  unfold newHolder? ReadSlot.isActive
  cases slot.active <;> simp

theorem read_claimed {s : Scheduler} {id : Nat} {arguments positional : List Argument}
    {callback : Callback} {source : Source}
    (split : Argument.splitCallback arguments = .ok (positional, callback))
    (found : (s.sessions id).source = some source) (free : (s.sessions id).slot.active = none)
    (served : s.controlAlive = true) :
    let generation := (s.sessions id).slot.issued + 1
    let claiming := s.setSlot id
      { (s.sessions id).slot with active := some ⟨generation, false⟩, issued := generation }
    s.read id arguments = ({ claiming with
      control := s.control ++ [.job (.startRead id (some source) (some generation) positional callback)] },
      .ok ()) := by
  simp [read, split, found, ReadSlot.begin?, free, submitJob?, served]
  rfl

theorem read_stopped {s : Scheduler} {id : Nat} {arguments positional : List Argument}
    {callback : Callback} {source : Source}
    (split : Argument.splitCallback arguments = .ok (positional, callback))
    (found : (s.sessions id).source = some source) (free : (s.sessions id).slot.active = none)
    (gone : s.controlAlive = false) :
    (s.read id arguments).1.pending = s.pending ∧
    (s.read id arguments).1.sessions = withSlot s.sessions id
      { (s.sessions id).slot with active := none, issued := (s.sessions id).slot.issued + 1 } ∧
    (s.read id arguments).2 = .error .stopped := by
  simp [read, split, found, ReadSlot.begin?, free, submitJob?, gone, released, ReadSlot.release,
    ReadSlot.isHeldBy]

theorem read_unclaimed {s : Scheduler} {id : Nat} {arguments positional : List Argument}
    {callback : Callback} (split : Argument.splitCallback arguments = .ok (positional, callback))
    (unclaimed : (s.sessions id).source = none ∨ (s.sessions id).slot.active ≠ none) :
    s.read id arguments
      = (s.post (.startRead id (s.sessions id).source none positional callback),
          submission s.controlAlive) := by
  have nothing : ((s.sessions id).source.bind fun _ => (s.sessions id).slot.begin?) = none := by
    rcases unclaimed with missing | held
    · rw [missing, Option.bind_none]
    · cases holder : (s.sessions id).slot.active with
      | none => exact absurd holder held
      | some read => simp [ReadSlot.begin?, holder]
  cases alive : s.controlAlive <;> simp [read, split, nothing, post, submitJob?, alive, submission]

theorem read_accounted (s : Scheduler) (id : Nat) (arguments : List Argument) :
    Accounted s (.call (.read id arguments)) ⟨s.deed (.call (.read id arguments)), []⟩
      (s.call (.read id arguments)).1 := by
  simp only [deed, call]
  cases split : Argument.splitCallback arguments with
  | error e =>
    have nothing : s.read id arguments = (s, .error e) := by simp [read, split]
    rw [nothing]
    refine .of_same rfl ?_
    rw [newHolder?_self]
    exact .misread id arguments e split
  | ok handed =>
    obtain ⟨positional, callback⟩ := handed
    -- A read claims the slot exactly if there is a source and no read is outstanding.
    by_cases claims : (∃ source, (s.sessions id).source = some source) ∧ (s.sessions id).slot.active = none
    · obtain ⟨⟨source, found⟩, free⟩ := claims
      cases alive : s.controlAlive with
      | true =>
        rw [read_claimed split found free alive]
        refine .of_more (pending_queueJob (s.setSlot id _) _) ?_
        have effect := @Effect.readClaimed s.isWorking s.controlAlive s.sessions id arguments positional
          callback source split found free alive
        simpa [found, newHolder?, ReadSlot.isActive, free] using effect
      | false =>
        obtain ⟨same, sessions, reply⟩ := read_stopped split found free alive
        refine .of_same same ?_
        rw [sessions, reply, found]
        have effect := @Effect.readStopped s.isWorking s.controlAlive s.sessions id arguments positional
          callback source split found free alive
        simpa [newHolder?, ReadSlot.isActive, free] using effect
    · have unclaimed : (s.sessions id).source = none ∨ (s.sessions id).slot.active ≠ none := by
        cases found : (s.sessions id).source with
        | none => exact .inl rfl
        | some source => exact .inr fun free => claims ⟨⟨source, found⟩, free⟩
      rw [read_unclaimed split unclaimed]
      refine .of_more (pending_post s _) ?_
      rw [sessions_post, newHolder?_self]
      exact .readUnclaimed id arguments positional callback split unclaimed

theorem call_accounted (s : Scheduler) (c : Call) :
    Accounted s (.call c) ⟨s.deed (.call c), []⟩ (s.call c).1 := by
  cases c with
  | create id pipeline callback =>
    obtain ⟨more, same, reply⟩ := submitted_task s (.openSource id pipeline callback)
    refine .of_more more ?_
    simp only [deed, call, create, same, reply]
    exact .create id pipeline callback
  | parse id pipeline callback =>
    obtain ⟨more, same, reply⟩ := submitted_task s (.validate id pipeline callback)
    refine .of_more more ?_
    simp only [deed, call, parse, same, reply]
    exact .parse id pipeline callback
  | destroy id =>
    refine .of_same rfl ?_
    simp only [deed, call, destroy, sessions_setSource]
    exact .destroy id
  | read id arguments => exact read_accounted s id arguments
  | cancel id =>
    refine .of_same rfl ?_
    simp only [deed, call, cancel, sessions_setSlot]
    exact .cancel id

/-! ### Jobs of the control thread -/

/-- Handing a task to the workers, or else giving up the slot. -/
theorem handOver (s : Scheduler) (t : Task) (id generation : Nat) (after : Scheduler)
    (handed : after = match s.submitTask? t with
      | some s => s
      | none => s.releaseSlot id generation) :
    after.pending = sentIf s.isWorking (.task t) + s.pending ∧
    after.sessions = if s.isWorking then s.sessions else released s.sessions id generation := by
  subst handed
  cases working : s.isWorking with
  | true =>
    rw [submitTask?_of_working working]
    exact ⟨pending_queueTask s t, rfl⟩
  | false =>
    rw [submitTask?_of_not_working working]
    exact ⟨(zero_add _).symm, sessions_releaseSlot s id generation⟩

theorem refuse_spec (s : Scheduler) (id generation : Nat) (callback : Callback) (reports : List Report)
    (reason : String) :
    (s.refuse id generation callback reports reason).1.pending = s.pending ∧
    (s.refuse id generation callback reports reason).1.sessions
      = (if callback.aborts then s.sessions else released s.sessions id generation) ∧
    (s.refuse id generation callback reports reason).2
      = reports.map (Event.reported id) ++ [refusal id callback reason] := by
  unfold refuse
  cases callback.aborts with
  | true => exact ⟨rfl, rfl, rfl⟩
  | false => exact ⟨rfl, sessions_releaseSlot s id generation, rfl⟩

/-- What is said of a job that is run: it may leave a task, and shows what `Effect` says. -/
def JobAccounted (environment : Environment) (s : Scheduler) (j : ControlJob) : Prop :=
  ∃ produced, (s.runJob j).1.pending = produced + s.pending ∧
    Effect s.isWorking s.controlAlive s.sessions (.move environment .control) ⟨.ran j, (s.runJob j).2⟩
      {.job j} produced (s.runJob j).1.sessions

theorem startRead_accounted (environment : Environment) (s : Scheduler) (id generation : Nat)
    (source : Source) (positional : List Argument) (callback : Callback) :
    JobAccounted environment s (.startRead id (some source) (some generation) positional callback) := by
  have dropped : ∀ e ∈ (ReadRequest.dropped positional).map fun entry =>
      Event.noted id (.entryDropped entry), e.isNote = true := by
    intro e member
    obtain ⟨entry, _, rfl⟩ := List.mem_map.mp member
    rfl
  have one_more (n : Note) : ∀ e ∈ ((ReadRequest.dropped positional).map fun entry =>
      Event.noted id (.entryDropped entry)) ++ [.noted id n], e.isNote = true := by
    intro e member
    rcases List.mem_append.mp member with early | late
    · exact dropped e early
    · rw [List.mem_singleton.mp late]
      rfl
  cases made : ReadCommand.ofArguments source positional generation with
  | ok command =>
    obtain ⟨more, sessions⟩ := handOver s (.query id command callback) id generation
      (s.startQuery id generation command callback) rfl
    refine ⟨sentIf s.isWorking (.task (.query id command callback)), ?_, ?_⟩
    · simp only [runJob, made, more]
    · simp only [runJob, made, sessions]
      exact .startQuery environment id generation source positional callback command _ made (one_more _)
  | error rejection =>
    obtain ⟨same, sessions, events⟩ := refuse_spec s id generation callback [] rejection.message
    refine ⟨0, ?_, ?_⟩
    · simp only [runJob, made, same, zero_add]
    · simp only [runJob, made, sessions, events, List.map_nil, List.nil_append]
      rw [List.append_cons]
      exact .decodeFailed environment id generation source positional callback rejection _ made (one_more _)

theorem queried_accounted (environment : Environment) (s : Scheduler) (id generation : Nat)
    (result : Attempt (ReadCommand × Except ReadError Unit)) (callback : Callback) :
    JobAccounted environment s (.queried id generation result callback) := by
  -- The query failed, by itself or by being aborted, or it succeeded with a filled command.
  cases failed : failure? result with
  | some reason =>
    have refused : s.runJob (.queried id generation result callback)
        = s.refuse id generation callback [.readFailed generation reason] reason := by
      cases result with
      | aborted =>
        obtain rfl : abortedText = reason := by simpa [failure?] using failed
        rfl
      | returned handed =>
        obtain ⟨command, outcome⟩ := handed
        cases outcome with
        | ok => simp [failure?] at failed
        | error e =>
          obtain rfl : e.message = reason := by simpa [failure?] using failed
          rfl
    obtain ⟨same, sessions, events⟩ :=
      refuse_spec s id generation callback [.readFailed generation reason] reason
    refine ⟨0, ?_, ?_⟩
    · rw [refused, same, zero_add]
    · rw [refused, sessions, events]
      exact .queryFailed environment id generation result callback reason failed
  | none =>
    obtain ⟨command, rfl⟩ : ∃ command, result = .returned (command, .ok ()) := by
      cases result with
      | aborted => simp [failure?] at failed
      | returned handed =>
        obtain ⟨command, outcome⟩ := handed
        cases outcome with
        | ok => exact ⟨command, rfl⟩
        | error e => simp [failure?] at failed
    have accepted : s.runJob (.queried id generation (.returned (command, .ok ())) callback)
        = s.accept id generation command callback := rfl
    unfold JobAccounted
    rw [accepted]
    unfold accept
    cases aborts : callback.aborts with
    | true =>
      refine ⟨0, (zero_add _).symm, ?_⟩
      rw [if_pos rfl, sessions_setSlot]
      exact .acceptAborted environment id generation command callback aborts
    | false =>
      -- The slot has advanced before the transmission is handed over, and stays so if that is refused.
      obtain ⟨more, sessions⟩ := handOver
        (s.setSlot id ((s.sessions id).slot.advance generation).2) (.stream id command {}) id generation
        _ rfl
      refine ⟨_, more, ?_⟩
      rw [if_neg Bool.false_ne_true]
      refine Effect.of_sessions_eq sessions ?_
      rw [sessions_setSlot]
      exact .accept environment id generation command callback aborts

theorem opened_accounted (environment : Environment) (s : Scheduler) (id : Nat)
    (result : Attempt (Except SourceError Source)) (callback : Callback) :
    JobAccounted environment s (.opened id result callback) := by
  have effect (notes : List Event) (quiet : ∀ e ∈ notes, e.isNote = true) :=
    @Effect.opened s.isWorking s.controlAlive s.sessions environment id result callback notes quiet
  refine ⟨0, ?_, ?_⟩
  · rw [zero_add]
    cases result with
    | aborted => rfl
    | returned answer => cases answer <;> rfl
  · -- Only a source that was opened replaces the one that the session holds.
    cases result with
    | aborted => simpa [runJob, sourceAfter] using effect [] (by simp)
    | returned answer =>
      cases answer with
      | error e => simpa [runJob, sourceAfter] using effect [] (by simp)
      | ok source =>
        simpa [runJob, sourceAfter] using effect [.noted id (.sourceOpened source.numPoints)]
          (by simp [Event.isNote])

theorem validated_accounted (environment : Environment) (s : Scheduler) (id : Nat)
    (result : Attempt (Except SourceError Unit)) (callback : Callback) :
    JobAccounted environment s (.validated id result callback) := by
  have effect := @Effect.validated s.isWorking s.controlAlive s.sessions environment id result callback
  refine ⟨0, ?_, ?_⟩
  · rw [zero_add]
    cases result with
    | aborted => rfl
    | returned answer => cases answer <;> rfl
  · cases result with
    | aborted => simpa [runJob, sourceAfterValidation] using effect
    | returned answer => cases answer <;> simpa [runJob, sourceAfterValidation] using effect

theorem runJob_accounted (environment : Environment) (s : Scheduler) (j : ControlJob) :
    JobAccounted environment s j := by
  cases j with
  | startRead id source claim positional callback =>
    cases source with
    | none => exact ⟨0, (zero_add _).symm, .notCreated environment id claim positional callback⟩
    | some source =>
      cases claim with
      | none => exact ⟨0, (zero_add _).symm, .inProgress environment id source positional callback⟩
      | some generation => exact startRead_accounted environment s id generation source positional callback
  | opened id result callback => exact opened_accounted environment s id result callback
  | validated id result callback => exact validated_accounted environment s id result callback
  | queried id generation result callback =>
    exact queried_accounted environment s id generation result callback
  | streamed id generation numBytes result =>
    refine ⟨0, (zero_add _).symm, ?_⟩
    have effect := @Effect.finish s.isWorking s.controlAlive s.sessions environment id generation numBytes
      result
    cases result <;> simpa [runJob, finalOutcome] using effect

theorem stepControl?_accounted {environment : Environment} {s s' : Scheduler} {events : List Event}
    (moved : s.stepControl? = some (s', events)) :
    Accounted s (.move environment .control) ⟨s.deed (.move environment .control), events⟩ s' := by
  unfold stepControl? at moved
  split at moved
  · cases moved
  · split at moved
    next => cases moved
    next rest next_is_stop =>
      cases moved
      -- A stop message is no item, so nothing is taken away.
      refine .of_same ?_ ?_
      · simp [pending, next_is_stop, itemsOf_cons, Entry.content?]
      · simp only [deed, next_is_stop]
        exact .stopping _ (by simp)
    next j rest next_is_job =>
      obtain ⟨produced, more, effect⟩ := runJob_accounted environment { s with control := rest } j
      rw [Option.some.inj moved] at more effect
      refine ⟨_, {.job j}, produced, pending_of_control next_is_job, more, ?_⟩
      simp only [deed, next_is_job]
      exact effect

/-! ### Workers -/

theorem finishTask_spec {s : Scheduler} {i : Nat} {t : Task} (found : s.workers[i]? = some (.running t))
    (result : ControlJob) :
    s.pending = {.task t} + (s.setWorker i .idle).pending ∧
    (s.finishTask i result).pending = sentIf s.controlAlive (.job result) + (s.setWorker i .idle).pending ∧
    (s.finishTask i result).sessions = s.sessions := by
  have left := pending_setWorker found .idle
  rw [Worker.items_running, Worker.items_idle, add_zero] at left
  refine ⟨?_, pending_post _ result, sessions_post _ result⟩
  rw [← left, add_comm]

theorem runTask_accounted (environment : Environment) {s : Scheduler} {i : Nat} {t : Task}
    (found : s.workers[i]? = some (.running t)) :
    Accounted s (.move environment (.worker i)) ⟨.worked i t, (s.runTask environment i t).2⟩
      (s.runTask environment i t).1 := by
  cases t with
  | openSource id pipeline callback =>
    obtain ⟨before, after, same⟩ := finishTask_spec found
      (.opened id (environment.provider.openSource pipeline) callback)
    refine ⟨_, _, _, before, after, ?_⟩
    exact .of_sessions_eq same (.openSource environment i id pipeline callback)
  | validate id pipeline callback =>
    obtain ⟨before, after, same⟩ := finishTask_spec found
      (.validated id (environment.provider.validate pipeline) callback)
    refine ⟨_, _, _, before, after, ?_⟩
    exact .of_sessions_eq same (.validate environment i id pipeline callback)
  | query id command callback =>
    obtain ⟨before, after, same⟩ := finishTask_spec found
      (.queried id command.generation (queryResult command) callback)
    refine ⟨_, _, _, before, after, ?_⟩
    exact .of_sessions_eq same (.query environment i id command callback)
  | stream id command t =>
    cases stepped : t.step (environment.consumer id command.generation command.host command.port) command
        ((s.sessions id).slot.isCancelled command.generation) with
    | mk contacts next =>
      cases next with
      | goesOn t' =>
        -- Both states are compared with the one where the worker is idle.
        have moved := pending_setWorker found (.running (.stream id command t'))
        have left := pending_setWorker found .idle
        rw [Worker.items_running, Worker.items_idle, add_zero] at left
        rw [Worker.items_running, Worker.items_running, ← left, add_right_comm, add_left_inj] at moved
        refine ⟨(s.setWorker i .idle).pending, {.task (.stream id command t)},
          {.task (.stream id command t')}, ?_, ?_, ?_⟩
        · rw [← left, add_comm]
        · simp only [runTask, stepped, moved]
          rw [add_comm]
        · simp only [runTask, stepped, sessions_setWorker]
          exact .stream environment i id command t t' contacts stepped
      | ends result =>
        obtain ⟨before, after, same⟩ := finishTask_spec found
          (.streamed id command.generation command.numBytes result)
        simp only [runTask, stepped]
        refine ⟨_, _, _, before, after, ?_⟩
        exact .of_sessions_eq same (.streamEnd environment i id command t contacts result stepped)

theorem stepWorker?_accounted {environment : Environment} {s s' : Scheduler} {i : Nat}
    {events : List Event} (moved : s.stepWorker? environment i = some (s', events)) :
    Accounted s (.move environment (.worker i)) ⟨s.deed (.move environment (.worker i)), events⟩ s' := by
  unfold stepWorker? at moved
  split at moved
  next found =>
    split at moved
    next => cases moved
    next rest next_is_stop =>
      cases moved
      refine .of_same ?_ ?_
      · have before := pending_of_work next_is_stop
        have after := pending_setWorker (s := { s with work := rest }) found .exited
        rw [Worker.items_idle, Worker.items_exited, add_zero, add_zero] at after
        rw [after, before]
        simp [Entry.content?]
      · simp only [deed, found, next_is_stop]
        exact .stopping _ (by simp)
    next t rest next_is_job =>
      cases moved
      -- The task moves from the queue to the worker, and is pending before and after.
      refine .of_same ?_ ?_
      · have before := pending_of_work next_is_job
        have after := pending_setWorker (s := { s with work := rest }) found (.running t)
        rw [Worker.items_idle, Worker.items_running, add_zero] at after
        rw [after, before]
        simp [Entry.content?, add_comm]
      · simp only [deed, found, next_is_job]
        exact .took environment i t
  next t found =>
    have accounted := runTask_accounted environment found
    rw [Option.some.inj moved] at accounted
    simpa only [deed, found] using accounted
  next => cases moved

/-! ### Every step -/

theorem stepShutdown?_accounted (environment : Environment) {s s' : Scheduler}
    (moved : s.stepShutdown? = some s') :
    Accounted s (.move environment .shutdown) ⟨.stopping, []⟩ s' := by
  have same : s'.pending = s.pending ∧ s'.sessions = s.sessions := by
    unfold stepShutdown? at moved
    split at moved
    · cases moved
      exact ⟨by simp [pending, itemsOf_append, itemsOf_cons, Entry.content?], rfl⟩
    · split at moved
      · cases moved
        exact ⟨by simp [pending, itemsOf_append, itemsOf_cons, Entry.content?], rfl⟩
      · cases moved
    · cases moved
  refine .of_same same.1 ?_
  rw [same.2]
  exact .stopping _ (by simp)

/-- Whatever is done, it is one of the effects. -/
theorem act_effect {s s' : Scheduler} {a : Action} {o : Occurrence} (acted : s.act? a = some (s', o)) :
    Accounted s a o s' := by
  cases a with
  | call c =>
    cases acted
    exact call_accounted s c
  | shutdown =>
    cases acted
    have same : s.shutdown.pending = s.pending ∧ s.shutdown.sessions = s.sessions := by
      unfold shutdown
      split <;> exact ⟨rfl, rfl⟩
    refine .of_same same.1 ?_
    rw [same.2]
    exact .stopping _ (by simp)
  | move environment m =>
    obtain ⟨⟨after, events⟩, moved, same⟩ := Option.map_eq_some_iff.mp acted
    cases same
    cases m with
    | control => exact stepControl?_accounted moved
    | worker i => exact stepWorker?_accounted moved
    | shutdown =>
      obtain ⟨reached, stepped, same⟩ := Option.map_eq_some_iff.mp moved
      cases same
      exact stepShutdown?_accounted environment stepped

end Scheduler

end PointStream
