import PointStream.Proofs.Scheduler.Course
import PointStream.Proofs.Scheduler.Errands

/-!
# What a read is bound to

A read takes the source and the claim of its session when it is called, and that decides what becomes of it. Two runs in
which a session is in one state when it is read show the same of the read, one of them perhaps further on than the
other, whatever else is called before or afterwards and however the threads move.
-/

namespace PointStream

open Scheduler

/-- The job that a read of a session in this state posts. -/
def Session.readJob (session : Session) (id : Nat) (positional : List Argument) (callback : Callback) : ControlJob :=
  .startRead id session.source session.claim? positional callback

theorem Session.of_claim? {session : Session} {generation : Nat} (claims : session.claim? = some generation) :
    ∃ source, session.source = some source ∧ session.slot.active = none ∧ generation = session.slot.issued + 1 := by
  unfold Session.claim? ReadSlot.begin? at claims
  cases found : session.source with
  | none => simp [found] at claims
  | some source =>
    cases free : session.slot.active with
    | some read => simp [found, free] at claims
    | none => exact ⟨source, rfl, rfl, by simpa [found, free, eq_comm] using claims⟩

/-- The reason for which a read is refused that does not claim a slot. -/
def Session.refusalText (session : Session) : String :=
  match session.source with
  | none => notCreatedText
  | some _ => inProgressText

/-- A read that does not claim a slot shows that it is refused, and nothing else. -/
theorem Session.solo_readJob {session : Session} {id : Nat} {positional : List Argument} {callback : Callback}
    (unclaimed : session.claim? = none) (consumer : String → Nat → Consumer) :
    solo consumer (.job (session.readJob id positional callback)) 1 =
      ([.reported id (.readRejected session.refusalText), refusal id callback session.refusalText], none) := by
  unfold Session.readJob Session.refusalText
  rw [unclaimed]
  cases session.source with
  | none => rfl
  | some source => rfl

theorem Session.token?_readJob {session : Session} {id generation : Nat} {positional : List Argument}
    {callback : Callback} (claims : session.claim? = some generation) :
    (Item.job (session.readJob id positional callback)).token? = some (id, generation) := by
  obtain ⟨source, found, -⟩ := Session.of_claim? claims
  rw [Session.readJob, found, claims]
  rfl

namespace Scheduler

/-! ### What a run shows of a read -/

/-- The job that the control thread runs, with what it shows. -/
def Step.performed? (x : Step) : Option (ControlJob × List Event) := x.ran?.map fun j => (j, x.occurrence.shown)

/-- What is shown of a read that is called at `p`: all that is shown for its generation or, if it claimed no slot, what
the run of its job shows. -/
def shownOfRead (steps : List Step) (p id : Nat) : (claim : Option Nat) → List Event
  | some generation => eventsOf id generation (steps.map Step.occurrence)
  | none => ((steps.filterMap Step.performed?)[place Step.posted? steps p]?).elim [] Prod.snd

theorem filterMap_performed (steps : List Step) :
    (steps.filterMap Step.performed?).map Prod.fst = steps.filterMap Step.ran? := by
  rw [List.map_filterMap]
  congr 1
  funext x
  unfold Step.performed?
  cases x.ran? <;> rfl

theorem place_performed (steps : List Step) (q : Nat) : place Step.performed? steps q = place Step.ran? steps q := by
  rw [place, place, ← filterMap_performed, List.length_map]

theorem performed?_of_ran {y : Step} {j : ControlJob} (ran : y.ran? = some j) :
    y.performed? = some (j, y.occurrence.shown) := by
  rw [Step.performed?, ran, Option.map_some]

/-- The job that is run in the place of one that was posted is that one. -/
theorem exists_run_of_performed {admits : Action → Prop} {n p : Nat} {s : Scheduler} {steps : List Step} {x : Step}
    {j j' : ControlJob} {shown : List Event} (path : Path admits (start n) steps s) (found : steps[p]? = some x)
    (posts : x.posted? = some j)
    (performed : (steps.filterMap Step.performed?)[place Step.posted? steps p]? = some (j', shown)) :
    ∃ (q : Nat) (y : Step), steps[q]? = some y ∧ y.ran? = some j ∧ y.occurrence.shown = shown := by
  obtain ⟨q, y, at_q, runs, same⟩ := exists_place performed
  obtain ⟨k, ran, shows⟩ := Option.map_eq_some_iff.mp runs
  obtain ⟨rfl, rfl⟩ := Prod.mk.inj shows
  obtain ⟨p', -, serves⟩ := jobLine.exists_put path at_q ran
  obtain ⟨x', found', (posts' : x'.posted? = some k)⟩ := serves.puts
  -- The job that is run there was posted at the same place.
  have in_line : place Step.posted? steps p' = place Step.posted? steps p := by
    rw [← same, place_performed]
    exact serves.inLine
  obtain rfl := eq_of_place_eq ⟨x', k, found', posts'⟩ ⟨x, j, found, posts⟩ in_line
  obtain rfl := Option.some.inj (found.symm.trans found')
  obtain rfl := Option.some.inj (posts.symm.trans posts')
  exact ⟨q, y, at_q, ran, rfl⟩

/-- The action leaves the scheduler running, and the calls to the consumer of a read come out in one way. -/
def Action.Offers (id : Nat) (claim : Option Nat) (consumer : String → Nat → Consumer) (a : Action) : Prop :=
  a ≠ .shutdown ∧ ∀ environment m generation, a = .move environment m → claim = some generation →
    environment.consumer id generation = consumer

/-- A run in which a session is read that is in a given state then. No shutdown is requested, the read is not cancelled,
and its consumer behaves in a given way. -/
structure Reading (id : Nat) (positional : List Argument) (callback : Callback) (session : Session)
    (consumer : String → Nat → Consumer) where
  workers : Nat
  before : List Step
  state : Scheduler
  after : List Step
  final : Scheduler
  positive : 0 < workers
  reached : Path (· ≠ .shutdown) (start workers) before state
  current : state.sessions id = session
  goesOn : Path (Action.Offers id session.claim? consumer)
    (state.call (.read id (positional ++ [.callback callback]))).1 after final
  uncancelled : ∀ generation, session.claim? = some generation →
    (final.sessions id).slot.isCancelled generation = false

namespace Reading

variable {id : Nat} {positional : List Argument} {callback : Callback} {session : Session}
  {consumer : String → Nat → Consumer} (r : Reading id positional callback session consumer)

def reply : Reply := (r.state.call (.read id (positional ++ [.callback callback]))).2

/-- The step in which the read is called. -/
def step : Step where
  before := r.state
  action := .call (.read id (positional ++ [.callback callback]))
  occurrence := ⟨.called (.read id (positional ++ [.callback callback])) r.reply, []⟩
  after := (r.state.call (.read id (positional ++ [.callback callback]))).1

def steps : List Step := r.before ++ [r.step] ++ r.after

/-- All that is shown of the read: reports, the answer to its callback, and the calls to its consumer. -/
def events : List Event := shownOfRead r.steps r.before.length id session.claim?

/-- A worker streams a command for the read. -/
def Sends (command : ReadCommand) : Prop :=
  session.claim? = some command.generation ∧
    ∃ x ∈ r.steps, ∃ i t, x.deed = .worked i (.stream id command t)

theorem called_path : Path (· ≠ .shutdown) (start r.workers) (r.before ++ [r.step]) r.step.after :=
  r.reached.step nofun rfl

theorem path : Path (· ≠ .shutdown) (start r.workers) r.steps r.final :=
  r.called_path.trans (r.goesOn.mono fun _ offers => offers.1)

theorem getElem?_steps : r.steps[r.before.length]? = some r.step := by
  rw [steps, List.append_assoc, List.getElem?_append_right (le_refl _), Nat.sub_self]
  rfl

/-- The call takes the read on and posts its job. -/
theorem called : r.reply = .read (.ok ()) session.source session.claim? ∧
    r.step.posted? = some (session.readJob id positional callback) ∧
    r.step.after.pending = {.job (session.readJob id positional callback)} + r.state.pending := by
  have serving := serving_of_run (fun _ on => on) r.positive r.reached.run
  have acted : r.state.act? r.step.action = some (r.step.after, r.step.occurrence) := rfl
  -- What is posted is known from how the call turns the queues over, and what is pending from its effect.
  have sends := (turned_of_act acted).sends rfl
  obtain ⟨rest, consumed, produced, before, after, effect⟩ := act_effect acted
  obtain rfl := effect.consumed_eq
  rw [serving.isWorking, serving.alive] at sends effect
  obtain ⟨called, sent⟩ := sends.calls_read
  obtain ⟨-, rfl⟩ := effect.calls_read
  rw [r.current] at called sent after
  obtain rfl : r.state.pending = rest := before.trans (zero_add rest)
  exact ⟨(Deed.called.inj called).2, (sentOf_eq_job sent.symm).1, after⟩

/-! ### What is shown of a read is on its course -/

/-- What is shown of a read is what it shows by itself in so many steps, and that is all if nothing is queued or
running. -/
structure AtStage (k : Nat) : Prop where
  shown : r.events = (solo consumer (.job (session.readJob id positional callback)) k).1
  ended : r.final.IsQuiet → (solo consumer (.job (session.readJob id positional callback)) k).2 = none

/-- A read that claimed the slot has shown nothing when it is called. -/
theorem eventsOf_at_call {generation : Nat} (claims : session.claim? = some generation) :
    eventsOf id generation ((r.before ++ [r.step]).map Step.occurrence) = [] ∧
    r.step.after.carriers id generation = {.job (session.readJob id positional callback)} := by
  obtain ⟨told, -⟩ := chronicle_of_any_run r.positive r.reached.run
  obtain ⟨-, -, -, fresh⟩ := Session.of_claim? claims
  obtain ⟨-, -, after⟩ := r.called
  have issued : (r.state.sessions id).slot.issued < generation := by
    rw [r.current, fresh]
    exact Nat.lt_succ_self _
  constructor
  · rw [List.map_append, List.map_singleton, eventsOf_snoc_of_silent rfl]
    apply eventsOf_of_no_turn
    intro turn
    exact absurd (told.turn_le turn) (not_le.mpr issued)
  · have none_old : r.state.carriers id generation = 0 := by
      unfold carriers
      rw [Multiset.filter_eq_nil]
      intro i member token
      obtain ⟨c, claimed, rfl, rfl, -⟩ := told.underway i member id generation token
      exact absurd (told.issued c claimed) (not_le.mpr issued)
    unfold carriers at none_old ⊢
    rw [after, Multiset.filter_add, none_old, add_zero, Multiset.filter_singleton,
      if_pos (Session.token?_readJob claims)]

theorem mem_claims_at_call {generation : Nat} {source : Source} (claims : session.claim? = some generation)
    (found : session.source = some source) :
    (⟨id, generation, source, positional, callback⟩ : Claim)
      ∈ Scheduler.claims ((r.before ++ [r.step]).map Step.occurrence) := by
  obtain ⟨replied, -, -⟩ := r.called
  have claimed : r.step.occurrence.claim? = some ⟨id, generation, source, positional, callback⟩ := by
    simp [step, replied, Occurrence.claim?, found, claims, splitCallback_append]
  rw [List.map_append, List.map_singleton, claims_snoc, claimed]
  exact List.mem_append_right _ (List.mem_singleton_self _)

theorem stage_of_claim {generation : Nat} (claims : session.claim? = some generation) : ∃ k, r.AtStage k := by
  obtain ⟨source, found, -, -⟩ := Session.of_claim? claims
  obtain ⟨silent, carried⟩ := r.eventsOf_at_call claims
  obtain ⟨k, shown, left⟩ := stage_of_claimed r.positive (fun _ offers => offers.1)
    (fun environment m offers => offers.2 environment m generation rfl claims) r.called_path.run
    (r.mem_claims_at_call claims found) ⟨rfl, rfl⟩ silent carried r.goesOn.run (r.uncancelled generation claims)
  refine ⟨k, ?_, fun quiet => ?_⟩
  · rw [events, claims, ← shown, ← List.map_append]
    rfl
  · -- Where nothing is pending, nothing is left of the read.
    rw [carriers, pending_of_quiet quiet, Multiset.filter_zero] at left
    cases ended : (solo consumer (.job (session.readJob id positional callback)) k).2 with
    | none => rfl
    | some i => simp [ended] at left

theorem performed_of_quiet (quiet : r.final.IsQuiet) :
    (r.steps.filterMap Step.performed?)[place Step.posted? r.steps r.before.length]? ≠ none := by
  obtain ⟨-, posts, -⟩ := r.called
  have posted := getElem?_place r.getElem?_steps posts
  have ordered : r.steps.filterMap Step.posted? = r.steps.filterMap Step.ran? ++ _ := jobLine.in_order r.path
  have empty : jobLine.queue r.final = [] := quiet.1
  intro missing
  rw [ordered, empty, List.filterMap_nil, List.append_nil, ← filterMap_performed, List.getElem?_map, missing] at posted
  cases posted

theorem stage_of_refusal (unclaimed : session.claim? = none) : ∃ k, r.AtStage k := by
  have shows : r.events =
      ((r.steps.filterMap Step.performed?)[place Step.posted? r.steps r.before.length]?).elim [] Prod.snd := by
    rw [events, unclaimed, shownOfRead]
  cases performed : (r.steps.filterMap Step.performed?)[place Step.posted? r.steps r.before.length]? with
  | none => exact ⟨0, by rw [shows, performed]; rfl, fun quiet => absurd performed (r.performed_of_quiet quiet)⟩
  | some run =>
    obtain ⟨j, shown⟩ := run
    obtain ⟨-, posts, -⟩ := r.called
    -- The step that runs the job shows the refusal.
    obtain ⟨q, x, found, ran, rfl⟩ := exists_run_of_performed r.path r.getElem?_steps posts performed
    obtain ⟨earlier, -, acted, -⟩ := r.path.step_at found
    have serving := serving_of_run (fun _ on => on) r.positive earlier.run
    obtain ⟨rest, consumed, produced, -, -, effect⟩ := act_effect acted
    rw [serving.isWorking, serving.alive] at effect
    refine ⟨1, ?_, fun _ => ?_⟩
    · rw [shows, performed]
      exact effect.refuses (deed_of_ran ran) unclaimed
    · rw [Session.solo_readJob unclaimed]

theorem exists_stage : ∃ k, r.AtStage k := by
  cases claims : session.claim? with
  | some generation => exact r.stage_of_claim claims
  | none => exact r.stage_of_refusal claims

/-- A command that is streamed for the read is the one that its claim makes and its query fills. -/
theorem fills_of_sends {command : ReadCommand} (sends : r.Sends command) {source : Source}
    (found : session.source = some source) :
    (⟨id, command.generation, source, positional, callback⟩ : Claim).Fills command := by
  obtain ⟨claims, x, member, i, t, works⟩ := sends
  obtain ⟨q, at_q⟩ := List.getElem?_of_mem member
  obtain ⟨earlier, -, acted, -⟩ := r.path.step_at at_q
  obtain ⟨told, -⟩ := chronicle_of_any_run r.positive earlier.run
  obtain ⟨rest, consumed, produced, pending, -, effect⟩ := act_effect acted
  obtain rfl := effect.consumed_eq
  have here : Item.task (.stream id command t) ∈ x.before.pending := by
    rw [pending, show x.occurrence.deed = _ from works]
    exact Multiset.mem_add.mpr (.inl (Multiset.mem_singleton_self _))
  obtain ⟨c, claimed, session_c, generation_c, underway, -⟩ := told.underway _ here id command.generation rfl
  -- The claim under way is that of the read, as there is one for each generation.
  obtain ⟨all, -⟩ := chronicle_of_any_run r.positive r.path.run
  have known : c ∈ Scheduler.claims (r.steps.map Step.occurrence) := by
    rw [← List.take_append_drop q r.steps, List.map_append]
    exact mem_claims_append claimed _
  have own : (⟨id, command.generation, source, positional, callback⟩ : Claim)
      ∈ Scheduler.claims (r.steps.map Step.occurrence) := by
    rw [steps, List.map_append]
    exact mem_claims_append (r.mem_claims_at_call claims found) _
  obtain rfl := all.unique known own session_c generation_c
  generalize eventsOf id command.generation _ = events at underway
  cases underway with
  | connecting filled fills => exact fills
  | sending filled fills => exact fills

end Reading

/-! ### Two runs of one read -/

/-- A read is bound to the source and the claim that its session has when it is called. What is shown of it is on the
course that these, its arguments and its consumer determine. So two runs in which the session is in the same state show
the same of the read as far as they go, and the same to its end where nothing is left to be done. They stream the same
command, with its source, consumer and filled buffer. Whether the read is refused for want of a source or a slot is
known from its call. -/
theorem read_bound_at_call {id : Nat} {positional : List Argument} {callback : Callback} {session : Session}
    {consumer : String → Nat → Consumer} (one other : Reading id positional callback session consumer) :
    one.reply = .read (.ok ()) session.source session.claim? ∧ one.reply = other.reply ∧ (∃ k, one.AtStage k) ∧
    (one.events <+: other.events ∨ other.events <+: one.events) ∧
    (one.final.IsQuiet → other.final.IsQuiet → one.events = other.events) ∧
    (∀ command command', one.Sends command → other.Sends command' → command = command') ∧
    (∀ reason, .reported id (.readRejected reason) ∈ one.events →
      session.claim? = none ∧ reason = session.refusalText) ∧
    (session.claim? = none → one.final.IsQuiet → one.events =
      [.reported id (.readRejected session.refusalText), refusal id callback session.refusalText]) := by
  obtain ⟨k, shown, ended⟩ := one.exists_stage
  obtain ⟨l, shown', ended'⟩ := other.exists_stage
  refine ⟨one.called.1, one.called.1.trans other.called.1.symm, ⟨k, shown, ended⟩, ?_, fun quiet quiet' => ?_, ?_, ?_,
    ?_⟩
  · -- Both are on one course.
    rw [shown, shown']
    exact (Nat.le_total k l).imp solo_mono solo_mono
  · rw [shown, shown']
    exact solo_end_unique (ended quiet) (ended' quiet')
  · intro command command' sends sends'
    obtain ⟨source, found, -⟩ := Session.of_claim? sends.1
    have fills := one.fills_of_sends sends found
    have fills' := other.fills_of_sends sends' found
    rw [Option.some.inj (sends'.1.symm.trans sends.1)] at fills'
    exact fills.unique fills'
  · intro reason member
    rw [shown] at member
    cases claims : session.claim? with
    | some generation =>
      -- A read that claimed its slot is not refused for want of one.
      refine absurd member ((solo_of_token ?_).1 id reason)
      simp [Session.token?_readJob claims]
    | none =>
      have all : solo consumer (.job (session.readJob id positional callback)) (k + 1) = _ :=
        (solo_ended (by rw [Session.solo_readJob claims]) (Nat.le_add_left 1 k)).trans
          (Session.solo_readJob claims consumer)
      have listed := (solo_mono (Nat.le_succ k)).subset member
      rw [all] at listed
      simpa [refusal] using listed
  · intro unclaimed quiet
    have all : solo consumer (.job (session.readJob id positional callback)) 1 = _ :=
      Session.solo_readJob unclaimed consumer
    rw [shown, solo_end_unique (ended quiet) (congrArg Prod.snd all), all]

/-- A source is opened. -/
def opening : List Action := [
  .call (.create 0 "pipeline" { recipient := 0 }), .move openHanded (.worker 0), .move openHanded (.worker 0),
  .move openHanded .control]

/-- The read is served, and nothing else is done. -/
def serveRead : List Action := [
  .move openHanded .control, .move openHanded (.worker 0), .move openHanded (.worker 0), .move openHanded .control,
  .move openHanded (.worker 0), .move openHanded (.worker 0), .move openHanded (.worker 0),
  .move openHanded (.worker 0), .move openHanded (.worker 0), .move openHanded (.worker 0), .move openHanded .control]

/-- The source is dropped before the read is decoded, and another one is asked for, which is opened while the read is
transmitted. -/
def serveWhileReplaced : List Action := [
  .call (.destroy 0), .call (.create 0 "other" { recipient := 0 }), .move openHanded (.worker 0),
  .move openHanded .control, .move openHanded (.worker 1), .move openHanded (.worker 1), .move openHanded .control,
  .move openHanded (.worker 1), .move openHanded (.worker 1), .move openHanded (.worker 1),
  .move openHanded (.worker 0), .move openHanded .control, .move openHanded (.worker 1), .move openHanded (.worker 1),
  .move openHanded (.worker 1), .move openHanded .control]

def afterOpening (workers : Nat) : Scheduler := ((start workers).follow opening).1

theorem offers_openHanded (claim : Option Nat) {actions : List Action}
    (served : ∀ a ∈ actions, (∃ c, a = .call c) ∨ ∃ m, a = .move openHanded m) :
    ∀ a ∈ actions, a.Offers 0 claim (openHanded.consumer 0 1) := by
  intro a member
  rcases served a member with ⟨c, rfl⟩ | ⟨m, rfl⟩
  · exact ⟨nofun, nofun⟩
  · refine ⟨nofun, fun environment m' generation same _ => ?_⟩
    cases same
    rfl

/-- A read of both points of an opened source. -/
def readingOfBoth (workers : Nat) (positive : 0 < workers)
    (current : (afterOpening workers).sessions 0 = (afterOpening 1).sessions 0) (actions : List Action)
    (served : ∀ a ∈ actions, (∃ c, a = .call c) ∨ ∃ m, a = .move openHanded m)
    (uncancelled : ((((afterOpening workers).call (readOfBoth 1)).1.follow actions).1.sessions 0).slot.isCancelled 1
      = false) :
    Reading 0 firstClaim.positional { recipient := 1 } ((afterOpening 1).sessions 0) (openHanded.consumer 0 1) where
  workers := workers
  before := (start workers).trail opening
  state := afterOpening workers
  after := ((afterOpening workers).call (readOfBoth 1)).1.trail actions
  final := (((afterOpening workers).call (readOfBoth 1)).1.follow actions).1
  positive := positive
  reached := path_trail _ _ (by simp [opening])
  current := current
  goesOn := path_trail _ _ (offers_openHanded _ served)
  uncancelled generation claims := by
    obtain rfl : 1 = generation := Option.some.inj claims
    exact uncancelled

/-- One worker serves the read, or two do while the source is replaced. -/
theorem read_survives_replacement :
    let one := readingOfBoth 1 (by decide) rfl serveRead (by simp [serveRead]) rfl
    let other := readingOfBoth 2 (by decide) rfl serveWhileReplaced (by simp [serveWhileReplaced]) rfl
    one.events = other.events ∧ one.events.length = 7 ∧
      one.reply = .read (.ok ()) (some firstClaim.source) (some 1) := by
  intro one other
  obtain ⟨replied, -, -, -, same, -⟩ := read_bound_at_call one other
  have quiet : one.final.IsQuiet := isQuiet_of_workers 1 rfl rfl rfl
  have quiet' : other.final.IsQuiet := isQuiet_of_workers 2 rfl rfl rfl
  exact ⟨same quiet quiet', rfl, replied⟩

end Scheduler

end PointStream
