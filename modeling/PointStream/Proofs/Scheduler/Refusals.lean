import PointStream.Proofs.Scheduler.Binding

/-!
# Refusals and the observer

A read is refused because its session has no source, because another read is in progress, because no command can be
made of its arguments, or because its query fails. Its callback is told the reason in each case. The observer is told
it in all cases but one: where no command can be made nothing is reported. What is reported belongs to one read, which
is answered with the same reason.
-/

namespace PointStream

open Scheduler

/-- The reason of the refusal that is reported. -/
def Report.refusal? : Report → Option String
  | readRejected reason | readFailed _ reason => some reason
  | readAccepted .. | transmitStarted .. | transmitFinished .. => none

/-- The reason of the refusal that a callback or the observer is told of. -/
def Event.refusal? : Event → Option String
  | answered _ _ (.read (.rejected reason)) => some reason
  | reported _ report => report.refusal?
  | _ => none

namespace Scheduler

/-- A read that was taken on: what it was called with, and the source and the claim that it found. -/
structure ReadCall where
  session : Nat
  source : Option Source
  claim : Option Nat
  positional : List Argument
  callback : Callback

/-- The job that a read posts. -/
def ReadCall.job (r : ReadCall) : ControlJob := .startRead r.session r.source r.claim r.positional r.callback

/-- The read that a step calls and that is taken on. -/
def Occurrence.readCall? (o : Occurrence) : Option ReadCall :=
  match o.deed with
  | .called (.read session arguments) (.read (.ok ()) source claim) =>
    match Argument.splitCallback arguments with
    | .ok (positional, callback) => some ⟨session, source, claim, positional, callback⟩
    | .error _ => none
  | _ => none

/-- The call of the read that made a claim. -/
def Claim.call (c : Claim) : ReadCall := ⟨c.session, some c.source, some c.generation, c.positional, c.callback⟩

/-- All that a refused read shows, by the reason of the refusal. -/
inductive ReadCall.Refused (r : ReadCall) : (reason : String) → List Event → Prop
  | notCreated (missing : r.source = none) :
      Refused r notCreatedText
        [.reported r.session (.readRejected notCreatedText), refusal r.session r.callback notCreatedText]
  | inProgress (source : Source) (found : r.source = some source) (unclaimed : r.claim = none) :
      Refused r inProgressText
        [.reported r.session (.readRejected inProgressText), refusal r.session r.callback inProgressText]
  /-- No command can be made of the arguments, and the observer is told nothing. -/
  | undecodable (source : Source) (generation : Nat) (rejection : Rejection) (found : r.source = some source)
      (claimed : r.claim = some generation)
      (refused : ReadCommand.ofArguments source r.positional generation = .error rejection) :
      Refused r rejection.message [refusal r.session r.callback rejection.message]
  | failed (source : Source) (generation : Nat) (command : ReadCommand) (reason : String)
      (found : r.source = some source) (claimed : r.claim = some generation)
      (made : ReadCommand.ofArguments source r.positional generation = .ok command)
      (fails : failure? (queryResult command) = some reason) :
      Refused r reason [.reported r.session (.readFailed generation reason), refusal r.session r.callback reason]

/-- All that is told of one refusal is told with one reason. -/
theorem ReadCall.Refused.reason_eq {r : ReadCall} {reason reason' : String} {events : List Event}
    (refused : r.Refused reason events) {e : Event} (member : e ∈ events) (refuses : e.refusal? = some reason') :
    reason = reason' := by
  have told (events : List Event) (all : ∀ e ∈ events, e.refusal? = some reason) (within : e ∈ events) :
      reason = reason' := Option.some.inj ((all e within).symm.trans refuses)
  cases refused with
  | notCreated | inProgress | failed => exact told _ (by simp [Event.refusal?, Report.refusal?, refusal]) member
  | undecodable => exact told _ (by simp [Event.refusal?, refusal]) member

/-! ### What a claimed read shows -/

theorem refusal?_acceptance (c : Claim) (filled : ReadCommand) : ∀ e ∈ acceptance c filled, e.refusal? = none := by
  simp [acceptance, Event.refusal?, Report.refusal?]

theorem refusal?_transmission (c : Claim) (filled : ReadCommand) (contacts : List Contact) :
    ∀ e ∈ transmission c filled contacts, e.refusal? = none := by
  rw [transmission, List.forall_mem_append]
  refine ⟨refusal?_acceptance c filled, fun e member => ?_⟩
  obtain ⟨contact, -, rfl⟩ := List.mem_map.mp member
  rfl

/-- As long as an item of a read is pending the read has not been refused. -/
theorem Underway.refusal? {c : Claim} {i : Item} {events : List Event} (underway : Underway c i events) :
    ∀ e ∈ events, e.refusal? = none := by
  cases underway with
  | posted | querying | queried => nofun
  | connecting filled => exact refusal?_acceptance c filled
  | sending filled fills t phase contacts => exact refusal?_transmission c filled contacts
  | ended filled fills contacts => exact refusal?_transmission c filled contacts

section

variable {c : Claim} {events : List Event} {e : Event} {reason : String}

theorem Lifecycle.refused (all : Lifecycle c events) (member : e ∈ events) (refuses : e.refusal? = some reason) :
    ∃ reason, c.call.Refused reason events := by
  cases all with
  | undecodable rejection refused => exact ⟨_, .undecodable c.source c.generation rejection rfl rfl refused⟩
  | failed command reason made fails => exact ⟨_, .failed c.source c.generation command reason rfl rfl made fails⟩
  | streamed filled contacts =>
    rcases List.mem_append.mp member with early | last
    · rw [refusal?_transmission c filled contacts e early] at refuses
      cases refuses
    · rw [List.mem_singleton.mp last] at refuses
      cases refuses

theorem Halted.refused (cut : Halted c events) (member : e ∈ events) (refuses : e.refusal? = some reason) :
    ∃ reason, c.call.Refused reason events := by
  cases cut with
  | undecodable rejection refused => exact ⟨_, .undecodable c.source c.generation rejection rfl rfl refused⟩
  | failed command reason made fails => exact ⟨_, .failed c.source c.generation command reason rfl rfl made fails⟩
  | accepted filled =>
    rcases List.mem_cons.mp member with rfl | last
    · cases refuses
    · rw [List.mem_singleton.mp last] at refuses
      cases refuses

/-- A claimed read that has shown a refusal has shown all of it, and nothing else. -/
theorem Chronicle.refused {lossy : Prop} {history : List Occurrence} {items : Multiset Item} {x : Nat → Session}
    (told : Chronicle lossy history items x) (claimed : c ∈ claims history)
    (member : e ∈ eventsOf c.session c.generation history) (refuses : e.refusal? = some reason) :
    c.call.Refused reason (eventsOf c.session c.generation history) := by
  obtain ⟨reason', refused⟩ : ∃ reason, c.call.Refused reason (eventsOf c.session c.generation history) := by
    -- Neither what is still carried nor what was dropped has shown a refusal.
    rcases told.carried_or_settled claimed with ⟨i, pending, token⟩ | settled
    · rw [(told.underway_of claimed pending token).refusal? e member] at refuses
      cases refuses
    · cases settled with
      | complete calm all => exact all.refused member refuses
      | halted aborts cut => exact cut.refused member refuses
      | dropped loses begun =>
        rcases begun with nothing | ⟨filled, -, accepted⟩
        · rw [nothing] at member
          cases member
        · rw [refusal?_acceptance c filled e (accepted ▸ member)] at refuses
          cases refuses
  obtain rfl := refused.reason_eq member refuses
  exact refused

end

/-! ### Steps -/

section

variable {working alive : Bool} {x x' : Nat → Session} {a : Action} {o : Occurrence} {consumed produced : Multiset Item}
  {r : ReadCall}

/-- The call of a read puts its job in place. A read without source claims no slot. -/
theorem Effect.of_readCall (effect : Effect working alive x a o consumed produced x') (called : o.readCall? = some r) :
    produced = {.job r.job} ∧ (r.source = none → r.claim = none) := by
  cases effect with
  | readUnclaimed id arguments positional callback split =>
    cases alive with
    | true =>
      obtain rfl : (⟨id, (x id).source, none, positional, callback⟩ : ReadCall) = r := by
        simpa [Occurrence.readCall?, submission, split] using called
      exact ⟨rfl, fun _ => rfl⟩
    | false => simp [Occurrence.readCall?, submission] at called
  | readClaimed id arguments positional callback source split =>
    obtain rfl : (⟨id, some source, some ((x id).slot.issued + 1), positional, callback⟩ : ReadCall) = r := by
      simpa [Occurrence.readCall?, split] using called
    exact ⟨rfl, fun missing => absurd missing (Option.some_ne_none source)⟩
  | _ => simp [Occurrence.readCall?] at called

/-- A job that starts a read is put in place by the call of the read. -/
theorem Effect.readCall_of_job (effect : Effect working alive x a o consumed produced x')
    (member : .job r.job ∈ produced) : o.readCall? = some r := by
  obtain ⟨id, source, claim, positional, callback⟩ := r
  cases effect with
  | readUnclaimed _ _ _ _ split =>
    cases alive with
    | true =>
      obtain ⟨rfl, rfl, rfl, rfl, rfl⟩ : id = _ ∧ source = _ ∧ claim = none ∧ positional = _ ∧ callback = _ := by
        simpa [ReadCall.job] using member
      simp [Occurrence.readCall?, submission, split]
    | false => simp at member
  | readClaimed _ _ _ _ _ split =>
    obtain ⟨rfl, rfl, rfl, rfl, rfl⟩ : id = _ ∧ source = some _ ∧ claim = some _ ∧ positional = _ ∧ callback = _ := by
      simpa [ReadCall.job] using member
    simp [Occurrence.readCall?, split]
  | create | parse | startQuery | accept => cases working <;> simp at member
  | openSource | validate | query | streamEnd => cases alive <;> simp [ReadCall.job] at member
  | _ => simp at member

/-- A refusal is shown in a step that works on a claim, or when the job is run that starts a read. -/
theorem Effect.of_refusal (effect : Effect working alive x a o consumed produced x') {e : Event} {reason : String}
    (member : e ∈ o.shown) (refuses : e.refusal? = some reason) :
    (∃ id generation, o.deed.token? = some (id, generation)) ∨ ∃ r : ReadCall, o.deed = .ran r.job := by
  cases effect with
  | notCreated environment id claim positional callback => exact .inr ⟨⟨id, none, claim, positional, callback⟩, rfl⟩
  | inProgress environment id source positional callback =>
    exact .inr ⟨⟨id, some source, none, positional, callback⟩, rfl⟩
  | decodeFailed environment id generation | startQuery environment id generation
  | queryFailed environment id generation | accept environment id generation
  | acceptAborted environment id generation | finish environment id generation => exact .inl ⟨id, generation, rfl⟩
  | stream environment i id command | streamEnd environment i id command =>
    exact .inl ⟨id, command.generation, rfl⟩
  | opened environment id result callback notes quiet =>
    -- Behind the notes stands an answer, but not to a read.
    rw [shown_notes quiet, Occurrence.shown] at member
    obtain rfl := List.mem_singleton.mp (List.mem_of_mem_filter member)
    cases refuses
  | validated =>
    obtain rfl := List.mem_singleton.mp (List.mem_of_mem_filter member)
    cases refuses
  | _ => cases member

/-- A read that has claimed no slot is refused when its job is run. -/
theorem Effect.refused (effect : Effect working alive x a o consumed produced x') (runs : o.deed = .ran r.job)
    (unclaimed : r.claim = none) : ∃ reason, r.Refused reason o.shown := by
  obtain ⟨id, source, claim, positional, callback⟩ := r
  obtain rfl : claim = none := unclaimed
  cases effect with
  | notCreated =>
    cases runs
    exact ⟨_, .notCreated rfl⟩
  | inProgress _ _ source =>
    cases runs
    exact ⟨_, .inProgress source rfl rfl⟩
  | _ => cases runs

end

/-- A claim is made by the read with its source and its generation. -/
theorem claim?_eq_some_iff {o : Occurrence} {c : Claim} : o.claim? = some c ↔ o.readCall? = some c.call := by
  unfold Occurrence.claim? Occurrence.readCall?
  constructor
  · intro claims
    split at claims
    next deed =>
      split at claims
      next split =>
        cases claims
        simp only [deed, split]
        rfl
      next => cases claims
    next => cases claims
  · intro called
    split at called
    next deed =>
      split at called
      next split =>
        obtain ⟨id, generation, source, positional, callback⟩ := c
        cases called
        simp only [deed, split]
      next => cases called
    next => cases called

/-! ### Whose step it is -/

/-- The step at `p` calls a read. -/
def CalledAt (steps : List Step) (p : Nat) (r : ReadCall) : Prop :=
  ∃ x, steps[p]? = some x ∧ x.occurrence.readCall? = some r

/-- The step at `q` is one of the read that is called at `p`: it works on the claim of the read or, if the read made
none, runs the job that the call posts. -/
structure Pursues (steps : List Step) (p q : Nat) (r : ReadCall) : Prop where
  called : CalledAt steps p r
  works : match r.claim with
    | some generation => ∃ y, steps[q]? = some y ∧ y.deed.token? = some (r.session, generation)
    | none => Serves Step.posted? Step.ran? steps p q r.job

variable {admits : Action → Prop} {n : Nat} {s : Scheduler} {steps : List Step} {p p' q : Nat} {r r' : ReadCall}

theorem Pursues.claimed (pursues : Pursues steps p q r) {generation : Nat} (claims : r.claim = some generation) :
    ∃ y, steps[q]? = some y ∧ y.deed.token? = some (r.session, generation) := by
  have works := pursues.works
  rwa [claims] at works

theorem Pursues.unclaimed (pursues : Pursues steps p q r) (unclaimed : r.claim = none) :
    Serves Step.posted? Step.ran? steps p q r.job := by
  have works := pursues.works
  rwa [unclaimed] at works

theorem posted?_of_called (path : Path admits (start n) steps s) {x : Step} (found : steps[p]? = some x)
    (called : x.occurrence.readCall? = some r) : x.posted? = some r.job := by
  obtain ⟨-, -, acted, -⟩ := path.step_at found
  have client : x.deed.worker? = none := by
    unfold Step.deed
    unfold Occurrence.readCall? at called
    split at called
    next deed =>
      rw [deed]
      rfl
    next => cases called
  have effect := (show Turned x from turned_of_act acted).sends client
  exact (sentOf_eq_job (effect.of_readCall called).1.symm).1

theorem CalledAt.unique (one : CalledAt steps p r) (other : CalledAt steps p r') : r = r' := by
  obtain ⟨x, found, called⟩ := one
  obtain ⟨x', found', called'⟩ := other
  obtain rfl := Option.some.inj (found.symm.trans found')
  exact Option.some.inj (called.symm.trans called')

theorem result?_ne_job (x : Step) (r : ReadCall) : x.result? ≠ some r.job := by
  intro told
  unfold Step.result? at told
  split at told
  next environment _ i t _ _ =>
    cases t with
    | openSource | validate | query => cases told
    | stream =>
      dsimp only [Task.result?] at told
      split at told <;> cases told
  next => cases told

/-- A job that starts a read is posted by the call of the read. -/
theorem exists_called_of_ran (path : Path admits (start n) steps s) {y : Step} (found : steps[q]? = some y)
    (runs : y.deed = .ran r.job) : ∃ p, CalledAt steps p r ∧ Serves Step.posted? Step.ran? steps p q r.job := by
  obtain ⟨p, -, serves⟩ := jobLine.exists_put path found (show y.ran? = some r.job by rw [Step.ran?, runs])
  obtain ⟨x, at_p, (posts : x.posted? = some r.job)⟩ := serves.puts
  obtain ⟨-, -, acted, -⟩ := path.step_at at_p
  refine ⟨p, ⟨x, at_p, ?_⟩, serves⟩
  cases worker : x.deed.worker? with
  | none =>
    have effect := (show Turned x from turned_of_act acted).sends worker
    exact effect.readCall_of_job (by simp [Step.sent, sentOf, posts])
  | some i =>
    obtain ⟨t, -, result⟩ := ends_of_posted acted posts worker
    exact absurd result (result?_ne_job x r)

/-- A read that works on a claim is the one that made it. -/
theorem exists_called_of_token (positive : 0 < n) (path : Path admits (start n) steps s) {y : Step}
    (found : steps[q]? = some y) {id generation : Nat} (token : y.deed.token? = some (id, generation)) :
    ∃ (p : Nat) (c : Claim), c.session = id ∧ c.generation = generation ∧ CalledAt steps p c.call := by
  obtain ⟨earlier, -, acted, -⟩ := path.step_at found
  obtain ⟨told, -⟩ := chronicle_of_any_run positive earlier.run
  obtain ⟨rest, consumed, produced, pending, -, effect⟩ := act_effect acted
  obtain ⟨i, member, carries⟩ := effect.deed_carried token
  obtain ⟨c, claimed, session, gen, -⟩ :=
    told.underway i (pending ▸ Multiset.mem_add.mpr (.inl member)) id generation carries
  obtain ⟨o, listed, claims⟩ := List.mem_filterMap.mp claimed
  obtain ⟨x, early, rfl⟩ := List.mem_map.mp listed
  obtain ⟨p, at_p⟩ := List.getElem?_of_mem (List.mem_of_mem_take early)
  exact ⟨p, c, session, gen, x, at_p, claim?_eq_some_iff.mp claims⟩

theorem mem_claims_of_called {c : Claim} (called : CalledAt steps p c.call) :
    c ∈ claims (steps.map Step.occurrence) := by
  obtain ⟨x, found, reads⟩ := called
  exact List.mem_filterMap.mpr
    ⟨x.occurrence, List.mem_map_of_mem (List.mem_of_getElem? found), claim?_eq_some_iff.mpr reads⟩

/-- A read that made a claim found a source. -/
theorem CalledAt.exists_claim (called : CalledAt steps p r) (path : Path admits (start n) steps s) {generation : Nat}
    (claims : r.claim = some generation) : ∃ c : Claim, c.call = r ∧ c.generation = generation := by
  obtain ⟨x, found, reads⟩ := called
  obtain ⟨-, -, acted, -⟩ := path.step_at found
  obtain ⟨_, _, _, -, -, effect⟩ := act_effect acted
  have nothing := (effect.of_readCall reads).2
  obtain ⟨id, source, claim, positional, callback⟩ := r
  obtain rfl : claim = some generation := claims
  cases source with
  | none => cases nothing rfl
  | some source => exact ⟨⟨id, generation, source, positional, callback⟩, rfl, rfl⟩

/-- Each generation of a session is claimed by one read. -/
theorem eq_of_claims (positive : 0 < n) (path : Path admits (start n) steps s) {c c' : Claim}
    (one : CalledAt steps p c.call) (other : CalledAt steps p' c'.call) (session : c.session = c'.session)
    (generation : c.generation = c'.generation) : p = p' := by
  obtain ⟨told, -⟩ := chronicle_of_any_run positive path.run
  obtain ⟨x, found, reads⟩ := one
  obtain ⟨x', found', reads'⟩ := other
  have distinct := told.distinct
  rw [claims, List.filterMap_map] at distinct
  have claims := claim?_eq_some_iff.mpr reads
  have claims' := claim?_eq_some_iff.mpr reads'
  rcases Nat.lt_trichotomy p p' with lt | eq | gt
  · exact absurd generation (rel_of_lt distinct found claims found' claims' lt session).ne
  · exact eq
  · exact absurd generation (rel_of_lt distinct found' claims' found claims gt session.symm).ne'

/-- A job of a read that made no claim works on none. -/
theorem token?_job (unclaimed : r.claim = none) : (Item.job r.job).token? = none := by
  obtain ⟨id, source, claim, positional, callback⟩ := r
  obtain rfl : claim = none := unclaimed
  cases source <;> rfl

/-- No step is one of two reads. -/
theorem Pursues.unique (positive : 0 < n) (path : Path admits (start n) steps s) (one : Pursues steps p q r)
    (other : Pursues steps p' q r') : p = p' := by
  -- A step that works on a claim does not run the job of a read that made none.
  have apart {p p' : Nat} {r r' : ReadCall} (one : Pursues steps p q r) (unclaimed : r.claim = none)
      (other : Pursues steps p' q r') {generation : Nat} (claims : r'.claim = some generation) : False := by
    obtain ⟨y, found, ran⟩ := (one.unclaimed unclaimed).takes
    obtain ⟨y', found', carries⟩ := other.claimed claims
    obtain rfl := Option.some.inj (found.symm.trans found')
    rw [deed_of_ran ran, Deed.token?, token?_job unclaimed] at carries
    cases carries
  cases claims : r.claim with
  | none =>
    cases claims' : r'.claim with
    | none => exact (one.unclaimed claims).injective (other.unclaimed claims')
    | some generation' => exact (apart one claims other claims').elim
  | some generation =>
    cases claims' : r'.claim with
    | none => exact (apart other claims' one claims).elim
    | some generation' =>
      obtain ⟨y, found, carries⟩ := one.claimed claims
      obtain ⟨y', found', carries'⟩ := other.claimed claims'
      obtain rfl := Option.some.inj (found.symm.trans found')
      obtain ⟨session, rfl⟩ : r.session = r'.session ∧ generation = generation' := by
        simpa using carries.symm.trans carries'
      obtain ⟨c, rfl, rfl⟩ := one.called.exists_claim path claims
      obtain ⟨c', rfl, same⟩ := other.called.exists_claim path claims'
      exact eq_of_claims positive path one.called other.called session same.symm

/-! ### What is shown of a read -/

/-- The run of the job that a step posts is at its place. -/
theorem performed_of_serves {j : ControlJob} (serves : Serves Step.posted? Step.ran? steps p q j) {y : Step}
    (found : steps[q]? = some y) :
    (steps.filterMap Step.performed?)[place Step.posted? steps p]? = some (j, y.occurrence.shown) := by
  obtain ⟨y', found', ran⟩ := serves.takes
  obtain rfl := Option.some.inj (found.symm.trans found')
  rw [serves.inLine, ← place_performed]
  exact getElem?_place found (performed?_of_ran ran)

/-- What a step of a read shows is shown of the read. -/
theorem Pursues.shown (pursues : Pursues steps p q r) {y : Step} (found : steps[q]? = some y) :
    y.occurrence.shown <:+: shownOfRead steps p r.session r.claim := by
  cases claims : r.claim with
  | none =>
    rw [shownOfRead, performed_of_serves (pursues.unclaimed claims) found]
    exact List.infix_rfl
  | some generation =>
    obtain ⟨y', found', token⟩ := pursues.claimed claims
    obtain rfl := Option.some.inj (found.symm.trans found')
    have own : y.occurrence.shownOf r.session generation = y.occurrence.shown := if_pos token
    have within : y.occurrence ∈ steps.map Step.occurrence := List.mem_map_of_mem (List.mem_of_getElem? found)
    obtain ⟨early, late, split⟩ := List.append_of_mem within
    rw [shownOfRead, eventsOf, ← own, split, List.flatMap_append, List.flatMap_cons, ← List.append_assoc]
    exact List.infix_append _ _ _

/-- A read that shows a refusal shows how it is refused, and nothing else. -/
theorem CalledAt.refused (positive : 0 < n) (path : Path admits (start n) steps s) (called : CalledAt steps p r)
    {e : Event} (member : e ∈ shownOfRead steps p r.session r.claim) {reason : String}
    (refuses : e.refusal? = some reason) : r.Refused reason (shownOfRead steps p r.session r.claim) := by
  cases claims : r.claim with
  | some generation =>
    rw [claims] at member
    obtain ⟨told, -⟩ := chronicle_of_any_run positive path.run
    obtain ⟨c, rfl, rfl⟩ := called.exists_claim path claims
    exact told.refused (mem_claims_of_called called) member refuses
  | none =>
    rw [claims, shownOfRead] at member
    rw [shownOfRead]
    -- All that is shown of the read is shown by the run of its job.
    cases performed : (steps.filterMap Step.performed?)[place Step.posted? steps p]? with
    | none =>
      rw [performed] at member
      cases member
    | some run =>
      obtain ⟨j, shown⟩ := run
      rw [performed] at member
      obtain ⟨x, at_p, reads⟩ := called
      obtain ⟨q, y, found, ran, rfl⟩ :=
        exists_run_of_performed path at_p (posted?_of_called path at_p reads) performed
      have runs := deed_of_ran ran
      obtain ⟨-, -, acted, -⟩ := path.step_at found
      obtain ⟨_, _, _, -, -, effect⟩ := act_effect acted
      obtain ⟨reason', refused⟩ := effect.refused runs claims
      obtain rfl := refused.reason_eq member refuses
      exact refused

/-- A step that shows a refusal is one of a read. -/
theorem exists_pursues (positive : 0 < n) (path : Path admits (start n) steps s) {y : Step}
    (found : steps[q]? = some y) {e : Event} (member : e ∈ y.occurrence.shown) {reason : String}
    (refuses : e.refusal? = some reason) : ∃ p r, Pursues steps p q r := by
  obtain ⟨-, -, acted, -⟩ := path.step_at found
  obtain ⟨_, _, _, -, -, effect⟩ := act_effect acted
  rcases effect.of_refusal member refuses with ⟨id, generation, token⟩ | ⟨r, runs⟩
  · obtain ⟨p, c, rfl, rfl, called⟩ := exists_called_of_token positive path found token
    exact ⟨p, c.call, called, y, found, token⟩
  · obtain ⟨p, called, serves⟩ := exists_called_of_ran path found runs
    cases claims : r.claim with
    | none =>
      refine ⟨p, r, called, ?_⟩
      rwa [claims]
    | some generation =>
      -- A job that starts a read with a claim works on the claim.
      obtain ⟨c, rfl, rfl⟩ := called.exists_claim path claims
      have token : y.deed.token? = some (c.session, c.generation) := by
        rw [show y.deed = .ran c.call.job from runs]
        rfl
      exact ⟨p, c.call, called, y, found, token⟩

/-- A read of which a refusal is shown, to its callback or to the observer, shows that it is refused for one reason,
and nothing else. Unless no command can be made of its arguments the observer is told the reason, once, in a report of
a read that is rejected or has failed; then the callback is told it. Where no command can be made only the callback is
told. Whatever refusal a step shows or reports, it is shown of exactly one read. -/
theorem refusals_observed_unless_undecodable (positive : 0 < n) (path : Path admits (start n) steps s) :
    (∀ p r, CalledAt steps p r → ∀ e ∈ shownOfRead steps p r.session r.claim, ∀ reason, e.refusal? = some reason →
      r.Refused reason (shownOfRead steps p r.session r.claim)) ∧
    ∀ q y, steps[q]? = some y → ∀ e ∈ y.occurrence.shown, ∀ reason, e.refusal? = some reason →
      ∃ p r, Pursues steps p q r ∧ (∀ p' r', Pursues steps p' q r' → p' = p ∧ r' = r) ∧
        y.occurrence.shown <:+: shownOfRead steps p r.session r.claim := by
  refine ⟨fun p r called e member reason => called.refused positive path member, ?_⟩
  intro q y found e member reason refuses
  obtain ⟨p, r, pursues⟩ := exists_pursues positive path found member refuses
  refine ⟨p, r, pursues, fun p' r' other => ?_, pursues.shown found⟩
  obtain rfl := other.unique positive path pursues
  exact ⟨rfl, other.called.unique pursues.called⟩

/-- A read of a session that has no source. -/
def readOfNothing : ReadCall := { firstClaim.call with source := none, claim := none }

/-- A read of an opened source with a count that is none. -/
def readOfZero : ReadCall where
  session := 0
  source := firstClaim.source
  claim := some 1
  positional := [.value (.string "consumer"), .value (.ofNat 7000), .value (.object []), .value (.string "zero")]
  callback := { recipient := 2 }

/-- A source is opened, and then the read is called and its job is run. -/
def undecodableRead : List Action := opening ++ [
  .call (.read 0 (readOfZero.positional ++ [.callback readOfZero.callback])), .move openHanded .control]

/-- Before that the session is read without a source. -/
def refusedReads : List Action := .call (readOfBoth 1) :: .move openHanded .control :: undecodableRead

/-- The read without a source is reported, the other one is not. Each of the two steps that refuse them is one of a
read. -/
theorem refusedReads_told :
    Path (fun _ => True) (start 1) ((start 1).trail refusedReads) ((start 1).follow refusedReads).1 ∧
    readOfNothing.Refused notCreatedText (shownOfRead ((start 1).trail refusedReads) 0 0 none) ∧
    readOfZero.Refused Refusal.unidentified.message (shownOfRead ((start 1).trail refusedReads) 6 0 (some 1)) ∧
    (∃ p r, Pursues ((start 1).trail refusedReads) p 1 r) ∧ ∃ p r, Pursues ((start 1).trail refusedReads) p 7 r := by
  have path : Path (fun _ => True) (start 1) ((start 1).trail refusedReads) ((start 1).follow refusedReads).1 :=
    path_trail _ _ fun _ _ => trivial
  obtain ⟨reads, steps⟩ := refusals_observed_unless_undecodable (by decide) path
  have reported : (refusal 0 readOfNothing.callback notCreatedText).refusal? = some notCreatedText := rfl
  have answered : (refusal 0 readOfZero.callback Refusal.unidentified.message).refusal?
      = some Refusal.unidentified.message := rfl
  obtain ⟨p, r, first, -⟩ := steps 1 _ rfl _ (List.mem_cons_of_mem _ List.mem_cons_self) _ reported
  obtain ⟨p', r', second, -⟩ := steps 7 _ rfl _ List.mem_cons_self _ answered
  exact ⟨path, reads 0 readOfNothing ⟨_, rfl, rfl⟩ _ (List.mem_cons_of_mem _ List.mem_cons_self) _ reported,
    reads 6 readOfZero ⟨_, rfl, rfl⟩ _ List.mem_cons_self _ answered, ⟨p, r, first⟩, p', r', second⟩

/-- The callback is told that no command can be made, and no refusal is reported in the whole run. -/
theorem undecodable_read_unobserved :
    Path (fun _ => True) (start 1) ((start 1).trail undecodableRead) ((start 1).follow undecodableRead).1 ∧
    CalledAt ((start 1).trail undecodableRead) 4 readOfZero ∧
    refusal 0 readOfZero.callback Refusal.unidentified.message
      ∈ ((start 1).trail undecodableRead).flatMap (·.occurrence.events) ∧
    ∀ session report, .reported session report ∈ ((start 1).trail undecodableRead).flatMap (·.occurrence.events) →
      report.refusal? = none := by
  have shown : ((start 1).trail undecodableRead).flatMap (·.occurrence.events)
      = [.noted 0 (.sourceOpened 2), .answered 0 { recipient := 0 } (.opened (.ok ())),
        .noted 0 (.readRefused (.request .unidentified)),
        refusal 0 { recipient := 2 } Refusal.unidentified.message] := rfl
  refine ⟨path_trail _ _ fun _ _ => trivial, ⟨_, rfl, rfl⟩, ?_, ?_⟩
  · rw [shown]
    simp [readOfZero]
  · rw [shown]
    simp [refusal]

end Scheduler

end PointStream
