import PointStream.Proofs.Scheduler.Measured

/-!
# Cancelling reads

A cancel is aimed at the read that holds the slot, and no other read notices it. What it changes is how far the
transmission of that read goes: the chunks that were begun before are the only ones. The query, its answer and the
counts in the answer are the same with and without it.
-/

namespace PointStream

namespace Scheduler

/-! ### Outstanding reads -/

/-- A read that has claimed its slot and not given it back: something pending carries it on, or its callback has
aborted. -/
inductive Claim.Outstanding (c : Claim) (history : List Occurrence) (s : Scheduler) : Prop
  | carried (i : Item) (pending : i ∈ s.pending) (token : i.token? = some (c.session, c.generation))
  | stuck (aborts : c.callback.aborts = true) (cut : Halted c (eventsOf c.session c.generation history))

theorem Halted.length_le {c : Claim} {events : List Event} (cut : Halted c events) :
    0 < events.length ∧ events.length < 3 := by
  cases cut <;> simp

section

variable {admits : Action → Prop} {n : Nat} {before after : List Occurrence} {s s' : Scheduler} {c : Claim}
  {filled : ReadCommand}

/-- The outstanding reads are those that hold their slot. -/
theorem outstanding_iff {lossy : Prop} (told : Chronicle lossy before s.pending s.sessions)
    (claimed : c ∈ claims before) :
    c.Outstanding before s ↔ (s.sessions c.session).slot.isHeldBy c.generation = true := by
  constructor
  · intro outstanding
    cases outstanding with
    | carried i pending token => exact told.isHeldBy_of_carrier pending token
    | stuck aborts cut =>
      rcases told.carried_or_settled claimed with ⟨i, pending, token⟩ | settled
      · exact told.isHeldBy_of_carrier pending token
      · cases settled with
        | complete calm =>
          rw [calm] at aborts
          cases aborts
        | halted _ _ stuck => exact stuck
        | dropped loses begun =>
          -- A read that is dropped has shown nothing, or more than one that is cut short.
          have length := cut.length_le
          rcases begun with nothing | ⟨filled, -, accepted⟩
          · simp [nothing] at length
          · simp [accepted, acceptance] at length
  · intro held
    rcases told.carried_or_settled claimed with ⟨i, pending, token⟩ | settled
    · exact .carried i pending token
    · cases settled with
      | halted aborts cut => exact .stuck aborts cut
      | complete _ _ free | dropped _ _ free =>
        rw [held] at free
        cases free

/-! ### Being answered -/

/-- The answer of a read whose query fills its command. -/
def acceptedAnswer (c : Claim) (filled : ReadCommand) : Event :=
  .answered c.session c.callback (.read (.accepted filled.numPoints filled.numBytes))

theorem answers_acceptance {e : Event} (shown : e ∈ acceptance c filled) (answer : e.isAnswer = true) :
    e = acceptedAnswer c filled := by
  simp only [acceptance, List.mem_cons, List.not_mem_nil, or_false] at shown
  rcases shown with rfl | rfl | rfl
  · cases answer
  · rfl
  · cases answer

theorem answers_transmission {contacts : List Contact} {e : Event} (shown : e ∈ transmission c filled contacts)
    (answer : e.isAnswer = true) : e = acceptedAnswer c filled := by
  rcases List.mem_append.mp shown with accepted | contacted
  · exact answers_acceptance accepted answer
  · obtain ⟨contact, -, rfl⟩ := List.mem_map.mp contacted
    cases answer

theorem Claim.Fills.not_refused (fills : c.Fills filled) {rejection : Rejection}
    (refused : ReadCommand.ofArguments c.source c.positional c.generation = .error rejection) : False := by
  obtain ⟨command, made, -⟩ := fills
  rw [Claim.Makes, refused] at made
  cases made

theorem Claim.Fills.not_failed (fills : c.Fills filled) {command : ReadCommand} (made : c.Makes command)
    {reason : String} (fails : failure? (queryResult command) = some reason) : False := by
  obtain ⟨command', made', ran⟩ := fills
  obtain rfl : command = command' := Except.ok.inj (made.symm.trans made')
  simp [queryResult, ran, failure?] at fails

/-- A read whose query fills its command gets no other answer than that it is accepted. -/
theorem Chronicle.answers {lossy : Prop} {history : List Occurrence} {items : Multiset Item} {x : Nat → Session}
    (told : Chronicle lossy history items x) (claimed : c ∈ claims history) (fills : c.Fills filled) {e : Event}
    (shown : e ∈ eventsOf c.session c.generation history) (answer : e.isAnswer = true) :
    e = acceptedAnswer c filled := by
  rcases told.carried_or_settled claimed with ⟨i, pending, token⟩ | settled
  · have underway := told.underway_of claimed pending token
    generalize eventsOf c.session c.generation history = events at shown underway
    cases underway with
    | posted | querying | queried => cases shown
    | connecting _ fills' =>
      rw [fills.unique fills']
      exact answers_acceptance shown answer
    | sending _ fills' | ended _ fills' =>
      rw [fills.unique fills']
      exact answers_transmission shown answer
  · generalize eventsOf c.session c.generation history = events at shown settled
    cases settled with
    | complete calm all =>
      cases all with
      | undecodable rejection refused => exact (fills.not_refused refused).elim
      | failed command reason made fails => exact (fills.not_failed made fails).elim
      | streamed _ contacts outcome fills' =>
        rw [fills.unique fills']
        rcases List.mem_append.mp shown with early | last
        · exact answers_transmission early answer
        · rw [List.mem_singleton.mp last] at answer
          cases answer
    | halted aborts cut =>
      cases cut with
      | undecodable rejection refused => exact (fills.not_refused refused).elim
      | failed command reason made fails => exact (fills.not_failed made fails).elim
      | accepted _ fills' =>
        rw [fills.unique fills']
        rcases List.mem_pair.mp shown with rfl | rfl
        · cases answer
        · rfl
    | dropped loses begun =>
      rcases begun with rfl | ⟨_, fills', rfl⟩
      · cases shown
      · rw [fills.unique fills']
        exact answers_acceptance shown answer

/-- A read that no shutdown drops is accepted if its query fills its command, and transmitted unless its callback
aborts. -/
theorem Settled.accepted {held : Bool} {events : List Event} (settled : Settled False c held events)
    (fills : c.Fills filled) :
    acceptedAnswer c filled ∈ events ∧
    (c.callback.aborts = false → ∃ outcome, .reported c.session (.transmitFinished c.generation outcome) ∈ events) := by
  cases settled with
  | complete calm all =>
    cases all with
    | undecodable rejection refused => exact (fills.not_refused refused).elim
    | failed command reason made fails => exact (fills.not_failed made fails).elim
    | streamed _ contacts outcome fills' =>
      rw [fills.unique fills']
      refine ⟨?_, fun _ => ⟨outcome, by simp⟩⟩
      simp [transmission, acceptance, acceptedAnswer]
  | halted aborts cut =>
    refine ⟨?_, fun calm => ?_⟩
    · cases cut with
      | undecodable rejection refused => exact (fills.not_refused refused).elim
      | failed command reason made fails => exact (fills.not_failed made fails).elim
      | accepted _ fills' =>
        rw [fills.unique fills']
        exact List.mem_cons_of_mem _ List.mem_cons_self
    · rw [calm] at aborts
      cases aborts
  | dropped loses => exact loses.elim

/-! ### Cancels -/

/-- The step in which the reads of a session are cancelled. -/
def cancelling (s : Scheduler) (id : Nat) : Occurrence :=
  ⟨.called (.cancel id) (.cancelled (s.cancel id).2), []⟩

theorem act_cancel (s : Scheduler) (id : Nat) :
    s.act? (.call (.cancel id)) = some ((s.cancel id).1, cancelling s id) := rfl

theorem sessions_cancel (s : Scheduler) (id : Nat) :
    (s.cancel id).1.sessions = withSlot s.sessions id (s.sessions id).slot.cancel.2 := sessions_setSlot s id _

/-- A cancel sets the token of the read that holds the slot of its session, and no other. -/
theorem isCancelled_cancel (s : Scheduler) (id session generation : Nat) :
    ((s.cancel id).1.sessions session).slot.isCancelled generation
      = ((s.sessions session).slot.isCancelled generation
        || (session == id && (s.sessions id).slot.isHeldBy generation)) := by
  rw [sessions_cancel, slot_withSlot]
  split
  next same => simp [same, ReadSlot.isCancelled_cancel]
  next apart => simp [apart]

/-- A cancel that finds no read changes nothing. -/
theorem cancel_of_idle {id : Nat} (idle : (s.sessions id).slot.active = none) : s.cancel id = (s, false) := by
  have nothing : (s.sessions id).slot.cancel = (false, (s.sessions id).slot) := by
    rw [ReadSlot.cancel, idle]
  rw [cancel, nothing]
  have same : s.setSlot id (s.sessions id).slot = s := by
    have sessions : (s.setSlot id (s.sessions id).slot).sessions = s.sessions := by
      rw [sessions_setSlot]
      exact Function.update_eq_self id s.sessions
    exact congrArg (fun x => { s with sessions := x }) sessions
  exact Prod.ext same rfl

/-- A cancel has found the read of a generation holding the slot of its session. -/
def WasCancelled (admits : Action → Prop) (n : Nat) (history : List Occurrence) (s : Scheduler) (id generation : Nat) :
    Prop :=
  ∃ early late s₁, history = early ++ [cancelling s₁ id] ++ late ∧ Run admits (start n) early s₁ ∧
    (s₁.sessions id).slot.isHeldBy generation = true ∧ Run admits (s₁.cancel id).1 late s

theorem isCancelled_mono {id generation : Nat} (run : Run admits s after s')
    (set : (s.sessions id).slot.isCancelled generation = true) :
    (s'.sessions id).slot.isCancelled generation = true := by
  induction run with
  | start => exact set
  | step _ _ acted ih =>
    obtain ⟨_, _, _, _, _, effect⟩ := act_effect acted
    rw [effect.isCancelled, ih, Bool.true_or]

/-- The token of a read is set if and only if a cancel was called while the read held its slot. -/
theorem isCancelled_iff (run : Run admits (start n) before s) (id generation : Nat) :
    (s.sessions id).slot.isCancelled generation = true ↔ WasCancelled admits n before s id generation := by
  constructor
  · intro set
    induction run with
    | start => simp [start, ReadSlot.isCancelled] at set
    | @step history s₁ a s₂ o earlier admitted acted ih =>
      obtain ⟨_, _, _, _, _, effect⟩ := act_effect acted
      rw [effect.isCancelled, Bool.or_eq_true] at set
      rcases set with old | new
      · obtain ⟨early, late, s₀, rfl, found, held, later⟩ := ih old
        refine ⟨early, late ++ [o], s₀, by simp, found, held, later.step admitted acted⟩
      · obtain ⟨cancels, held⟩ := Bool.and_eq_true_iff.mp new
        -- This step is the cancel.
        obtain rfl : a = .call (.cancel id) := by
          unfold Action.cancels at cancels
          split at cancels
          next session => rw [beq_iff_eq.mp cancels]
          next => cases cancels
        rw [act_cancel] at acted
        cases acted
        exact ⟨history, [], s₁, by simp, earlier, held, .start⟩
  · rintro ⟨early, late, s₁, rfl, found, held, later⟩
    refine isCancelled_mono later ?_
    rw [isCancelled_cancel, held]
    simp

/-- A cancel finds a read if and only if one is outstanding. It sets the token of that read and of no other, and
changes nothing if there is none; the reads whose token is set are those that a cancel has found so. For the first
cancel that finds a read let `begun` be how often the loop of the read has tested its token before. If the query of
the read succeeds the consumer gets no more than so many chunks, whatever happens then. The read gets no other answer
than that it is accepted, with the counts of the query. If no call of the consumer fails its transmission ends as
cancelled after so many chunks, or as completed if these are all; and unless the scheduler is shut down there is such
an answer and such an end once nothing is left to do. -/
theorem cancel_exact (positive : 0 < n) (run : Run admits (start n) before s) (id : Nat)
    (admitted : admits (.call (.cancel id))) :
    ((s.cancel id).2 = true ↔ ∃ c ∈ claims before, c.session = id ∧ c.Outstanding before s) ∧
    (∀ session generation, ((s.cancel id).1.sessions session).slot.isCancelled generation
      = ((s.sessions session).slot.isCancelled generation
        || (session == id && (s.sessions id).slot.isHeldBy generation))) ∧
    ((s.sessions id).slot.state = .idle → s.cancel id = (s, false)) ∧
    (∀ session generation, (s.sessions session).slot.isCancelled generation = true ↔
      WasCancelled admits n before s session generation) ∧
    (∀ c ∈ claims before, c.session = id → c.Outstanding before s →
      (s.sessions id).slot.isCancelled c.generation = false → ∀ filled, c.Fills filled →
      ∀ after s', Run admits (s.cancel id).1 after s' →
        let events := eventsOf id c.generation (before ++ [cancelling s id] ++ after)
        let begun := tests id c.generation before
        (Contact.received (contactsOf events)).length ≤ min (begun * chunkSize) filled.numBytes ∧
        (∀ e ∈ events, e.isAnswer = true → e = acceptedAnswer c filled) ∧
        ((∀ a, admits a → a.Obliges id c.generation) →
          ∀ outcome, .reported id (.transmitFinished c.generation outcome) ∈ events →
            outcome = Transmission.verdict filled begun) ∧
        ((∀ a, admits a → a ≠ .shutdown) → s'.IsQuiet →
          acceptedAnswer c filled ∈ events ∧
          (c.callback.aborts = false →
            ∃ outcome, .reported id (.transmitFinished c.generation outcome) ∈ events))) := by
  obtain ⟨told, -⟩ := chronicle_of_any_run positive run
  refine ⟨?_, isCancelled_cancel s id, ?_, isCancelled_iff run, ?_⟩
  · have found : (s.cancel id).2 = (s.sessions id).slot.isActive := by
      unfold cancel ReadSlot.cancel ReadSlot.isActive
      cases (s.sessions id).slot.active <;> rfl
    rw [found]
    constructor
    · intro taken
      obtain ⟨read, active⟩ := Option.isSome_iff_exists.mp taken
      obtain ⟨c, claimed, rfl, same⟩ := told.known id read active
      exact ⟨c, claimed, rfl, (outstanding_iff told claimed).mpr (ReadSlot.isHeldBy_iff.mpr ⟨read, active, same.symm⟩)⟩
    · rintro ⟨c, claimed, rfl, outstanding⟩
      obtain ⟨read, active, -⟩ := ReadSlot.isHeldBy_iff.mp ((outstanding_iff told claimed).mp outstanding)
      exact Option.isSome_iff_exists.mpr ⟨read, active⟩
  · intro idle
    refine cancel_of_idle ?_
    unfold ReadSlot.state at idle
    split at idle
    next free => exact free
    next => split at idle <;> cases idle
  · rintro c claimed rfl outstanding unset filled fills after s' later
    have held := (outstanding_iff told claimed).mp outstanding
    have cancelled := run.step admitted (act_cancel s c.session)
    have whole := cancelled.trans later
    have still_claimed := mem_claims_append claimed [cancelling s c.session]
    have set : ((s.cancel c.session).1.sessions c.session).slot.isCancelled c.generation = true := by
      rw [isCancelled_cancel, held]
      simp
    -- The cancel itself works on no item, so the chunks begun are as many as before.
    have measured (obliging : Prop) (obliges : obliging → ∀ a, admits a → a.Obliges c.session c.generation) :
        Measured c filled obliging (tests c.session c.generation before)
          (before ++ [cancelling s c.session] ++ after) s'.pending := by
      have so_far := measured_of_run positive obliges fills run claimed unset
      have stepped := measured_act positive fills run claimed so_far (act_cancel s c.session) fun _ => trivial
      exact (measured_later positive obliges fills cancelled still_claimed set stepped later).2
    have told' := (chronicle_of_any_run positive whole).1
    refine ⟨(measured False nofun).received, fun e shown answer => ?_, fun obliges => ?_, fun on quiet => ?_⟩
    · exact told'.answers (mem_claims_append still_claimed after) fills shown answer
    · exact (measured True fun _ => obliges).reported trivial
    · have settled := (chronicle_of_serving_run positive on whole).settled c
        (mem_claims_append still_claimed after) (forsaken_of_quiet quiet c.session c.generation)
      exact settled.accepted fills

end

/-- The action leaves the scheduler running, and no call that it makes for the read fails. -/
def Action.IsKind (id generation : Nat) (a : Action) : Prop := a ≠ .shutdown ∧ a.Obliges id generation

/-- The rest of the two reads, when the first of them streams nothing. -/
def cancelledToEnd : List Action := [
  .move openHanded (.worker 1), .move openHanded .control, .move openHanded .control, .move openHanded (.worker 0),
  .move openHanded (.worker 0), .move openHanded (.worker 0), .move openHanded .control]

theorem obliging_openHanded (id generation : Nat) (host : String) (port : Nat) :
    Transmission.Obliging (openHanded.consumer id generation host port) where
  connect := rfl
  write _ _ offered some_offered := .inr ⟨offered, some_offered, rfl⟩
  flush _ _ := rfl

/-- The claim of the first read. -/
def firstClaim : Claim where
  session := 0
  generation := 1
  source := (FixedAnswer.counts 2).toSource 2 [⟨"Intensity", .unsigned, 1⟩] "\x7b\x7d"
  positional := [.value (.string "consumer"), .value (.ofNat 7000), .value (.object []), .value (.ofNat 0),
    .value (.ofNat 2)]
  callback := { recipient := 1 }

/-- The command that it makes. -/
def firstCommand : ReadCommand where
  source := firstClaim.source
  host := "consumer"
  port := 7000
  schema := ⟨[⟨"Intensity", .unsigned, 1⟩]⟩
  query := .range 0 2
  generation := 1
  buffer := [0, 0]
  numPoints := 0
  numBytes := 0

theorem firstClaim_fills : firstClaim.Fills firstCommand.run.1 := ⟨firstCommand, rfl, rfl⟩

/-- The first of the two reads is cancelled while its query is about to run. It is accepted nevertheless, and streams
nothing. -/
theorem twoReads_cancelled :
    let before := ((start 2).follow twoReads).2
    let s := ((start 2).follow twoReads).1
    let after := ((s.cancel 0).1.follow cancelledToEnd).2
    let events := eventsOf 0 1 (before ++ [cancelling s 0] ++ after)
    (s.cancel 0).2 = true ∧ tests 0 1 before = 0 ∧ acceptedAnswer firstClaim firstCommand.run.1 ∈ events ∧
    .reported 0 (.transmitFinished 1 (.cancelled 0 2)) ∈ events := by
  intro before s after events
  have move (m : Move) : Action.IsKind 0 1 (.move openHanded m) := ⟨by simp, fun _ _ => obliging_openHanded ..⟩
  have call (c : Call) : Action.IsKind 0 1 (.call c) := ⟨by simp, trivial⟩
  have run : Run (Action.IsKind 0 1) (start 2) before s := by
    refine run_follow _ _ ?_
    simp [twoReads, move, call]
  have later : Run (Action.IsKind 0 1) (s.cancel 0).1 after ((s.cancel 0).1.follow cancelledToEnd).1 := by
    refine run_follow _ _ ?_
    simp [cancelledToEnd, move]
  have claimed : firstClaim ∈ claims before := by
    rw [show claims before = [firstClaim] from rfl]
    exact List.mem_singleton_self _
  have outstanding : firstClaim.Outstanding before s :=
    (outstanding_iff (chronicle_of_any_run (by decide) run).1 claimed).mpr rfl
  have quiet : ((s.cancel 0).1.follow cancelledToEnd).1.IsQuiet := by
    refine ⟨rfl, rfl, ?_⟩
    rw [show ((s.cancel 0).1.follow cancelledToEnd).1.workers = [.idle, .idle] from rfl]
    simp
  obtain ⟨found, -, -, -, ends⟩ := cancel_exact (by decide) run 0 ⟨by simp, trivial⟩
  obtain ⟨-, -, verdict, settled⟩ := ends firstClaim claimed rfl outstanding rfl _ firstClaim_fills _ _ later
  obtain ⟨answered, finished⟩ := settled (fun _ admitted => admitted.1) quiet
  obtain ⟨outcome, reported⟩ := finished rfl
  have same := verdict (fun _ admitted => admitted.2) outcome reported
  have untested : tests 0 1 before = 0 := rfl
  have bytes : firstCommand.run.1.numBytes = 2 := rfl
  rw [show tests 0 firstClaim.generation before = 0 from untested, Transmission.verdict, bytes, Nat.zero_mul,
    if_pos (by decide)] at same
  rw [same] at reported
  exact ⟨found.mpr ⟨firstClaim, claimed, rfl, outstanding⟩, untested, answered, reported⟩

end Scheduler

end PointStream
