import PointStream.Proofs.Scheduler.Chronicle

/-!
# Accepted reads and shutdowns

A read is accepted on the control thread, and its transmission is queued for the workers in the same step. As long
as some worker has not been sent its stop message the transmission is run in time, and its end is reported before
the control thread leaves. Once every worker has left the transmission is dropped, and the slot given back with it.
-/

namespace PointStream

namespace Scheduler

/-- How often the end of the transmission of a read has been reported. -/
def finishCount (id generation : Nat) (history : List Occurrence) : Nat :=
  (history.flatMap Occurrence.events).countP (Event.finishes id generation)

/-! ### Counting reports -/

theorem token?_of_finishes {id generation : Nat} {e : Event} (finishes : e.finishes id generation = true) :
    e.token? = some (id, generation) ∧ e.isNote = false := by
  obtain ⟨outcome, rfl⟩ := Event.finishes_iff.mp finishes
  exact ⟨rfl, rfl⟩

theorem countP_finishes_shownOf {o : Occurrence} (attributed : ∀ e ∈ o.events, o.Attributes e)
    (id generation : Nat) :
    o.events.countP (Event.finishes id generation)
      = (o.shownOf id generation).countP (Event.finishes id generation) := by
  unfold Occurrence.shownOf
  split
  next works =>
    rw [Occurrence.shown, List.countP_filter]
    refine List.countP_congr fun e member => ?_
    constructor
    · intro finishes
      simp [finishes, (token?_of_finishes finishes).2]
    · intro both
      simp_all
  next elsewhere =>
    rw [List.countP_nil, List.countP_eq_zero]
    intro e member finishes
    exact elsewhere ((attributed e member).names _ (token?_of_finishes finishes).1)

/-- The reports of a read's end are among its own events. -/
theorem finishCount_eq {history : List Occurrence} (attributed : ∀ o ∈ history, ∀ e ∈ o.events, o.Attributes e)
    (id generation : Nat) :
    finishCount id generation history
      = (eventsOf id generation history).countP (Event.finishes id generation) := by
  induction history with
  | nil => rfl
  | cons o history ih =>
    rw [List.forall_mem_cons] at attributed
    have rest := ih attributed.2
    simp only [finishCount, eventsOf, List.flatMap_cons, List.countP_append] at rest ⊢
    rw [rest, countP_finishes_shownOf attributed.1]

/-- A read that shows the end of its transmission shows it once. -/
theorem Settled.finishes_once {lossy : Prop} {c : Claim} {held : Bool} {events : List Event}
    (settled : Settled lossy c held events) (calm : c.callback.aborts = false) {e : Event} (shown : e ∈ events)
    (finishes : e.finishes c.session c.generation = true) :
    events.countP (Event.finishes c.session c.generation) = 1 ∧ held = false := by
  cases settled with
  | complete _ all free =>
    cases all with
    | undecodable rejection refused =>
      rw [List.mem_singleton.mp shown] at finishes
      cases finishes
    | failed command reason made fails =>
      rcases List.mem_pair.mp shown with rfl | rfl <;> cases finishes
    | streamed filled contacts outcome fills uses =>
      rw [List.countP_append, countP_finishes_transmission]
      exact ⟨by simp [Event.finishes], free⟩
  | halted aborts =>
    rw [calm] at aborts
    cases aborts
  | dropped loses begun free =>
    rcases begun with rfl | ⟨filled, fills, rfl⟩
    · cases shown
    · have none_such := List.countP_eq_zero.mp (countP_finishes_acceptance c filled c.session c.generation) e shown
      exact absurd finishes none_such

/-! ### Being accepted -/

/-- A step that tells a callback of an acceptance hands the transmission to the workers. -/
theorem Effect.of_accepted {working alive : Bool} {x x' : Nat → Session} {a : Action} {o : Occurrence}
    {consumed produced : Multiset Item} (effect : Effect working alive x a o consumed produced x') {id : Nat}
    {callback : Callback} {points bytes : Nat} (calm : callback.aborts = false)
    (accepts : .answered id callback (.read (.accepted points bytes)) ∈ o.events) :
    ∃ environment generation command, a = .move environment .control ∧
      o.deed = .ran (.queried id generation (.returned (command, .ok ())) callback) ∧
      consumed = {.job (.queried id generation (.returned (command, .ok ())) callback)} ∧
      produced = sentIf working (.task (.stream id command {})) ∧
      o.shown = [.reported id (.readAccepted generation command.numPoints command.numBytes),
        .answered id callback (.read (.accepted command.numPoints command.numBytes)),
        .reported id (.transmitStarted generation command.host command.port command.numBytes)] ∧
      (working = false →
        x' = released (withSlot x id ((x id).slot.advance generation).2) id generation) := by
  have not_noted {notes : List Event} (quiet : ∀ e ∈ notes, e.isNote = true) :
      Event.answered id callback (.read (.accepted points bytes)) ∉ notes := fun member => by
    cases quiet _ member
  cases effect with
  | accept environment session generation command c c_calm =>
    obtain ⟨rfl, rfl, rfl, rfl⟩ : id = session ∧ callback = c ∧ points = command.numPoints ∧
        bytes = command.numBytes := by simpa using accepts
    refine ⟨environment, generation, command, rfl, rfl, rfl, rfl, rfl, fun left => ?_⟩
    simp [left]
  | acceptAborted environment session generation command c aborts =>
    obtain ⟨rfl, rfl, -⟩ : id = session ∧ callback = c ∧ points = command.numPoints ∧
        bytes = command.numBytes := by simpa using accepts
    rw [calm] at aborts
    cases aborts
  | decodeFailed environment session generation source positional c rejection notes refused quiet =>
    rcases List.mem_append.mp accepts with note | answer
    · exact absurd note (not_noted quiet)
    · simp [refusal] at answer
  | startQuery environment session generation source positional c command notes made quiet =>
    exact absurd accepts (not_noted quiet)
  | opened environment session result c notes quiet =>
    rcases List.mem_append.mp accepts with note | answer
    · exact absurd note (not_noted quiet)
    · simp at answer
  | _ => simp [refusal] at accepts

/-! ### Being run in time -/

/-- A read that streams is to be run in time, or the end of its transmission has been reported, and its slot was
idle right then. -/
def InTime (s₁ : Scheduler) (id generation : Nat) (after : List Occurrence) (s' : Scheduler) : Prop :=
  (∃ i ∈ s'.timely, i.token? = some (id, generation) ∧ i.stage = .streaming) ∨
  Forsaken s'.pending id generation ∧
    ∃ early o late s, after = early ++ [o] ++ late ∧ Run (fun _ => True) s₁ (early ++ [o]) s ∧
      o.deed.token? = some (id, generation) ∧ (∃ e ∈ o.shown, e.finishes id generation = true) ∧
      (s.sessions id).slot.state = .idle

theorem timely_le_pending (s : Scheduler) : s.timely ≤ s.pending := by
  have front {α : Type} (takers : Nat) (queue : List (Entry α)) :
      (Entry.inTime takers queue).Sublist (queue.filterMap Entry.content?) := by
    fun_induction Entry.inTime takers queue with
    | case1 | case2 => exact List.nil_sublist _
    | case3 takers a rest ih => simpa [Entry.content?] using ih
    | case4 takers rest ih => simpa [Entry.content?, List.filterMap_cons] using ih
  unfold timely pending itemsOf
  gcongr
  · exact Multiset.coe_le.mpr ((front _ _).map _).subperm
  · exact Multiset.coe_le.mpr ((front _ _).map _).subperm

/-- Whoever works on an item of a read that streams replaces it, or reports the end of the transmission and gives
the slot back. -/
theorem Effect.of_streaming {working alive : Bool} {lossy : Prop} {history : List Occurrence} {x x' : Nat → Session}
    {a : Action} {o : Occurrence} {consumed produced rest : Multiset Item}
    (effect : Effect working alive x a o consumed produced x')
    (told : Chronicle lossy history (consumed + rest) x)
    (serves : ∀ i t, o.deed = .worked i t → alive = true) {i : Item} (taken : i ∈ o.deed.items)
    {id generation : Nat} (token : i.token? = some (id, generation)) (streams : i.stage = .streaming) :
    (∃ w t, o.deed = .worked w t ∧ consumed = {.task t} ∧
      ∃ j ∈ produced, j.token? = some (id, generation) ∧ j.stage = .streaming) ∨
    (Forsaken (produced + rest) id generation ∧ o.deed.token? = some (id, generation) ∧
      (∃ e ∈ o.shown, e.finishes id generation = true) ∧ (x' id).slot.state = .idle) := by
  have none_taken : o.deed.items ≠ 0 := by
    intro nothing
    rw [nothing] at taken
    exact Multiset.notMem_zero i taken
  cases effect with
  | create | parse | destroy | misread | readUnclaimed | readClaimed | readStopped | cancel | took | stopping =>
    exact absurd rfl none_taken
  | notCreated | inProgress | decodeFailed | startQuery | opened | validated | queryFailed | accept
  | acceptAborted | openSource | validate | query =>
    -- These items belong to no read, or to one that does not stream yet.
    rw [Multiset.mem_singleton.mp taken] at streams
    cases streams
  | stream environment w session command t t' =>
    rw [Multiset.mem_singleton.mp taken] at token
    exact .inl ⟨w, _, rfl, rfl, _, Multiset.mem_singleton_self _, token, rfl⟩
  | streamEnd environment w session command t contacts result stepped =>
    rw [Multiset.mem_singleton.mp taken] at token
    refine .inl ⟨w, _, rfl, rfl, .job (.streamed session command.generation command.numBytes result), ?_, token, rfl⟩
    rw [serves w _ rfl, sentIf_true]
    exact Multiset.mem_singleton_self _
  | finish environment session g numBytes result =>
    rw [Multiset.mem_singleton.mp taken] at token
    obtain ⟨rfl, rfl⟩ : session = id ∧ g = generation := by simpa [Item.token?] using token
    obtain ⟨active, alone⟩ := told.held_by rfl
    refine .inr ⟨?_, rfl, ⟨_, List.mem_singleton_self _, by simp [Event.finishes]⟩, ?_⟩
    · intro j member
      rw [zero_add] at member
      exact token?_of_holders alone member g
    · simp [ReadSlot.state, (Chronicle.frees_released active).free]

/-- What is run in time is run: each step leaves the read to be run in time, or reports its end. -/
theorem InTime.step {before after : List Occurrence} {s₁ s' s'' : Scheduler} {a : Action} {o : Occurrence} {n : Nat}
    (positive : 0 < n) {id generation : Nat} (run : Run (fun _ => True) (start n) before s')
    (later : Run (fun _ => True) s₁ after s') (in_time : InTime s₁ id generation after s')
    (acted : s'.act? a = some (s'', o)) (issued : generation ≤ (s'.sessions id).slot.issued) :
    InTime s₁ id generation (after ++ [o]) s'' := by
  have orderly := orderly_of_run positive run
  obtain ⟨told, agreed⟩ := chronicle_of_any_run positive run
  obtain ⟨rest, consumed, produced, split, merged, effect⟩ := act_effect acted
  rw [split] at told agreed
  rcases in_time with ⟨i, timely, token, streams⟩ | ⟨forsaken, early, o', late, s, rfl, reported⟩
  · rcases Multiset.mem_add.mp (Multiset.mem_of_le (timely_le_of_act acted) timely) with taken | stays
    · rcases effect.of_streaming told (orderly.serves acted) taken token streams with
        ⟨w, t, works, rfl, j, new, token_j, streams_j⟩ | ⟨forsaken, works, reports, idle⟩
      · have new_timely := orderly.produced_timely acted works split merged
        exact .inl ⟨j, Multiset.mem_of_le new_timely new, token_j, streams_j⟩
      · refine .inr ⟨merged ▸ forsaken, after, o, [], s'', ?_, later.step trivial acted, works, reports, idle⟩
        rw [List.append_nil]
    · exact .inl ⟨i, stays, token, streams⟩
  · rw [split] at forsaken
    have still := (forsaken.step issued (fun i member => agreed i (Multiset.mem_add.mpr (.inl member))) effect).1
    refine .inr ⟨merged ▸ still, early, o', late ++ [o], s, ?_, reported⟩
    simp only [List.append_assoc]

/-! ### Shutdowns -/

variable {n : Nat} {before after : List Occurrence} {s s₁ s₂ : Scheduler} {a : Action} {o : Occurrence}

/-- An acceptance belongs to a claim whose item it takes up. -/
theorem claim_of_accepted (positive : 0 < n) (run : Run (fun _ => True) (start n) before s)
    (acted : s.act? a = some (s₁, o)) {id points bytes : Nat} {callback : Callback}
    (calm : callback.aborts = false)
    (accepts : .answered id callback (.read (.accepted points bytes)) ∈ o.events) :
    ∃ c ∈ claims (before ++ [o]), ∃ filled, c.session = id ∧ c.callback = callback ∧ c.Fills filled ∧
      o.deed.token? = some (id, c.generation) ∧ eventsOf id c.generation (before ++ [o]) = acceptance c filled ∧
      s₁.lifecycle = s.lifecycle ∧ s₁.present = s.present ∧
      if s.isWorking then
        ∃ i ∈ s₁.pending, i.token? = some (id, c.generation) ∧ i.stage = .streaming
      else Forsaken s₁.pending id c.generation ∧ (s₁.sessions id).slot.state = .idle := by
  obtain ⟨told, agreed⟩ := chronicle_of_any_run positive run
  obtain ⟨rest, consumed, produced, split, merged, effect⟩ := act_effect acted
  obtain ⟨environment, generation, command, rfl, ran, rfl, rfl, shown, left⟩ := effect.of_accepted calm accepts
  rw [split] at told agreed
  have token : (Item.job (.queried id generation (.returned (command, .ok ())) callback)).token?
      = some (id, generation) := rfl
  obtain ⟨active, alone⟩ := told.held_by token
  have first {i : Item} : i ∈ {i} + rest := Multiset.mem_add.mpr (.inl (Multiset.mem_singleton_self i))
  have same : command.generation = generation := agreed _ first
  obtain ⟨c, claimed, -, -, underway, -⟩ := told.underway _ first id generation token
  obtain ⟨nothing, rfl, rfl, rfl, made_from, made, answered⟩ := underway.of_queried
  have works : o.deed.token? = some (c.session, c.generation) := by
    rw [ran]
    rfl
  have shows : eventsOf c.session c.generation (before ++ [o]) = acceptance c command := by
    rw [eventsOf_snoc, nothing, Occurrence.shownOf, if_pos works, shown]
    rfl
  have threads : s₁.lifecycle = s.lifecycle ∧ s₁.present = s.present := by
    have passage := act_passage acted
    rw [ran] at passage
    cases passage with
    | ran _ _ queue _ alive next grows => exact ⟨grows.lifecycle, by rw [present, grows.workers]; rfl⟩
  refine ⟨c, mem_claims_append claimed [o], command, rfl, rfl, ⟨made_from, made, run_of_queryResult answered⟩, works,
    shows, threads.1, threads.2, ?_⟩
  split
  next working =>
    rw [working] at merged
    refine ⟨.task (.stream c.session command {}), ?_, ?_, rfl⟩
    · rw [merged]
      exact Multiset.mem_add.mpr (.inl (Multiset.mem_singleton_self _))
    · rw [← same]
      rfl
  next refused =>
    rw [Bool.not_eq_true] at refused
    rw [refused, sentIf_false, zero_add] at merged
    refine ⟨?_, ?_⟩
    · intro j member
      rw [merged] at member
      exact token?_of_holders alone member c.generation
    · have frees := Chronicle.frees_advanced active
      rw [left refused]
      simp [ReadSlot.state, frees.free]

/-- A read that is accepted in time is run in time. -/
theorem inTime_of_accepted (positive : 0 < n) (run : Run (fun _ => True) (start n) before s₁) {c : Claim}
    (claimed : c ∈ claims before) {i : Item} (timely : i ∈ s₁.timely)
    (token : i.token? = some (c.session, c.generation)) (streams : i.stage = .streaming)
    (later : Run (fun _ => True) s₁ after s₂) : InTime s₁ c.session c.generation after s₂ := by
  induction later with
  | start => exact .inl ⟨i, timely, token, streams⟩
  | @step history s' a s'' o earlier _ acted ih =>
    have whole := run.trans earlier
    have told := (chronicle_of_any_run positive whole).1
    exact ih.step positive whole earlier acted (told.issued c (mem_claims_append claimed history))

/-- What was run in time has ended when the scheduler is shut down: its end was reported once, by a step that left
the slot idle. -/
theorem ends_of_inTime (positive : 0 < n) (run : Run (fun _ => True) (start n) before s₁) {c : Claim}
    (claimed : c ∈ claims before) (calm : c.callback.aborts = false) (later : Run (fun _ => True) s₁ after s₂)
    (in_time : InTime s₁ c.session c.generation after s₂) (shut : s₂.isShutDown = true) :
    finishCount c.session c.generation (before ++ after) = 1 ∧
    (∃ early report late s' outcome, after = early ++ [report] ++ late ∧
      Run (fun _ => True) s₁ (early ++ [report]) s' ∧
      .reported c.session (.transmitFinished c.generation outcome) ∈ report.events ∧
      (s'.sessions c.session).slot.state = .idle) ∧
    (s₂.sessions c.session).slot.isHeldBy c.generation = false := by
  have whole := run.trans later
  rcases in_time with
    ⟨i, left_over, -⟩ | ⟨forsaken, early, report, late, s', rfl, reached, works, ⟨e, shown, finishes⟩, idle⟩
  · -- Nothing is left that was to be run in time.
    rw [(orderly_of_run positive whole).timely_of_isShutDown shut] at left_over
    exact absurd left_over (Multiset.notMem_zero i)
  · have told := (chronicle_of_any_run positive whole).1
    have told_end : e ∈ eventsOf c.session c.generation (before ++ (early ++ [report] ++ late)) := by
      refine List.mem_flatMap.mpr ⟨report, by simp, ?_⟩
      rw [Occurrence.shownOf, if_pos works]
      exact shown
    have settled := told.settled c (mem_claims_append claimed _) forsaken
    obtain ⟨once, free⟩ := settled.finishes_once calm told_end finishes
    refine ⟨?_, ⟨early, report, late, s', ?_⟩, free⟩
    · rw [finishCount_eq (attributed_of_run whole), once]
    · obtain ⟨outcome, rfl⟩ := Event.finishes_iff.mp finishes
      exact ⟨outcome, rfl, reached, List.mem_of_mem_filter shown, idle⟩

/-- Of a read that nothing carries any more no end is reported that was not reported before. -/
theorem nothing_after_forsaken (positive : 0 < n) (run : Run (fun _ => True) (start n) before s₁) {c : Claim}
    (claimed : c ∈ claims before) (calm : c.callback.aborts = false)
    (forsaken : Forsaken s₁.pending c.session c.generation) (later : Run (fun _ => True) s₁ after s₂) :
    finishCount c.session c.generation (before ++ after)
      = (eventsOf c.session c.generation before).countP (Event.finishes c.session c.generation) ∧
    (s₂.sessions c.session).slot.isHeldBy c.generation = false := by
  have whole := run.trans later
  obtain ⟨still_forsaken, same⟩ := forsaken_later positive run claimed forsaken later
  refine ⟨by rw [finishCount_eq (attributed_of_run whole), same], ?_⟩
  cases (chronicle_of_any_run positive whole).1.settled c (mem_claims_append claimed after) still_forsaken with
  | complete _ _ free | dropped _ _ free => exact free
  | halted aborts =>
    rw [calm] at aborts
    cases aborts

/-- Every read whose callback takes its acceptance while some worker is still to be sent its stop message has the
end of its transmission reported exactly once before the scheduler is shut down. Its slot is idle right after the
report, and the read never holds it again. A read that is accepted after every worker has left has its slot idle at
once, and no end of its transmission is ever reported. -/
theorem accepted_read_ends_before_shutdown (positive : 0 < n) (run : Run (fun _ => True) (start n) before s)
    (acted : s.act? a = some (s₁, o)) {id points bytes : Nat} {callback : Callback}
    (calm : callback.aborts = false)
    (accepts : .answered id callback (.read (.accepted points bytes)) ∈ o.events)
    (later : Run (fun _ => True) s₁ after s₂) :
    ∃ generation, o.deed.token? = some (id, generation) ∧
      (s.HasUnsent → s₂.isShutDown = true →
        finishCount id generation (before ++ [o] ++ after) = 1 ∧
        (∃ early report late s' outcome, after = early ++ [report] ++ late ∧
          Run (fun _ => True) s₁ (early ++ [report]) s' ∧
          .reported id (.transmitFinished generation outcome) ∈ report.events ∧
          (s'.sessions id).slot.state = .idle) ∧
        (s₂.sessions id).slot.isHeldBy generation = false) ∧
      (s.isWorking = false →
        (s₁.sessions id).slot.state = .idle ∧
        finishCount id generation (before ++ [o] ++ after) = 0 ∧
        (s₂.sessions id).slot.isHeldBy generation = false) := by
  obtain ⟨c, claimed, filled, rfl, rfl, fills, works, shows, lifecycle, there, next⟩ :=
    claim_of_accepted positive run acted calm accepts
  have so_far : Run (fun _ => True) (start n) (before ++ [o]) s₁ := run.step trivial acted
  refine ⟨c.generation, works, fun unsent shut => ?_, fun left => ?_⟩
  · have orderly := orderly_of_run positive run
    have some_left : 0 < s.present := (Nat.zero_le _).trans_lt (orderly.stops_lt unsent).1
    rw [if_pos (isWorking_iff_present.mpr some_left)] at next
    obtain ⟨i, pending, token, streams⟩ := next
    -- The step sends no stop message, so one is still to come behind the transmission.
    have timely : i ∈ s₁.timely := by
      rw [(orderly_of_run positive so_far).timely_eq (by rwa [HasUnsent, lifecycle])]
      exact pending
    have in_time := inTime_of_accepted positive so_far claimed timely token streams later
    exact ends_of_inTime positive so_far claimed calm later in_time shut
  · rw [left] at next
    obtain ⟨forsaken, idle⟩ := next
    obtain ⟨same, free⟩ := nothing_after_forsaken positive so_far claimed calm forsaken later
    refine ⟨idle, ?_, free⟩
    rw [same, shows, countP_finishes_acceptance]

/-- A read is called and its query run by the one worker, and then a shutdown begins. -/
def readThenShutdown : List Action := [
  .call (.create 0 "pipeline" { recipient := 0 }), .move openHanded (.worker 0), .move openHanded (.worker 0),
  .move openHanded .control, .call (readOfBoth 1), .move openHanded .control, .move openHanded (.worker 0),
  .move openHanded (.worker 0), .shutdown]

/-- The control thread accepts the read then. -/
def lateAcceptance : Scheduler × Occurrence :=
  (((start 1).follow readThenShutdown).1.act? (.move openHanded .control)).get rfl

/-- The worker streams before it is sent its stop message. -/
def streamThenStop : List Action := [
  .move openHanded (.worker 0), .move openHanded (.worker 0), .move openHanded (.worker 0),
  .move openHanded (.worker 0), .move openHanded (.worker 0), .move openHanded (.worker 0),
  .move openHanded .shutdown, .move openHanded (.worker 0), .move openHanded .control, .move openHanded .shutdown,
  .move openHanded .control]

/-- The read is accepted after the shutdown has begun, and the end of its transmission is reported still. -/
theorem readThenShutdown_ends :
    ((start 1).follow readThenShutdown).1.lifecycle = .stopping 1 ∧
    (lateAcceptance.1.follow streamThenStop).1.isShutDown = true ∧
    finishCount 0 1 (((start 1).follow readThenShutdown).2 ++ [lateAcceptance.2]
      ++ (lateAcceptance.1.follow streamThenStop).2) = 1 := by
  have before : Run (fun _ => True) (start 1) ((start 1).follow readThenShutdown).2
    ((start 1).follow readThenShutdown).1 := run_follow (start 1) readThenShutdown fun _ _ => trivial
  have acted : ((start 1).follow readThenShutdown).1.act? (.move openHanded .control)
      = some (lateAcceptance.1, lateAcceptance.2) := rfl
  have accepts : .answered 0 { recipient := 1 } (.read (.accepted 2 2)) ∈ lateAcceptance.2.events :=
    List.mem_cons_of_mem _ List.mem_cons_self
  have after : Run (fun _ => True) lateAcceptance.1 (lateAcceptance.1.follow streamThenStop).2
    (lateAcceptance.1.follow streamThenStop).1 := run_follow _ streamThenStop fun _ _ => trivial
  obtain ⟨generation, works, ends, -⟩ :=
    accepted_read_ends_before_shutdown (by decide) before acted rfl accepts after
  obtain rfl : 1 = generation := congrArg (fun token => (token.getD (0, 0)).2) works
  exact ⟨rfl, rfl, (ends (.inr ⟨0, rfl⟩) rfl).1⟩

/-- The worker leaves before the read is accepted. -/
def stopThenAccept : List Action := readThenShutdown ++ [
  .move openHanded .shutdown, .move openHanded (.worker 0), .move openHanded .control, .move openHanded .shutdown,
  .move openHanded .control]

/-- A callback takes its acceptance, and the scheduler is shut down without an end of the transmission. -/
theorem no_end_after_late_acceptance :
    Run (fun _ => True) (start 1) ((start 1).follow stopThenAccept).2 ((start 1).follow stopThenAccept).1 ∧
    (∃ o, ((start 1).follow stopThenAccept).2[11]? = some o ∧
      .answered 0 { recipient := 1 } (.read (.accepted 2 2)) ∈ o.events) ∧
    ((start 1).follow stopThenAccept).1.isShutDown = true ∧
    finishCount 0 1 ((start 1).follow stopThenAccept).2 = 0 :=
  ⟨run_follow (start 1) stopThenAccept fun _ _ => trivial,
    ⟨_, rfl, List.mem_cons_of_mem _ List.mem_cons_self⟩, rfl, rfl⟩

end Scheduler

end PointStream
