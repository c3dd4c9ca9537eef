import PointStream.Proofs.Scheduler.Shutdown

/-!
# Reads that are accepted too late

When every stop message has been sent but a worker still has to take its own, the queue of the workers takes on what
nobody will take from it. The transmission of a read that is accepted then stands behind the stop messages for good. So
the read keeps its slot, streaming as far as anybody can tell, and nothing more is ever shown of it.
-/

namespace PointStream

namespace Scheduler

variable {n : Nat} {before after : List Occurrence} {s s' s₁ s₂ : Scheduler} {a : Action} {o : Occurrence} {t : Task}

/-- A task is queued behind a stop message for every worker that is still there. -/
def Stranded (s : Scheduler) (t : Task) : Prop :=
  ∃ early late, s.work = early ++ .job t :: late ∧ s.present ≤ Entry.stops early

namespace Stranded

theorem pending (stranded : s.Stranded t) : Item.task t ∈ s.pending := by
  obtain ⟨early, late, queued, -⟩ := stranded
  simp [Scheduler.pending, queued, itemsOf_append, itemsOf_cons, Entry.content?]

theorem grow (stranded : s.Stranded t) (grows : s.Grows s') : s'.Stranded t := by
  obtain ⟨early, late, queued, behind⟩ := stranded
  obtain ⟨tasks, work⟩ := grows.work
  refine ⟨early, late ++ tasks.map .job, ?_, ?_⟩
  · rw [work, queued, List.append_assoc, List.cons_append]
  · rwa [present, grows.workers]

/-- As long as a worker is there the front of the queue is not the task, but something before it. -/
theorem exists_front (stranded : s.Stranded t) (some_left : 0 < s.present) {e : Entry Task} {rest : List (Entry Task)}
    (next : s.work = e :: rest) :
    ∃ early late, rest = early ++ .job t :: late ∧ s.present ≤ Entry.stops (e :: early) := by
  obtain ⟨early, late, queued, behind⟩ := stranded
  rw [next] at queued
  cases early with
  | nil => exact absurd behind (Nat.not_le.mpr some_left)
  | cons first early =>
    obtain ⟨rfl, rfl⟩ := List.cons.inj queued
    exact ⟨early, late, rfl, behind⟩

/-- A worker that stays still has a stop message to take. -/
theorem setWorker (stranded : s.Stranded t) {i : Nat} {old w : Worker} (found : s.workers[i]? = some old)
    (stayed : old.isExited = false) (stays : w.isExited = false) : (s.setWorker i w).Stranded t := by
  obtain ⟨early, late, queued, behind⟩ := stranded
  have there := present_setWorker_of_stays found stayed stays
  exact ⟨early, late, queued, there.trans_le behind⟩

/-- Each worker takes a stop message before it could get to the task. -/
theorem act (stranded : s.Stranded t) (acted : s.act? a = some (s', o)) : s'.Stranded t := by
  have passage := act_passage acted
  generalize o.deed = d at passage
  cases passage with
  | called c reply s' grows => exact stranded.grow grows
  | ran environment j rest s' alive next grows =>
    have taken : Stranded { s with control := rest } t := stranded
    exact taken.grow grows
  | controlLeft | shutdownBegun | shutdownRepeated | lastStopSent => exact stranded
  | took environment i t' rest found next =>
    obtain ⟨early, late, rfl, behind⟩ := stranded.exists_front (present_of_found found rfl) next
    rw [Entry.stops_cons_job] at behind
    have left_over : Stranded { s with work := early ++ .job t :: late } t := ⟨early, late, rfl, behind⟩
    exact left_over.setWorker found rfl rfl
  | workerLeft environment i rest found next =>
    obtain ⟨early, late, rfl, behind⟩ := stranded.exists_front (present_of_found found rfl) next
    rw [Entry.stops_cons_stop] at behind
    -- One stop message less stands before the task, for one worker less.
    have fewer : (s.setWorker i .exited).present + 1 = s.present := present_setWorker found .exited
    have enough : (s.setWorker i .exited).present ≤ Entry.stops early := by omega
    exact ⟨early, late, rfl, enough⟩
  | wentOn environment i t₁ t₂ found => exact stranded.setWorker found rfl rfl
  | finished environment i t₁ j found =>
    have idle : (s.setWorker i .idle).Stranded t := stranded.setWorker found rfl rfl
    exact idle.grow (grows_post _ j)
  | stopSent environment unsent stopping =>
    obtain ⟨early, late, queued, behind⟩ := stranded
    refine ⟨early, late ++ [.stop], ?_, behind⟩
    rw [queued, List.append_assoc, List.cons_append]

theorem run {admits : Action → Prop} (stranded : s₁.Stranded t) (later : Run admits s₁ after s₂) : s₂.Stranded t := by
  induction later with
  | start => exact stranded
  | step _ _ acted ih => exact ih.act acted

end Stranded

/-- A read that is accepted hands its transmission to the workers who are left. -/
theorem accept_of_working (working : s.isWorking = true) (id generation : Nat) (command : ReadCommand)
    {callback : Callback} (calm : callback.aborts = false) :
    (s.accept id generation command callback).1.work = s.work ++ [.job (.stream id command {})] ∧
    (s.accept id generation command callback).1.workers = s.workers := by
  have still : (s.setSlot id ((s.sessions id).slot.advance generation).2).isWorking = true := working
  unfold accept
  simp only [calm, Bool.false_eq_true, if_false, submitTask?_of_working still]
  exact ⟨rfl, rfl⟩

theorem work_of_accepted {environment : Environment} {id generation : Nat} {command : ReadCommand} {callback : Callback}
    (acted : s.act? (.move environment .control) = some (s₁, o))
    (ran : o.deed = .ran (.queried id generation (.returned (command, .ok ())) callback))
    (calm : callback.aborts = false) (working : s.isWorking = true) :
    s₁.work = s.work ++ [.job (.stream id command {})] ∧ s₁.present = s.present := by
  have passage := act_passage acted
  obtain ⟨⟨reached, events⟩, moved, same⟩ := Option.map_eq_some_iff.mp acted
  cases same
  rw [ran] at passage
  cases passage with
  | ran _ _ rest _ alive next _ =>
    unfold move? stepControl? at moved
    rw [if_neg (by simp [alive]), next] at moved
    have waiting : ({ s with control := rest } : Scheduler).isWorking = true := working
    obtain ⟨work, workers⟩ := accept_of_working waiting id generation command calm
    have accepted : ({ s with control := rest } : Scheduler).accept id generation command callback = (s₁, events) :=
      Option.some.inj moved
    rw [accepted] at work workers
    exact ⟨work, by rw [present, workers]; rfl⟩

/-- Once all stop messages are sent, they are as many as the workers who are left. -/
theorem Orderly.present_le_stops (h : s.Orderly) (sent : ¬s.HasUnsent) : s.present ≤ Entry.stops s.work := by
  cases h with
  | running on => exact absurd (.inl on) sent
  | stopping unsent on alive tasks jobs =>
    cases unsent with
    | zero => omega
    | succ more => exact absurd (.inr ⟨more, on⟩) sent
  | closing on left jobs => omega

/-- What a stranded transmission carries has shown its acceptance, and nothing else. -/
theorem accepted_of_stranded (positive : 0 < n) {history : List Occurrence}
    (run : Run (fun _ => True) (start n) history s) {c : Claim} (claimed : c ∈ claims history)
    {command : ReadCommand} (generation : command.generation = c.generation)
    (stranded : s.Stranded (.stream c.session command {})) :
    eventsOf c.session c.generation history = acceptance c command ∧
    (s.sessions c.session).slot.active = some ⟨c.generation, true⟩ := by
  have told := (chronicle_of_any_run positive run).1
  have token : (Item.task (.stream c.session command {})).token? = some (c.session, c.generation) := by
    rw [← generation]
    rfl
  have underway := told.underway_of claimed stranded.pending token
  obtain ⟨rest, split⟩ := Multiset.exists_cons_of_mem stranded.pending
  rw [split, ← Multiset.singleton_add] at told
  refine ⟨?_, (told.held_by token).1⟩
  generalize eventsOf c.session c.generation history = events at underway
  cases underway with
  | connecting => rfl
  | sending _ _ _ phase => exact absurd rfl phase

/-- A read whose callback takes its acceptance when all stop messages are sent, but not all of them taken, never ends.
It holds its slot in every later state, also when the scheduler has been shut down, and is streaming there; nothing is
shown of it after its acceptance. -/
theorem late_read_never_ends (positive : 0 < n) (run : Run (fun _ => True) (start n) before s)
    (acted : s.act? a = some (s₁, o)) {id points bytes : Nat} {callback : Callback}
    (calm : callback.aborts = false)
    (accepts : .answered id callback (.read (.accepted points bytes)) ∈ o.events) (sent : ¬s.HasUnsent)
    (working : s.isWorking = true) (later : Run (fun _ => True) s₁ after s₂) :
    ∃ generation, o.deed.token? = some (id, generation) ∧
      (s₂.sessions id).slot.isHeldBy generation = true ∧ (s₂.sessions id).slot.state = .streaming ∧
      eventsOf id generation (before ++ [o] ++ after) = eventsOf id generation (before ++ [o]) ∧
      finishCount id generation (before ++ [o] ++ after) = 0 := by
  have so_far : Run (fun _ => True) (start n) (before ++ [o]) s₁ := run.step trivial acted
  obtain ⟨c, claimed, filled, rfl, rfl, fills, works, -⟩ := claim_of_accepted positive run acted calm accepts
  obtain ⟨rest, consumed, produced, split, -, effect⟩ := act_effect acted
  obtain ⟨environment, generation, command, rfl, ran, rfl, -⟩ := effect.of_accepted calm accepts
  have agreed := (chronicle_of_any_run positive run).2
  rw [split] at agreed
  have same : command.generation = generation :=
    agreed _ (Multiset.mem_add.mpr (.inl (Multiset.mem_singleton_self _)))
  obtain rfl : generation = c.generation := by
    rw [ran] at works
    exact congrArg Prod.snd (Option.some.inj works)
  obtain ⟨work, there⟩ := work_of_accepted acted ran calm working
  have stranded : s₁.Stranded (.stream c.session command {}) :=
    ⟨s.work, [], work, there.trans_le ((orderly_of_run positive run).present_le_stops sent)⟩
  have first := accepted_of_stranded positive so_far claimed same stranded
  have last := accepted_of_stranded positive (so_far.trans later) (mem_claims_append claimed after) same
    (stranded.run later)
  refine ⟨c.generation, works, ?_, ?_, last.1.trans first.1.symm, ?_⟩
  · simp [ReadSlot.isHeldBy, last.2]
  · simp [ReadSlot.state, last.2]
  · rw [finishCount_eq (attributed_of_run (so_far.trans later)), last.1, countP_finishes_acceptance]

/-- The control thread accepts a read when the one worker has been sent its stop message, and the worker takes it. -/
example :
    let s := ((start 1).follow (readThenShutdown ++ [.move openHanded .shutdown])).1
    let finished := (s.follow [.move openHanded .control, .move openHanded (.worker 0), .move openHanded .shutdown,
      .move openHanded .control]).1
    s.lifecycle = .stopping 0 ∧ s.isWorking = true ∧ finished.isShutDown = true ∧
      (finished.sessions 0).slot.state = .streaming :=
  ⟨rfl, rfl, rfl, rfl⟩

end Scheduler

end PointStream
