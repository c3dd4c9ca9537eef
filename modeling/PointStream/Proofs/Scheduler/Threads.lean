import PointStream.Proofs.Scheduler.Run

/-!
# Threads and queues

How a step moves the threads and the queues, whatever the jobs and tasks are about. The relation `Passage` lists
the ways, and `act_passage` says that there are no others. Calls and jobs of the control thread only lengthen the
queues: `Grows` is all that is known of what they do.
-/

namespace PointStream

namespace Scheduler

/-! ### Lengthening the queues -/

/-- Jobs and tasks were queued and sessions changed. The threads are as they were. -/
structure Grows (s s' : Scheduler) : Prop where
  workers : s'.workers = s.workers
  controlAlive : s'.controlAlive = s.controlAlive
  lifecycle : s'.lifecycle = s.lifecycle
  control : ∃ jobs : List ControlJob, s'.control = s.control ++ jobs.map .job
  work : ∃ tasks : List Task, s'.work = s.work ++ tasks.map .job

theorem Grows.refl (s : Scheduler) : s.Grows s := ⟨rfl, rfl, rfl, ⟨[], by simp⟩, ⟨[], by simp⟩⟩

theorem Grows.trans {s₁ s₂ s₃ : Scheduler} (first : s₁.Grows s₂) (second : s₂.Grows s₃) : s₁.Grows s₃ := by
  obtain ⟨jobs, control⟩ := first.control
  obtain ⟨more_jobs, more_control⟩ := second.control
  obtain ⟨tasks, work⟩ := first.work
  obtain ⟨more_tasks, more_work⟩ := second.work
  refine ⟨second.workers.trans first.workers, second.controlAlive.trans first.controlAlive,
    second.lifecycle.trans first.lifecycle, ⟨jobs ++ more_jobs, ?_⟩, ⟨tasks ++ more_tasks, ?_⟩⟩
  · rw [more_control, control, List.map_append, List.append_assoc]
  · rw [more_work, work, List.map_append, List.append_assoc]

theorem grows_setSession (s : Scheduler) (id : Nat) (session : Session) :
    s.Grows (s.setSession id session) := ⟨rfl, rfl, rfl, ⟨[], by simp [setSession]⟩, ⟨[], by simp [setSession]⟩⟩

theorem grows_submitTask? {s s' : Scheduler} {t : Task} (taken : s.submitTask? t = some s') : s.Grows s' := by
  unfold submitTask? at taken
  split at taken
  · cases taken
  · cases taken
    exact ⟨rfl, rfl, rfl, ⟨[], by simp⟩, ⟨[t], rfl⟩⟩

theorem grows_submitJob? {s s' : Scheduler} {j : ControlJob} (taken : s.submitJob? j = some s') :
    s.Grows s' := by
  unfold submitJob? at taken
  split at taken
  · cases taken
    exact ⟨rfl, rfl, rfl, ⟨[j], rfl⟩, ⟨[], by simp⟩⟩
  · cases taken

theorem grows_post (s : Scheduler) (j : ControlJob) : s.Grows (s.post j) := by
  unfold post
  cases taken : s.submitJob? j with
  | none => exact .refl s
  | some s' => exact grows_submitJob? taken

theorem grows_submitted (s : Scheduler) (t : Task) : s.Grows (s.submitted (s.submitTask? t)).1 := by
  cases taken : s.submitTask? t with
  | none => exact .refl s
  | some s' => exact grows_submitTask? taken

theorem grows_handOver (s : Scheduler) (t : Task) (id generation : Nat) :
    s.Grows (match s.submitTask? t with
      | some s' => s'
      | none => s.releaseSlot id generation) := by
  cases taken : s.submitTask? t with
  | none => exact grows_setSession s id _
  | some s' => exact grows_submitTask? taken

theorem grows_read (s : Scheduler) (id : Nat) (arguments : List Argument) :
    s.Grows (s.read id arguments).1 := by
  unfold read
  split
  · exact .refl s
  next positional callback _ =>
    -- Claiming the slot changes the session only, and so does giving the claim back.
    dsimp only
    generalize ((s.sessions id).source.bind fun _ => (s.sessions id).slot.begin?) = claimed
    cases claimed with
    | none =>
      dsimp only
      split
      next queued => exact grows_submitJob? queued
      next => exact .refl s
    | some claim =>
      have claiming : s.Grows (s.setSlot id claim.2) := grows_setSession s id _
      dsimp only
      split
      next queued => exact claiming.trans (grows_submitJob? queued)
      next => exact claiming.trans (grows_setSession _ id _)

theorem grows_call (s : Scheduler) (c : Call) : s.Grows (s.call c).1 := by
  cases c with
  | create id pipeline callback => exact grows_submitted s _
  | parse id pipeline callback => exact grows_submitted s _
  | destroy id => exact grows_setSession s id _
  | read id arguments => exact grows_read s id arguments
  | cancel id => exact grows_setSession s id _

theorem grows_refuse (s : Scheduler) (id generation : Nat) (callback : Callback) (reports : List Report)
    (reason : String) : s.Grows (s.refuse id generation callback reports reason).1 := by
  unfold refuse
  cases callback.aborts with
  | true => exact .refl s
  | false => exact grows_setSession s id _

theorem grows_accept (s : Scheduler) (id generation : Nat) (command : ReadCommand) (callback : Callback) :
    s.Grows (s.accept id generation command callback).1 := by
  have advanced : s.Grows (s.setSlot id ((s.sessions id).slot.advance generation).2) := grows_setSession s id _
  unfold accept
  cases callback.aborts with
  | true => exact advanced
  | false => exact advanced.trans (grows_handOver _ _ id generation)

theorem grows_runJob (s : Scheduler) (j : ControlJob) : s.Grows (s.runJob j).1 := by
  cases j with
  | startRead id source claim positional callback =>
    rcases source with _ | source
    · exact .refl s
    · rcases claim with _ | generation
      · exact .refl s
      · simp only [runJob]
        split
        · exact grows_handOver s _ id generation
        next rejection _ => exact grows_refuse s id generation callback [] rejection.message
  | opened id result callback =>
    simp only [runJob]
    split
    · exact grows_setSession s id _
    · exact .refl s
  | validated id result callback =>
    simp only [runJob]
    split
    · exact grows_setSession s id _
    · exact .refl s
  | queried id generation result callback =>
    simp only [runJob]
    split
    next command => exact grows_accept s id generation command callback
    next e => exact grows_refuse s id generation callback [.readFailed generation e.message] e.message
    · exact grows_refuse s id generation callback [.readFailed generation abortedText] abortedText
  | streamed id generation numBytes result => exact grows_setSession s id _

/-! ### Passages -/

/-- How a step leaves the threads and the queues, by what makes it and what is done. -/
inductive Passage (s : Scheduler) : Action → Deed → Scheduler → Prop
  | called (c : Call) (reply : Reply) (s' : Scheduler) (grows : s.Grows s') :
      Passage s (.call c) (.called c reply) s'
  | ran (environment : Environment) (j : ControlJob) (rest : List (Entry ControlJob)) (s' : Scheduler)
      (alive : s.controlAlive = true) (next : s.control = .job j :: rest)
      (grows : Grows { s with control := rest } s') : Passage s (.move environment .control) (.ran j) s'
  | controlLeft (environment : Environment) (rest : List (Entry ControlJob))
      (alive : s.controlAlive = true) (next : s.control = .stop :: rest) :
      Passage s (.move environment .control) .stopping { s with control := rest, controlAlive := false }
  | took (environment : Environment) (i : Nat) (t : Task) (rest : List (Entry Task))
      (found : s.workers[i]? = some .idle) (next : s.work = .job t :: rest) :
      Passage s (.move environment (.worker i)) (.took i t)
        ({ s with work := rest }.setWorker i (.running t))
  | workerLeft (environment : Environment) (i : Nat) (rest : List (Entry Task))
      (found : s.workers[i]? = some .idle) (next : s.work = .stop :: rest) :
      Passage s (.move environment (.worker i)) .stopping ({ s with work := rest }.setWorker i .exited)
  | wentOn (environment : Environment) (i : Nat) (t t' : Task) (found : s.workers[i]? = some (.running t)) :
      Passage s (.move environment (.worker i)) (.worked i t) (s.setWorker i (.running t'))
  | finished (environment : Environment) (i : Nat) (t : Task) (j : ControlJob)
      (found : s.workers[i]? = some (.running t)) :
      Passage s (.move environment (.worker i)) (.worked i t) (s.finishTask i j)
  | shutdownBegun (running : s.lifecycle = .running) :
      Passage s .shutdown .stopping { s with lifecycle := .stopping s.workers.length }
  | shutdownRepeated (begun : s.lifecycle ≠ .running) : Passage s .shutdown .stopping s
  | stopSent (environment : Environment) (unsent : Nat) (stopping : s.lifecycle = .stopping (unsent + 1)) :
      Passage s (.move environment .shutdown) .stopping
        { s with work := s.work ++ [.stop], lifecycle := .stopping unsent }
  | lastStopSent (environment : Environment) (stopping : s.lifecycle = .stopping 0)
      (left : s.workers.all Worker.isExited = true) :
      Passage s (.move environment .shutdown) .stopping
        { s with control := s.control ++ [.stop], lifecycle := .closing }

theorem runTask_passage (environment : Environment) {s : Scheduler} {i : Nat} {t : Task}
    (found : s.workers[i]? = some (.running t)) :
    s.Passage (.move environment (.worker i)) (.worked i t) (s.runTask environment i t).1 := by
  cases t with
  | openSource id pipeline callback => exact .finished environment i _ _ found
  | validate id pipeline callback => exact .finished environment i _ _ found
  | query id command callback => exact .finished environment i _ _ found
  | stream id command t =>
    simp only [runTask]
    split
    · exact .wentOn environment i _ _ found
    · exact .finished environment i _ _ found

/-- Whatever is done, it is one of the passages. -/
theorem act_passage {s s' : Scheduler} {a : Action} {o : Occurrence} (acted : s.act? a = some (s', o)) :
    s.Passage a o.deed s' := by
  cases a with
  | call c =>
    cases acted
    exact .called c _ _ (grows_call s c)
  | shutdown =>
    cases acted
    by_cases running : s.lifecycle = .running
    · simp only [shutdown, running]
      exact .shutdownBegun running
    · have same : s.shutdown = s := by
        unfold shutdown
        split
        next on => exact absurd on running
        next => rfl
      rw [same]
      exact .shutdownRepeated running
  | move environment m =>
    obtain ⟨⟨after, events⟩, moved, same⟩ := Option.map_eq_some_iff.mp acted
    cases same
    cases m with
    | control =>
      simp only [move?, stepControl?] at moved
      split at moved
      next => cases moved
      next serves =>
        have alive : s.controlAlive = true := by simpa using serves
        split at moved
        next => cases moved
        next rest next_is_stop =>
          cases moved
          simp only [deed, next_is_stop]
          exact .controlLeft environment rest alive next_is_stop
        next j rest next_is_job =>
          have grows := grows_runJob { s with control := rest } j
          rw [Option.some.inj moved] at grows
          simp only [deed, next_is_job]
          exact .ran environment j rest _ alive next_is_job grows
    | worker i =>
      simp only [move?, stepWorker?] at moved
      split at moved
      next found =>
        split at moved
        next => cases moved
        next rest next_is_stop =>
          cases moved
          simp only [deed, found, next_is_stop]
          exact .workerLeft environment i rest found next_is_stop
        next t rest next_is_job =>
          cases moved
          simp only [deed, found, next_is_job]
          exact .took environment i t rest found next_is_job
      next t found =>
        have passage := runTask_passage environment found
        rw [Option.some.inj moved] at passage
        simpa only [deed, found] using passage
      next => cases moved
    | shutdown =>
      obtain ⟨reached, stepped, same⟩ := Option.map_eq_some_iff.mp moved
      cases same
      unfold stepShutdown? at stepped
      split at stepped
      next unsent stopping =>
        cases stepped
        exact .stopSent environment unsent stopping
      next stopping =>
        split at stepped
        next left =>
          cases stepped
          exact .lastStopSent environment stopping left
        next => cases stepped
      next => cases stepped

end Scheduler

end PointStream
