import PointStream.Proofs.Scheduler.Running

/-!
# The order of a shutdown

A shutdown sends each worker a stop message behind the tasks that are queued by then, and the control thread a
last one when every worker has left. So the stop messages that are queued or yet to be sent are as many as the
workers still there, and whatever stands before enough of them is run before the shutdown is over. What is queued
behind them may be left in its queue.
-/

namespace PointStream

namespace Entry

variable {α : Type}

def isStop : Entry α → Bool
  | job _ => false
  | stop => true

/-- How many stop messages are queued. -/
def stops (queue : List (Entry α)) : Nat := queue.countP isStop

/-- The jobs of a queue that `takers` threads take before the last of them takes a stop message. -/
def inTime : (takers : Nat) → List (Entry α) → List α
  | 0, _ | _ + 1, [] => []
  | takers + 1, job a :: rest => a :: inTime (takers + 1) rest
  | takers + 1, stop :: rest => inTime takers rest

@[simp] theorem stops_append (early late : List (Entry α)) : stops (early ++ late) = stops early + stops late :=
  List.countP_append

@[simp] theorem stops_cons_job (a : α) (rest : List (Entry α)) : stops (job a :: rest) = stops rest := by
  simp [stops, isStop]

@[simp] theorem stops_cons_stop (rest : List (Entry α)) : stops (stop :: rest) = stops rest + 1 := by
  simp [stops, isStop, List.countP_cons]

@[simp] theorem stops_nil : stops ([] : List (Entry α)) = 0 := rfl

@[simp] theorem stops_jobs (jobs : List α) : stops (jobs.map job) = 0 := by
  simp [stops, isStop, List.countP_eq_zero]

@[simp] theorem inTime_zero (queue : List (Entry α)) : inTime 0 queue = [] := by
  cases queue <;> rfl

/-- What is queued last changes nothing for what was queued before. -/
theorem inTime_append (takers : Nat) (early late : List (Entry α)) :
    inTime takers (early ++ late) = inTime takers early ++ inTime (takers - stops early) late := by
  fun_induction inTime takers early with
  | case1 => simp
  | case2 => simp
  | case3 takers a rest ih => simp [inTime, ih]
  | case4 takers rest ih => simp [inTime, ih, Nat.add_sub_add_right]

/-- As long as a thread stays, all jobs are taken. -/
theorem inTime_of_stops_lt {takers : Nat} {queue : List (Entry α)} (stay : stops queue < takers) :
    inTime takers queue = queue.filterMap content? := by
  fun_induction inTime takers queue with
  | case1 => simp at stay
  | case2 => rfl
  | case3 takers a rest ih =>
    rw [stops_cons_job] at stay
    simp [ih stay, content?]
  | case4 takers rest ih =>
    rw [stops_cons_stop] at stay
    simp [ih (by omega), content?, List.filterMap_cons]

end Entry

namespace Scheduler

/-- How many workers have not left. -/
def present (s : Scheduler) : Nat := s.workers.countP fun w => !w.isExited

/-- The threads leave in turn: the workers while the control thread serves its queue, and each by a stop message
of its own. -/
inductive Orderly (s : Scheduler) : Prop
  | running (on : s.lifecycle = .running) (alive : s.controlAlive = true) (staffed : 0 < s.present)
      (all : s.workers.length = s.present) (tasks : Entry.stops s.work = 0)
      (jobs : Entry.stops s.control = 0)
  | stopping (unsent : Nat) (on : s.lifecycle = .stopping unsent) (alive : s.controlAlive = true)
      (tasks : Entry.stops s.work + unsent = s.present) (jobs : Entry.stops s.control = 0)
  | closing (on : s.lifecycle = .closing) (left : s.present = 0)
      (jobs : Entry.stops s.control = s.controlAlive.toNat)


/-! ### The threads that are left -/

variable {s s' : Scheduler}

theorem isWorking_iff_present : s.isWorking = true ↔ 0 < s.present := by
  simp [isWorking, present, List.countP_pos_iff]

theorem present_setWorker {i : Nat} {old : Worker} (found : s.workers[i]? = some old) (w : Worker) :
    (s.setWorker i w).present + (!old.isExited).toNat = s.present + (!w.isExited).toNat := by
  simp only [present, setWorker]
  generalize s.workers = workers at found
  induction workers generalizing i with
  | nil => simp at found
  | cons head workers ih =>
    cases i with
    | zero =>
      obtain rfl : head = old := by simpa using found
      simp only [List.set_cons_zero, List.countP_cons]
      cases head.isExited <;> cases w.isExited <;> simp
    | succ i =>
      have rest := ih (i := i) (by simpa using found)
      simp only [List.set_cons_succ, List.countP_cons]
      omega

theorem present_of_found {i : Nat} {w : Worker} (found : s.workers[i]? = some w) (stays : w.isExited = false) :
    0 < s.present :=
  List.countP_pos_iff.mpr ⟨w, List.mem_of_getElem? found, by simp [stays]⟩

/-- A worker that stays leaves the number of workers there as it is. -/
theorem present_setWorker_of_stays {i : Nat} {old w : Worker} (found : s.workers[i]? = some old)
    (stayed : old.isExited = false) (stays : w.isExited = false) : (s.setWorker i w).present = s.present := by
  have moved := present_setWorker found w
  rw [stayed, stays] at moved
  omega

/-! ### Order is kept -/

theorem orderly_start {n : Nat} (positive : 0 < n) : (start n).Orderly := by
  have all : (start n).present = n := by simp [present, start, List.countP_replicate, Worker.isExited]
  refine .running rfl rfl (by omega) ?_ rfl rfl
  rw [all]
  exact List.length_replicate

namespace Orderly

/-- While a worker is there, the control thread serves its queue and has no stop message. -/
theorem of_present (h : s.Orderly) (some_left : 0 < s.present) :
    s.controlAlive = true ∧ Entry.stops s.control = 0 := by
  cases h with
  | running on alive staffed all tasks jobs => exact ⟨alive, jobs⟩
  | stopping unsent on alive tasks jobs => exact ⟨alive, jobs⟩
  | closing on left jobs => omega

/-- What the order speaks of may change by itself. -/
theorem congr (h : s.Orderly) (workers : s'.workers = s.workers) (alive : s'.controlAlive = s.controlAlive)
    (lifecycle : s'.lifecycle = s.lifecycle) (jobs : Entry.stops s'.control = Entry.stops s.control)
    (tasks : Entry.stops s'.work = Entry.stops s.work) : s'.Orderly := by
  have there : s'.present = s.present := by rw [present, present, workers]
  cases h with
  | running on serves staffed all no_task no_job =>
    refine .running (lifecycle.trans on) (alive.trans serves) ?_ ?_ (tasks.trans no_task) (jobs.trans no_job)
    · rwa [there]
    · rw [workers, there, all]
  | stopping unsent on serves sent no_job =>
    refine .stopping unsent (lifecycle.trans on) (alive.trans serves) ?_ (jobs.trans no_job)
    rw [tasks, there, sent]
  | closing on left last =>
    refine .closing (lifecycle.trans on) (there.trans left) ?_
    rw [jobs, alive, last]

theorem grow (h : s.Orderly) (grows : s.Grows s') : s'.Orderly := by
  obtain ⟨jobs, control⟩ := grows.control
  obtain ⟨tasks, work⟩ := grows.work
  exact h.congr grows.workers grows.controlAlive grows.lifecycle (by simp [control]) (by simp [work])

/-- A worker that is there and stays may change what it does. -/
theorem setWorker (h : s.Orderly) {i : Nat} {old w : Worker} (found : s.workers[i]? = some old)
    (stayed : old.isExited = false) (stays : w.isExited = false) : (s.setWorker i w).Orderly := by
  have there := present_setWorker_of_stays found stayed stays
  cases h with
  | running on serves staffed all no_task no_job =>
    refine .running on serves (by rwa [there]) ?_ no_task no_job
    rw [there, ← all]
    exact List.length_set
  | stopping unsent on serves sent no_job => exact .stopping unsent on serves (by rwa [there]) no_job
  | closing on left last => exact .closing on (by rwa [there]) last

theorem act {a : Action} {o : Occurrence} (h : s.Orderly) (acted : s.act? a = some (s', o)) : s'.Orderly := by
  have passage := act_passage acted
  generalize o.deed = d at passage
  cases passage with
  | called c reply s' grows => exact h.grow grows
  | ran environment j rest s' alive next grows =>
    have taken : Orderly { s with control := rest } := h.congr rfl rfl rfl (by simp [next]) rfl
    exact taken.grow grows
  | controlLeft environment rest alive next =>
    -- A stop message for the control thread is sent only when the workers have left.
    rw [← List.singleton_append] at next
    cases h with
    | running on serves staffed all no_task no_job => simp [next] at no_job
    | stopping unsent on serves sent no_job => simp [next] at no_job
    | closing on left last =>
      refine .closing on left ?_
      simpa [next, alive] using last
  | took environment i t rest found next =>
    have taken : Orderly { s with work := rest } := h.congr rfl rfl rfl rfl (by simp [next])
    exact taken.setWorker found rfl rfl
  | workerLeft environment i rest found next =>
    have fewer := present_setWorker (s := { s with work := rest }) found .exited
    have there := present_of_found found rfl
    cases h with
    | running on serves staffed all no_task no_job => simp [next] at no_task
    | stopping unsent on serves sent no_job =>
      refine .stopping unsent on serves ?_ no_job
      rw [next, Entry.stops_cons_stop] at sent
      simp only [Worker.isExited, Bool.not_false, Bool.not_true, Bool.toNat_true, Bool.toNat_false] at fewer
      have same : ({ s with work := rest } : Scheduler).present = s.present := rfl
      have kept : (({ s with work := rest } : Scheduler).setWorker i .exited).work = rest := rfl
      rw [kept]
      omega
    | closing on left last => omega
  | wentOn environment i t t' found => exact h.setWorker found rfl rfl
  | finished environment i t j found => exact (h.setWorker found rfl rfl).grow (grows_post _ j)
  | shutdownBegun running =>
    cases h with
    | running on serves staffed all no_task no_job =>
      refine .stopping _ rfl serves ?_ no_job
      rw [no_task, Nat.zero_add]
      exact all
    | stopping unsent on => simp [on] at running
    | closing on => simp [on] at running
  | shutdownRepeated => exact h
  | stopSent environment unsent stopping =>
    cases h with
    | running on => simp [on] at stopping
    | stopping unsent' on serves sent no_job =>
      -- One more stop message is queued, and one less is left to send.
      obtain rfl : unsent' = unsent + 1 := by simpa [on] using stopping
      refine .stopping unsent rfl serves ?_ no_job
      rw [Entry.stops_append, Entry.stops_cons_stop, Entry.stops_nil, Nat.add_assoc, Nat.add_comm (0 + 1)]
      exact sent
    | closing on => simp [on] at stopping
  | lastStopSent environment stopping left =>
    have none_left : s.present = 0 := by
      rw [present, List.countP_eq_zero]
      intro w member
      simpa using List.all_eq_true.mp left w member
    refine .closing rfl none_left ?_
    cases h with
    | running on => simp [on] at stopping
    | stopping unsent on serves sent no_job => simp [no_job, serves]
    | closing on => simp [on] at stopping

end Orderly

theorem orderly_of_run {admits : Action → Prop} {n : Nat} (positive : 0 < n) {history : List Occurrence}
    (run : Run admits (start n) history s) : s.Orderly := by
  induction run with
  | start => exact orderly_start positive
  | step _ _ acted ih => exact ih.act acted

/-! ### What is run in time -/

/-- What is taken off the pending items in a step, or goes on there. -/
def Deed.items : Deed → Multiset Item
  | .ran j => {.job j}
  | .worked _ t => {.task t}
  | .called .. | .took .. | .stopping => 0

/-- What is running, and what is queued before enough stop messages to be run still. -/
def timely (s : Scheduler) : Multiset Item :=
  ↑((Entry.inTime s.controlAlive.toNat s.control).map Item.job) + ↑((Entry.inTime s.present s.work).map Item.task)
    + itemsOf Worker.task? Item.task s.workers

theorem Grows.timely_le (grows : s.Grows s') : s.timely ≤ s'.timely := by
  obtain ⟨jobs, control⟩ := grows.control
  obtain ⟨tasks, work⟩ := grows.work
  have there : s'.present = s.present := by rw [present, present, grows.workers]
  unfold timely
  rw [grows.controlAlive, there, grows.workers, control, work, Entry.inTime_append, Entry.inTime_append,
    List.map_append, List.map_append, ← Multiset.coe_add, ← Multiset.coe_add]
  gcongr
  · exact Multiset.le_add_right _ _
  · exact Multiset.le_add_right _ _

theorem timely_of_control {j : ControlJob} {rest : List (Entry ControlJob)} (alive : s.controlAlive = true)
    (next : s.control = .job j :: rest) :
    s.timely = {.job j} + ({ s with control := rest } : Scheduler).timely := by
  simp only [timely, next, alive, Bool.toNat_true, Entry.inTime, List.map_cons, present]
  rw [← Multiset.cons_coe, ← Multiset.singleton_add]
  ac_rfl

theorem timely_of_work {t : Task} {rest : List (Entry Task)} (some_left : 0 < s.present)
    (next : s.work = .job t :: rest) :
    s.timely = {.task t} + ({ s with work := rest } : Scheduler).timely := by
  obtain ⟨takers, count⟩ := Nat.exists_eq_succ_of_ne_zero some_left.ne'
  have same : ({ s with work := rest } : Scheduler).present = takers.succ := count
  simp only [timely, next, count, same, Entry.inTime, List.map_cons]
  rw [← Multiset.cons_coe, ← Multiset.singleton_add]
  ac_rfl

/-- Replacing a worker that stays by one that stays changes what is run in time by their tasks. -/
theorem timely_setWorker {i : Nat} {old w : Worker} (found : s.workers[i]? = some old)
    (stayed : old.isExited = false) (stays : w.isExited = false) :
    (s.setWorker i w).timely + old.items = s.timely + w.items := by
  have there := present_setWorker_of_stays found stayed stays
  have moved := itemsOf_set found w
  unfold timely
  rw [there]
  simp only [setWorker, add_assoc]
  rw [moved]

theorem running_timely {i : Nat} {t : Task} (found : s.workers[i]? = some (.running t)) :
    {Item.task t} ≤ s.timely := by
  have left := itemsOf_set found .idle
  rw [Worker.items_running, Worker.items_idle, add_zero] at left
  unfold timely
  rw [← left]
  exact (Multiset.le_add_left _ _).trans (Multiset.le_add_left _ _)

/-- What is to be run in time stays so until it is run. -/
theorem timely_le_of_act {a : Action} {o : Occurrence} (acted : s.act? a = some (s', o)) :
    s.timely ≤ o.deed.items + s'.timely := by
  have passage := act_passage acted
  generalize o.deed = d at passage
  cases passage with
  | called c reply s' grows =>
    rw [Deed.items, zero_add]
    exact grows.timely_le
  | ran environment j rest s' alive next grows =>
    rw [timely_of_control alive next, Deed.items]
    gcongr
    exact grows.timely_le
  | controlLeft environment rest alive next =>
    rw [Deed.items, zero_add]
    simp [timely, next, alive, Entry.inTime, present]
  | took environment i t rest found next =>
    -- The task moves from the front of the queue to the worker.
    have moved := timely_setWorker (s := { s with work := rest }) (w := .running t) found rfl rfl
    rw [Worker.items_idle, Worker.items_running, add_zero] at moved
    rw [timely_of_work (present_of_found found rfl) next, moved, Deed.items, zero_add, add_comm]
  | workerLeft environment i rest found next =>
    -- One stop message less, for one worker less.
    have fewer := present_setWorker (s := { s with work := rest }) found .exited
    have moved := itemsOf_set found .exited
    rw [Worker.items_idle, add_zero, Worker.items_exited, add_zero] at moved
    have count : s.present = (({ s with work := rest } : Scheduler).setWorker i .exited).present + 1 := fewer.symm
    rw [Deed.items, zero_add]
    unfold timely
    rw [count, next, Entry.inTime, ← moved]
    exact le_refl _
  | wentOn environment i t t' found =>
    have moved := timely_setWorker (w := .running t') found rfl rfl
    rw [Worker.items_running, Worker.items_running] at moved
    rw [Deed.items, add_comm, moved]
    exact Multiset.le_add_right _ _
  | finished environment i t j found =>
    have moved := timely_setWorker (w := .idle) found rfl rfl
    rw [Worker.items_running, Worker.items_idle, add_zero] at moved
    rw [Deed.items, ← moved, add_comm]
    gcongr
    exact (grows_post _ j).timely_le
  | shutdownBegun running => simp [Deed.items, timely, present]
  | shutdownRepeated => simp [Deed.items]
  | stopSent environment unsent stopping =>
    simp only [Deed.items, zero_add, timely, present, Entry.inTime_append, List.map_append, ← Multiset.coe_add]
    gcongr
    exact Multiset.le_add_right _ _
  | lastStopSent environment stopping left =>
    simp only [Deed.items, zero_add, timely, present, Entry.inTime_append, List.map_append, ← Multiset.coe_add]
    gcongr
    exact Multiset.le_add_right _ _

/-- Some worker has not been sent its stop message. -/
def HasUnsent (s : Scheduler) : Prop := s.lifecycle = .running ∨ ∃ unsent, s.lifecycle = .stopping (unsent + 1)

theorem Orderly.stops_lt (h : s.Orderly) (unsent : s.HasUnsent) :
    Entry.stops s.work < s.present ∧ Entry.stops s.control < s.controlAlive.toNat := by
  cases h with
  | running on alive staffed all tasks jobs => simp [tasks, jobs, alive, staffed]
  | stopping u on alive tasks jobs =>
    rcases unsent with running | ⟨more, stopping⟩
    · simp [on] at running
    · obtain rfl : u = more + 1 := by simpa [on] using stopping
      rw [jobs, alive]
      exact ⟨by omega, Nat.one_pos⟩
  | closing on => simp [HasUnsent, on] at unsent

/-- As long as some worker has not been sent its stop message, everything is run in time. -/
theorem Orderly.timely_eq (h : s.Orderly) (unsent : s.HasUnsent) : s.timely = s.pending := by
  obtain ⟨tasks, jobs⟩ := h.stops_lt unsent
  simp only [timely, pending, itemsOf, Entry.inTime_of_stops_lt tasks, Entry.inTime_of_stops_lt jobs]

/-- Once the scheduler is shut down, all threads have left. -/
theorem Orderly.left_of_isShutDown (h : s.Orderly) (shut : s.isShutDown = true) :
    s.present = 0 ∧ s.controlAlive = false := by
  obtain ⟨closing, gone⟩ : s.lifecycle = .closing ∧ s.controlAlive = false := by
    simpa [isShutDown] using shut
  refine ⟨?_, gone⟩
  cases h with
  | running on => simp [on] at closing
  | stopping u on => simp [on] at closing
  | closing on left => exact left

/-- Once the scheduler is shut down, nothing is left that was to be run. -/
theorem Orderly.timely_of_isShutDown (h : s.Orderly) (shut : s.isShutDown = true) : s.timely = 0 := by
  obtain ⟨left, gone⟩ := h.left_of_isShutDown shut
  have none_running : s.workers.filterMap Worker.task? = [] := by
    rw [List.filterMap_eq_nil_iff]
    intro w member
    have exited := (List.countP_eq_zero.mp left) w member
    cases w with
    | exited => rfl
    | idle => simp [Worker.isExited] at exited
    | running t => simp [Worker.isExited] at exited
  simp [timely, gone, left, itemsOf, none_running]

theorem Orderly.queued_timely {j : ControlJob} (h : s.Orderly) (some_left : 0 < s.present)
    (queued : .job j ∈ s.control) : Item.job j ∈ s.timely := by
  obtain ⟨alive, no_stop⟩ := h.of_present some_left
  have all : Entry.inTime s.controlAlive.toNat s.control = s.control.filterMap Entry.content? := by
    apply Entry.inTime_of_stops_lt
    rw [no_stop, alive]
    exact Nat.one_pos
  have taken : j ∈ s.control.filterMap Entry.content? := List.mem_filterMap.mpr ⟨.job j, queued, rfl⟩
  rw [timely, all]
  refine Multiset.mem_add.mpr (.inl (Multiset.mem_add.mpr (.inl ?_)))
  exact List.mem_map_of_mem taken

/-- What a worker puts in the place of its task is run in time. -/
theorem Orderly.produced_timely {a : Action} {o : Occurrence} {i : Nat} {t : Task}
    {produced rest : Multiset Item} (h : s.Orderly) (acted : s.act? a = some (s', o))
    (works : o.deed = .worked i t) (before : s.pending = {.task t} + rest)
    (after : s'.pending = produced + rest) : produced ≤ s'.timely := by
  have passage := act_passage acted
  rw [works] at passage
  cases passage with
  | wentOn environment _ _ t' found =>
    have swapped := pending_setWorker found (.running t')
    rw [after, before, Worker.items_running, Worker.items_running] at swapped
    have same : produced = {.task t'} := by
      apply add_right_cancel (b := rest + {.task t})
      rw [← add_assoc, swapped]
      ac_rfl
    obtain ⟨below, -⟩ := List.getElem?_eq_some_iff.mp found
    rw [same]
    exact running_timely (List.getElem?_set_self below)
  | finished environment _ _ j found =>
    -- The job stands behind all others, and no stop message is among them as long as a worker is there.
    obtain ⟨split, posted, -⟩ := finishTask_spec found j
    have serves := h.of_present (present_of_found found rfl)
    rw [before, add_right_inj] at split
    rw [after, split, serves.1, sentIf_true, add_left_inj] at posted
    have finished : (s.finishTask i j).Orderly := (h.setWorker found rfl rfl).grow (grows_post _ j)
    have there : (s.finishTask i j).present = s.present := by
      rw [finishTask, present, (grows_post _ j).workers]
      exact present_setWorker_of_stays found rfl rfl
    have queued : Entry.job j ∈ (s.finishTask i j).control := by
      simp [finishTask, post, submitJob?, serves.1, Scheduler.setWorker]
    rw [posted, Multiset.singleton_le]
    exact finished.queued_timely (there ▸ present_of_found found rfl) queued

end Scheduler

end PointStream
