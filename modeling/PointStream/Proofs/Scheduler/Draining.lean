import PointStream.Proofs.Scheduler.Errands

/-!
# Draining

What a shutdown does to the work that is queued and to the threads. The stop messages stand in the same queue as the
tasks, and every worker takes one. Whatever was queued while some worker had not been sent its own is worked on and its
result told before the last thread leaves, and a thread leaves by its stop message only.
-/

namespace PointStream

namespace Scheduler

/-- Worker `i` takes a stop message. -/
def Step.TakesStop (x : Step) (i : Nat) : Prop :=
  (∃ environment, x.action = .move environment (.worker i)) ∧ x.before.work = .stop :: x.after.work

/-- The control thread takes its stop message. -/
def Step.TakesLastStop (x : Step) : Prop :=
  (∃ environment, x.action = .move environment .control) ∧ x.before.control = .stop :: x.after.control

/-! ### Threads leave by stop messages only -/

section

variable {x : Step} {i : Nat}

/-- A step replaces one worker at most, which has not left, and which leaves by a stop message if it does. -/
theorem workers_of_act (acted : x.before.act? x.action = some (x.after, x.occurrence)) :
    x.after.workers = x.before.workers ∨
    ∃ k old w, x.before.workers[k]? = some old ∧ old ≠ .exited ∧ x.after.workers = x.before.workers.set k w ∧
      (w = .exited → x.TakesStop k) := by
  obtain ⟨s, a, o, s'⟩ := x
  have passage := act_passage acted
  dsimp only at passage
  generalize o.deed = d at passage
  cases passage with
  | called _ _ _ grows => exact .inl grows.workers
  | ran _ _ _ _ _ _ grows => exact .inl grows.workers
  | took environment k t rest found next => exact .inr ⟨k, .idle, .running t, found, by simp, rfl, by simp⟩
  | workerLeft environment k rest found next =>
    exact .inr ⟨k, .idle, .exited, found, by simp, rfl, fun _ => ⟨⟨environment, rfl⟩, next⟩⟩
  | wentOn environment k t t' found => exact .inr ⟨k, .running t, .running t', found, by simp, rfl, by simp⟩
  | finished environment k t j found =>
    exact .inr ⟨k, .running t, .idle, found, by simp, workers_finishTask s k j, by simp⟩
  | _ => exact .inl rfl

theorem exited_of_act (acted : x.before.act? x.action = some (x.after, x.occurrence))
    (gone : x.before.workers[i]? = some .exited) : x.after.workers[i]? = some .exited := by
  rcases workers_of_act acted with same | ⟨k, old, w, found, there, same, -⟩
  · rwa [same]
  · have elsewhere : k ≠ i := by
      rintro rfl
      rw [found, Option.some_inj] at gone
      exact there gone
    rwa [same, List.getElem?_set_ne elsewhere]

theorem takesStop_of_left (acted : x.before.act? x.action = some (x.after, x.occurrence))
    (there : x.before.workers[i]? ≠ some .exited) (gone : x.after.workers[i]? = some .exited) : x.TakesStop i := by
  rcases workers_of_act acted with same | ⟨k, old, w, found, -, same, leaves⟩
  · rw [same] at gone
    exact absurd gone there
  · by_cases here : k = i
    · subst here
      obtain ⟨below, -⟩ := List.getElem?_eq_some_iff.mp found
      rw [same, List.getElem?_set_self below, Option.some_inj] at gone
      exact leaves gone
    · rw [same, List.getElem?_set_ne here] at gone
      exact absurd gone there

/-- Who takes a stop message leaves. -/
theorem Step.TakesStop.leaves (takes : x.TakesStop i)
    (acted : x.before.act? x.action = some (x.after, x.occurrence)) :
    x.before.workers[i]? ≠ some .exited ∧ x.after.workers[i]? = some .exited := by
  obtain ⟨s, a, o, s'⟩ := x
  obtain ⟨⟨environment, same⟩, shorter⟩ := takes
  have passage := act_passage acted
  dsimp only at same passage shorter
  subst same
  generalize o.deed = d at passage
  -- A worker that takes no stop message leaves the queue as it is or takes a task.
  cases passage with
  | took _ _ t rest found next =>
    simp only [next, Scheduler.setWorker, List.cons.injEq] at shorter
    cases shorter.1
  | workerLeft _ _ rest found next =>
    obtain ⟨below, -⟩ := List.getElem?_eq_some_iff.mp found
    refine ⟨by simp [found], List.getElem?_set_self below⟩
  | wentOn _ _ t t' found =>
    have length := congrArg List.length shorter
    simp [Scheduler.setWorker] at length
  | finished _ _ t j found =>
    obtain ⟨tasks, work⟩ := (grows_post (s.setWorker i .idle) j).work
    have length := congrArg List.length shorter
    rw [finishTask, work] at length
    simp only [Scheduler.setWorker, List.length_cons, List.length_append] at length
    omega

theorem takesLastStop_of_left (acted : x.before.act? x.action = some (x.after, x.occurrence))
    (there : x.before.controlAlive = true) (gone : x.after.controlAlive = false) : x.TakesLastStop := by
  obtain ⟨s, a, o, s'⟩ := x
  have passage := act_passage acted
  dsimp only at passage there gone
  generalize o.deed = d at passage
  cases passage with
  | called _ _ _ grows =>
    rw [grows.controlAlive, there] at gone
    cases gone
  | ran _ _ _ _ _ _ grows =>
    rw [grows.controlAlive, there] at gone
    cases gone
  | controlLeft environment rest alive next => exact ⟨⟨environment, rfl⟩, next⟩
  | finished environment k t j found =>
    rw [finishTask, (grows_post _ j).controlAlive] at gone
    exact absurd (there.symm.trans gone) Bool.noConfusion
  | _ => exact absurd (there.symm.trans gone) Bool.noConfusion

end

/-! ### Each worker takes one stop message -/

section

variable {admits : Action → Prop} {n : Nat} {initial s : Scheduler} {steps : List Step} {i p q : Nat} {x y : Step}

theorem exited_later (path : Path admits initial steps s) (gone : initial.workers[i]? = some .exited) :
    s.workers[i]? = some .exited := by
  induction path with
  | start => exact gone
  | @step steps s a s' o _ _ acted ih => exact exited_of_act (x := ⟨s, a, o, s'⟩) acted ih

theorem takesStop_once (path : Path admits initial steps s) (one : steps[p]? = some x) (takes : x.TakesStop i)
    (other : steps[q]? = some y) (retakes : y.TakesStop i) : p = q := by
  have once {p q : Nat} {x y : Step} (one : steps[p]? = some x) (takes : x.TakesStop i)
      (other : steps[q]? = some y) (retakes : y.TakesStop i) : ¬p < q := by
    intro lt
    obtain ⟨-, -, acted, later⟩ := path.step_at one
    obtain ⟨d, rfl⟩ := Nat.exists_eq_add_of_lt lt
    have behind : (steps.drop (p + 1))[d]? = some y := by
      rwa [List.getElem?_drop, show p + 1 + d = p + d + 1 by omega]
    obtain ⟨between, -, acted', -⟩ := later.step_at behind
    exact (retakes.leaves acted').1 (exited_later between (takes.leaves acted).2)
  have first := once one takes other retakes
  have second := once other retakes one takes
  omega

theorem exists_takesStop (path : Path admits initial steps s) (there : initial.workers[i]? ≠ some .exited)
    (gone : s.workers[i]? = some .exited) : ∃ (k : Nat) (x : Step), steps[k]? = some x ∧ x.TakesStop i := by
  induction path with
  | start => exact absurd gone there
  | @step steps s a s' o earlier _ acted ih =>
    by_cases already : s.workers[i]? = some .exited
    · obtain ⟨k, x, found, takes⟩ := ih already
      exact ⟨k, x, getElem?_of_early found, takes⟩
    · exact ⟨steps.length, _, List.getElem?_concat_length, takesStop_of_left (x := ⟨s, a, o, s'⟩) acted already gone⟩

theorem length_workers (path : Path admits (start n) steps s) : s.workers.length = n := by
  induction path with
  | start => exact List.length_replicate
  | @step steps s a s' o _ _ acted ih =>
    rcases workers_of_act (x := ⟨s, a, o, s'⟩) acted with same | ⟨k, old, w, -, -, same, -⟩
    · rwa [same]
    · rwa [same, List.length_set]

/-- At the end of a shutdown each worker has taken one stop message. -/
theorem exists_unique_takesStop (positive : 0 < n) (path : Path admits (start n) steps s)
    (shut : s.isShutDown = true) (below : i < n) : ∃! k : Nat, ∃ x : Step, steps[k]? = some x ∧ x.TakesStop i := by
  obtain ⟨left, -⟩ := (orderly_of_run positive path.run).left_of_isShutDown shut
  have there : (start n).workers[i]? ≠ some .exited := by
    intro gone
    cases List.eq_of_mem_replicate (List.mem_of_getElem? gone)
  have gone : s.workers[i]? = some .exited := by
    obtain ⟨w, found⟩ : ∃ w, s.workers[i]? = some w :=
      ⟨_, List.getElem?_eq_getElem (by rwa [length_workers path])⟩
    have exited := (List.countP_eq_zero.mp left) w (List.mem_of_getElem? found)
    cases w with
    | exited => exact found
    | idle | running => simp [Worker.isExited] at exited
  obtain ⟨k, x, at_k, takes⟩ := exists_takesStop path there gone
  refine ⟨k, ⟨x, at_k, takes⟩, ?_⟩
  rintro k' ⟨x', at_k', takes'⟩
  exact takesStop_once path at_k' takes' at_k takes

end

/-! ### A shutdown goes on -/

namespace Orderly

variable {s : Scheduler}

/-- A worker that is there when all stop messages are sent does not wait for anything. -/
theorem worker_moves (h : s.Orderly) (sent : s.lifecycle = .stopping 0) {i : Nat} {w : Worker}
    (found : s.workers[i]? = some w) (there : w ≠ .exited) (environment : Environment) :
    (s.move? environment (.worker i)).isSome := by
  cases w with
  | exited => exact absurd rfl there
  | running t => simp [move?, stepWorker?, found]
  | idle =>
    have staffed := present_of_found found rfl
    cases h with
    | running on => simp [on] at sent
    | closing on => simp [on] at sent
    | stopping unsent on alive tasks jobs =>
      obtain rfl : unsent = 0 := by simpa [on] using sent
      cases next : s.work with
      | nil => simp [next] at tasks; omega
      | cons entry rest => cases entry <;> simp [move?, stepWorker?, found, next]

/-- As long as a shutdown is not over, some thread can move. -/
theorem shutdown_proceeds (h : s.Orderly) (begun : s.lifecycle ≠ .running) (unfinished : s.isShutDown = false) :
    ∃ m, ∀ environment, (s.move? environment m).isSome := by
  have orderly := h
  cases h with
  | running on => exact absurd on begun
  | stopping unsent on alive tasks jobs =>
    cases unsent with
    | succ unsent => exact ⟨.shutdown, fun environment => by simp [move?, stepShutdown?, on]⟩
    | zero =>
      by_cases left : s.workers.all Worker.isExited = true
      · exact ⟨.shutdown, fun environment => by simp [move?, stepShutdown?, on, left]⟩
      · rw [Bool.not_eq_true, List.all_eq_false] at left
        obtain ⟨w, member, there⟩ := left
        obtain ⟨i, found⟩ := List.getElem?_of_mem member
        refine ⟨.worker i, orderly.worker_moves on found ?_⟩
        rintro rfl
        exact there rfl
  | closing on left jobs =>
    -- The control thread has one stop message, so its queue is not empty.
    have alive : s.controlAlive = true := by simpa [isShutDown, on] using unfinished
    rw [alive] at jobs
    refine ⟨.control, fun environment => ?_⟩
    cases next : s.control with
    | nil => simp [next] at jobs
    | cons entry rest => cases entry <;> simp [move?, stepControl?, alive, next]

end Orderly

/-! ### Work and shutdowns -/

/-- Tasks and jobs are taken once and in the order in which they are queued, tasks are worked on only after that, and a
thread leaves by a stop message only, whatever tasks and callbacks do. A shutdown that has begun goes on, and no worker
that is there waits when all stop messages are sent. When it is over, every task that was queued before has been worked
on once, and its result, also that it was aborted, handed to the control thread and told there once. Each worker has
taken one stop message, and nothing can be queued any more. -/
theorem queued_work_done_before_shutdown {n : Nat} (positive : 0 < n) {steps : List Step} {s : Scheduler}
    (path : Path (fun _ => True) (start n) steps s) :
    steps.filterMap Step.queued? = steps.filterMap Step.taken? ++ s.work.filterMap Entry.content? ∧
    steps.filterMap Step.posted? = steps.filterMap Step.ran? ++ s.control.filterMap Entry.content? ∧
    (∀ (k : Nat) (x : Step) (i : Nat) (u : Task), steps[k]? = some x → x.deed = .worked i u →
      ∃ p q t, p < q ∧ q < k ∧ Serves Step.queued? Step.taken? steps p q t ∧ u.afresh = t.afresh ∧
        (∃ y : Step, steps[q]? = some y ∧ y.deed = .took i t) ∧
        ∀ (m : Nat) (y : Step), q < m → m < k → steps[m]? = some y → y.Continues i t) ∧
    (∀ x ∈ steps,
      (∀ i, x.before.workers[i]? ≠ some .exited → x.after.workers[i]? = some .exited → x.TakesStop i) ∧
      (x.before.controlAlive = true → x.after.controlAlive = false → x.TakesLastStop)) ∧
    (s.lifecycle ≠ .running → s.isShutDown = false → ∃ m, ∀ environment, (s.move? environment m).isSome) ∧
    (s.lifecycle = .stopping 0 → ∀ (i : Nat) (w : Worker), s.workers[i]? = some w → w ≠ .exited →
      ∀ environment, (s.move? environment (.worker i)).isSome) ∧
    (s.isShutDown = true →
      (∀ (p : Nat) (x : Step) (t : Task), steps[p]? = some x → x.queued? = some t → x.before.HasUnsent →
        ∃ q e r i j, Errand steps p q e r i t j ∧
          (∀ q' e' r' i' t' j', Errand steps p q' e' r' i' t' j' →
            q' = q ∧ e' = e ∧ r' = r ∧ i' = i ∧ t' = t ∧ j' = j) ∧
          ∀ p' q' e' i' t' j', Errand steps p' q' e' r i' t' j' → p' = p) ∧
      (∀ i < n, ∃! k : Nat, ∃ x : Step, steps[k]? = some x ∧ x.TakesStop i) ∧
      (∀ t, s.submitTask? t = none) ∧ ∀ j, s.submitJob? j = none) := by
  have orderly := orderly_of_run positive path.run
  refine ⟨taskLine.in_order path, jobLine.in_order path, fun k x i u => exists_queued_of_worked path, ?_,
    orderly.shutdown_proceeds, fun sent i w found there => orderly.worker_moves sent found there, fun shut => ?_⟩
  · intro x member
    obtain ⟨k, found⟩ := List.getElem?_of_mem member
    obtain ⟨-, -, acted, -⟩ := path.step_at found
    exact ⟨fun i => takesStop_of_left acted, takesLastStop_of_left acted⟩
  · obtain ⟨left, gone⟩ := orderly.left_of_isShutDown shut
    refine ⟨?_, fun i => exists_unique_takesStop positive path shut, fun t => ?_, fun j => ?_⟩
    · intro p x t found queues unsent
      obtain ⟨q, e, r, i, j, errand⟩ := exists_errand_of_shutDown positive path shut found queues unsent
      exact ⟨q, e, r, i, j, errand, fun _ _ _ _ _ _ other => errand.unique other,
        fun _ _ _ _ _ _ other => other.injective errand⟩
    · apply submitTask?_of_not_working
      rw [← Bool.not_eq_true, isWorking_iff_present, left]
      exact lt_irrefl 0
    · rw [submitJob?, gone]
      rfl

/-- A source is asked for whose provider aborts, and a shutdown begins before the worker has taken the task. -/
def openThenShutdown : List Action :=
  let panicking : Environment := { openHanded with
    provider := { openHanded.provider with openSource := fun _ => .aborted } }
  [.call (.create 0 "pipeline" { recipient := 0 }), .shutdown, .move panicking .shutdown, .move panicking (.worker 0),
    .move panicking (.worker 0), .move panicking (.worker 0), .move panicking .control, .move panicking .shutdown,
    .move panicking .control]

/-- The task is worked on and its result told, and the worker takes its stop message. -/
theorem openThenShutdown_told :
    ((start 1).follow openThenShutdown).1.isShutDown = true ∧
    (∃ q e r i j,
      Errand ((start 1).trail openThenShutdown) 0 q e r i (.openSource 0 "pipeline" { recipient := 0 }) j) ∧
    ∃! k : Nat, ∃ x : Step, ((start 1).trail openThenShutdown)[k]? = some x ∧ x.TakesStop 0 := by
  have path : Path (fun _ => True) (start 1) ((start 1).trail openThenShutdown)
    ((start 1).follow openThenShutdown).1 := path_trail (start 1) openThenShutdown fun _ _ => trivial
  have shut : ((start 1).follow openThenShutdown).1.isShutDown = true := rfl
  obtain ⟨-, -, -, -, -, -, settled⟩ := queued_work_done_before_shutdown (by decide) path
  obtain ⟨told, stopped, -⟩ := settled shut
  obtain ⟨q, e, r, i, j, errand, -⟩ := told 0 _ _ rfl rfl (.inl rfl)
  exact ⟨shut, ⟨q, e, r, i, j, errand⟩, stopped 0 (by decide)⟩

end Scheduler

end PointStream
