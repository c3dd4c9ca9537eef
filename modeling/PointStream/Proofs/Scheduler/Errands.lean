import PointStream.Proofs.Scheduler.Path

/-!
# Errands

The way of a task: it is queued, a worker takes it and works on it and on nothing else until it ends, and the control
thread runs the job that tells its result. Every task that a worker works on is on such a way, and so is every job but
those that start reads. What is queued while some worker has not been sent its stop message goes the whole way before
all threads have left.
-/

namespace PointStream

open Scheduler (queryResult)

/-- The task as it was queued: a transmission goes back to its beginning. -/
def Task.afresh : Task → Task
  | .stream session command _ => .stream session command {}
  | t => t

/-- The job that tells how a task ends, if it ends in its next step. -/
def Task.result? (environment : Environment) (x : Nat → Session) : Task → Option ControlJob
  | .openSource session pipeline callback =>
    some (.opened session (environment.provider.openSource pipeline) callback)
  | .validate session pipeline callback =>
    some (.validated session (environment.provider.validate pipeline) callback)
  | .query session command callback =>
    some (.queried session command.generation (queryResult command) callback)
  | .stream session command transmission =>
    match (transmission.step (environment.consumer session command.generation command.host command.port) command
        ((x session).slot.isCancelled command.generation)).2 with
    | .goesOn _ => none
    | .ends outcome => some (.streamed session command.generation command.numBytes outcome)

namespace Scheduler

/-- The job that tells how a task ends in a step. -/
def Step.result? (x : Step) : Option ControlJob :=
  match x.action, x.deed with
  | .move environment _, .worked _ t => t.result? environment x.before.sessions
  | _, _ => none

theorem result?_of_worked {x : Step} {environment : Environment} {m : Move} {i : Nat} {t : Task}
    (moves : x.action = .move environment m) (works : x.deed = .worked i t) :
    x.result? = t.result? environment x.before.sessions := by
  simp only [Step.result?, moves, works]

theorem deed_of_ran {x : Step} {j : ControlJob} (ran : x.ran? = some j) : x.deed = .ran j := by
  unfold Step.ran? at ran
  split at ran
  next k runs => rw [runs, Option.some.inj ran]
  next => cases ran

theorem deed_of_taken {x : Step} {t : Task} (taken : x.taken? = some t) : ∃ i, x.deed = .took i t := by
  unfold Step.taken? at taken
  split at taken
  next i u took => exact ⟨i, by rw [took, Option.some.inj taken]⟩
  next => cases taken

/-! ### What a worker does in a step -/

section

variable {s s' : Scheduler} {a : Action} {o : Occurrence} {i : Nat} {t : Task}

theorem runTask_of_result {environment : Environment} {j : ControlJob}
    (ends : t.result? environment s.sessions = some j) : (s.runTask environment i t).1 = s.finishTask i j := by
  cases t with
  | openSource | validate | query =>
    cases ends
    rfl
  | stream session command transmission =>
    obtain ⟨contacts, next, stepped⟩ : ∃ contacts next, transmission.step
        (environment.consumer session command.generation command.host command.port) command
        ((s.sessions session).slot.isCancelled command.generation) = (contacts, next) := ⟨_, _, rfl⟩
    cases next with
    | goesOn transmission' => simp [Task.result?, stepped] at ends
    | ends result =>
      obtain rfl := Option.some.inj (by simpa only [Task.result?, stepped] using ends)
      simp only [runTask, stepped]

theorem runTask_of_no_result {environment : Environment} (goes : t.result? environment s.sessions = none) :
    ∃ t', t'.afresh = t.afresh ∧ (s.runTask environment i t).1 = s.setWorker i (.running t') := by
  cases t with
  | openSource | validate | query => cases goes
  | stream session command transmission =>
    obtain ⟨contacts, next, stepped⟩ : ∃ contacts next, transmission.step
        (environment.consumer session command.generation command.host command.port) command
        ((s.sessions session).slot.isCancelled command.generation) = (contacts, next) := ⟨_, _, rfl⟩
    cases next with
    | goesOn transmission' =>
      refine ⟨.stream session command transmission', rfl, ?_⟩
      simp only [runTask, stepped]
    | ends result => simp [Task.result?, stepped] at goes

theorem act_worked (acted : s.act? a = some (s', o)) (works : o.deed = .worked i t) :
    ∃ environment, a = .move environment (.worker i) ∧ s.workers[i]? = some (.running t) ∧
      s' = (s.runTask environment i t).1 := by
  have passage := act_passage acted
  rw [works] at passage
  obtain ⟨environment, rfl, found⟩ :
      ∃ environment, a = .move environment (.worker i) ∧ s.workers[i]? = some (.running t) := by
    cases passage with
    | wentOn environment _ _ _ found => exact ⟨environment, rfl, found⟩
    | finished environment _ _ _ found => exact ⟨environment, rfl, found⟩
  refine ⟨environment, rfl, found, ?_⟩
  simp only [act?, move?, stepWorker?, found, Option.map_some, Option.some_inj, Prod.mk.injEq] at acted
  exact acted.1.symm

/-- What worker `i` does in a step: nothing, taking a task, going on with it, ending it, or leaving. -/
inductive Shift (i : Nat) (x : Step) : Prop
  | rests (other : x.deed.worker? ≠ some i)
      (same : ∀ t, x.after.workers[i]? = some (.running t) ↔ x.before.workers[i]? = some (.running t))
  | takes (t : Task) (deed : x.deed = .took i t) (posts : x.posted? = none) (idle : x.before.workers[i]? = some .idle)
      (running : x.after.workers[i]? = some (.running t))
  | goesOn (t t' : Task) (deed : x.deed = .worked i t) (kin : t'.afresh = t.afresh) (result : x.result? = none)
      (posts : x.posted? = none) (found : x.before.workers[i]? = some (.running t))
      (running : x.after.workers[i]? = some (.running t'))
  | ends (t : Task) (j : ControlJob) (deed : x.deed = .worked i t) (result : x.result? = some j)
      (posts : x.posted? = if x.before.controlAlive then some j else none)
      (found : x.before.workers[i]? = some (.running t)) (idle : x.after.workers[i]? = some .idle)

theorem workers_finishTask (s : Scheduler) (i : Nat) (j : ControlJob) :
    (s.finishTask i j).workers = s.workers.set i .idle := (grows_post _ j).workers

theorem posted?_finishTask (s : Scheduler) (i : Nat) (j : ControlJob) :
    Entry.added? s.control (s.finishTask i j).control = if s.controlAlive then some j else none := by
  cases alive : s.controlAlive <;>
    simp [finishTask, post, submitJob?, Scheduler.setWorker, alive, Entry.added?, Entry.content?]

theorem getElem?_set_ne_running {workers : List Worker} {i k : Nat} {old w : Worker} (found : workers[k]? = some old)
    (before : ∀ t, old ≠ .running t) (after : ∀ t, w ≠ .running t) (t : Task) :
    (workers.set k w)[i]? = some (.running t) ↔ workers[i]? = some (.running t) := by
  by_cases here : k = i
  · subst here
    obtain ⟨below, -⟩ := List.getElem?_eq_some_iff.mp found
    rw [List.getElem?_set_self below, found, Option.some_inj, Option.some_inj]
    exact ⟨fun same => absurd same (after t), fun same => absurd same (before t)⟩
  · rw [List.getElem?_set_ne here]

theorem shift_of_act (acted : s.act? a = some (s', o)) (i : Nat) : Shift i ⟨s, a, o, s'⟩ := by
  have passage := act_passage acted
  cases works : o.deed with
  | worked k t =>
    obtain ⟨environment, rfl, found, rfl⟩ := act_worked acted works
    obtain ⟨below, -⟩ := List.getElem?_eq_some_iff.mp found
    by_cases here : k = i
    · subst here
      cases result : t.result? environment s.sessions with
      | none =>
        obtain ⟨t', kin, same⟩ := runTask_of_no_result (s := s) (i := k) result
        refine .goesOn t t' works kin ?_ ?_ found ?_
        · simp only [Step.result?, Step.deed, works, result]
        · simp [Step.posted?, same, Scheduler.setWorker, Entry.added?]
        · rw [same]
          exact List.getElem?_set_self below
      | some j =>
        have same := runTask_of_result (s := s) (i := k) result
        refine .ends t j works ?_ ?_ found ?_
        · simp only [Step.result?, Step.deed, works, result]
        · simp only [Step.posted?, same, posted?_finishTask]
        · simp only [same, workers_finishTask]
          exact List.getElem?_set_self below
    · -- Another worker goes on with its task or ends it, which leaves worker `i` as it is.
      have elsewhere : (s.runTask environment k t).1.workers[i]? = s.workers[i]? := by
        cases result : t.result? environment s.sessions with
        | none =>
          obtain ⟨t', -, same⟩ := runTask_of_no_result (s := s) (i := k) result
          rw [same]
          exact List.getElem?_set_ne here
        | some j =>
          rw [runTask_of_result (s := s) (i := k) result, workers_finishTask]
          exact List.getElem?_set_ne here
      refine .rests ?_ fun t' => by rw [elsewhere]
      simpa [Step.deed, works, Deed.worker?] using here
  | took k t =>
    rw [works] at passage
    cases passage with
    | took environment _ _ rest found next =>
      by_cases here : k = i
      · subst here
        obtain ⟨below, -⟩ := List.getElem?_eq_some_iff.mp found
        refine .takes t works ?_ found (List.getElem?_set_self below)
        simp [Step.posted?, Scheduler.setWorker, Entry.added?]
      · refine .rests ?_ fun t' => ?_
        · simpa [Step.deed, works, Deed.worker?] using here
        · simp [Scheduler.setWorker, List.getElem?_set_ne here]
  | called c reply =>
    rw [works] at passage
    refine .rests ?_ fun t => ?_
    · simp [Step.deed, works, Deed.worker?]
    · cases passage with
      | called _ _ _ grows => simp only [grows.workers]
  | ran j =>
    rw [works] at passage
    refine .rests ?_ fun t => ?_
    · simp [Step.deed, works, Deed.worker?]
    · cases passage with
      | ran _ _ _ _ _ _ grows => simp only [grows.workers]
  | stopping =>
    rw [works] at passage
    refine .rests ?_ fun t => ?_
    · simp [Step.deed, works, Deed.worker?]
    · cases passage with
      | workerLeft environment k rest found next => exact getElem?_set_ne_running found (by simp) (by simp) t
      | _ => rfl

end

/-! ### One task after the other -/

/-- Worker `i` works on a task, or on one that it has become. -/
def Step.Works (x : Step) (i : Nat) (t : Task) : Prop := ∃ t', x.deed = .worked i t' ∧ t'.afresh = t.afresh

/-- If worker `i` makes the step, it goes on with a task. -/
def Step.Continues (x : Step) (i : Nat) (t : Task) : Prop :=
  x.deed.worker? = some i → x.Works i t ∧ x.result? = none

/-- The task of worker `i` ends with a job. -/
def Step.Ends (x : Step) (i : Nat) (t : Task) (j : ControlJob) : Prop := x.Works i t ∧ x.result? = some j

theorem Step.Continues.not_ends {x : Step} {i : Nat} {t u : Task} {j : ControlJob} (goes : x.Continues i t) :
    ¬x.Ends i u j := by
  rintro ⟨⟨t', works, -⟩, ends⟩
  have worker : x.deed.worker? = some i := by rw [works, Deed.worker?]
  rw [(goes worker).2] at ends
  cases ends

theorem Step.Continues.not_takes {x : Step} {i : Nat} {t u : Task} (goes : x.Continues i t) :
    x.deed ≠ .took i u := by
  intro takes
  have worker : x.deed.worker? = some i := by rw [takes, Deed.worker?]
  obtain ⟨⟨t', works, -⟩, -⟩ := goes worker
  rw [takes] at works
  cases works

section

variable {admits : Action → Prop} {n : Nat} {initial s : Scheduler} {steps : List Step} {i : Nat} {t : Task}

/-- Whether a position is the last one, one before, or none, of a list that grows at its end. -/
theorem getElem?_snoc {steps : List Step} {x y : Step} {k : Nat} (found : (steps ++ [x])[k]? = some y) :
    steps[k]? = some y ∨ k = steps.length ∧ y = x := by
  by_cases early : k < steps.length
  · rw [List.getElem?_append_left early] at found
    exact .inl found
  · obtain ⟨below, -⟩ := List.getElem?_eq_some_iff.mp found
    rw [List.length_append, List.length_singleton] at below
    obtain rfl : k = steps.length := by omega
    rw [List.getElem?_concat_length] at found
    exact .inr ⟨rfl, (Option.some.inj found).symm⟩

theorem getElem?_of_early {steps : List Step} {x y : Step} {k : Nat} (found : steps[k]? = some y) :
    (steps ++ [x])[k]? = some y := by
  obtain ⟨below, -⟩ := List.getElem?_eq_some_iff.mp found
  rwa [List.getElem?_append_left below]

/-- A worker goes on with its task, from the first step on, until it ends. -/
theorem continues_or_ends (path : Path admits initial steps s) (running : initial.workers[i]? = some (.running t)) :
    ((∃ t', s.workers[i]? = some (.running t') ∧ t'.afresh = t.afresh) ∧
      ∀ (k : Nat) (x : Step), steps[k]? = some x → x.Continues i t) ∨
    ∃ (e : Nat) (x : Step) (j : ControlJob), steps[e]? = some x ∧ x.Ends i t j ∧
      ∀ (k : Nat) (y : Step), k < e → steps[k]? = some y → y.Continues i t := by
  induction path with
  | start => exact .inl ⟨⟨t, running, rfl⟩, fun k x found => by simp at found⟩
  | @step steps s a s' o earlier admitted acted ih =>
    rcases ih with ⟨⟨t', found, kin⟩, goes⟩ | ⟨e, x, j, found, ends, goes⟩
    · -- The task is still running, and the last step is its next one or somebody else's.
      have continued (last : Step.Continues ⟨s, a, o, s'⟩ i t) (k : Nat) (x : Step)
          (at_k : (steps ++ [⟨s, a, o, s'⟩])[k]? = some x) : x.Continues i t := by
        rcases getElem?_snoc at_k with early | ⟨-, rfl⟩
        · exact goes k x early
        · exact last
      cases shift_of_act acted i with
      | rests other same =>
        exact .inl ⟨⟨t', (same t').mpr found, kin⟩, continued fun worker => absurd worker other⟩
      | takes _ _ _ idle =>
        rw [found] at idle
        cases idle
      | goesOn u u' works become result _ before after =>
        obtain rfl : u = t' := by simpa [found] using before.symm
        refine .inl ⟨⟨u', after, become.trans kin⟩, continued fun _ => ⟨⟨u, works, kin⟩, result⟩⟩
      | ends u j works result _ before =>
        obtain rfl : u = t' := by simpa [found] using before.symm
        refine .inr ⟨steps.length, _, j, List.getElem?_concat_length, ⟨⟨u, works, kin⟩, result⟩, ?_⟩
        intro k y before at_k
        rw [List.getElem?_append_left before] at at_k
        exact goes k y at_k
    · refine .inr ⟨e, x, j, getElem?_of_early found, ends, ?_⟩
      intro k y before at_k
      obtain ⟨below, -⟩ := List.getElem?_eq_some_iff.mp found
      rw [List.getElem?_append_left (before.trans below)] at at_k
      exact goes k y before at_k

/-- A worker has taken its task, and done nothing else since. -/
theorem exists_took (path : Path admits (start n) steps s) (running : s.workers[i]? = some (.running t)) :
    ∃ (q : Nat) (x : Step) (u : Task), steps[q]? = some x ∧ x.deed = .took i u ∧ t.afresh = u.afresh ∧
      ∀ (k : Nat) (y : Step), q < k → steps[k]? = some y → y.Continues i u := by
  induction path generalizing t with
  | start =>
    have idle := List.eq_of_mem_replicate (List.mem_of_getElem? running)
    cases idle
  | @step steps s a s' o earlier admitted acted ih =>
    have extend {q : Nat} {u : Task} (goes : ∀ k y, q < k → steps[k]? = some y → y.Continues i u)
        (last : Step.Continues ⟨s, a, o, s'⟩ i u) (k : Nat) (y : Step) (later : q < k)
        (at_k : (steps ++ [⟨s, a, o, s'⟩])[k]? = some y) : y.Continues i u := by
      rcases getElem?_snoc at_k with early | ⟨-, rfl⟩
      · exact goes k y later early
      · exact last
    -- What the worker works on it has taken in this step, or was working on before.
    cases shift_of_act acted i with
    | rests other same =>
      obtain ⟨q, x, u, found, took, kin, goes⟩ := ih ((same t).mp running)
      exact ⟨q, x, u, getElem?_of_early found, took, kin, extend goes fun worker => absurd worker other⟩
    | takes u took _ _ after =>
      obtain rfl : t = u := by simpa [running] using after
      refine ⟨steps.length, _, t, List.getElem?_concat_length, took, rfl, ?_⟩
      intro k y later at_k
      obtain ⟨below, -⟩ := List.getElem?_eq_some_iff.mp at_k
      rw [List.length_append, List.length_singleton] at below
      omega
    | goesOn v v' works become result _ before after =>
      obtain rfl : t = v' := by simpa [running] using after
      obtain ⟨q, x, u, found, took, kin, goes⟩ := ih before
      refine ⟨q, x, u, getElem?_of_early found, took, become.trans kin, extend goes fun _ => ?_⟩
      exact ⟨⟨v, works, kin⟩, result⟩
    | ends _ _ _ _ _ _ idle =>
      rw [running] at idle
      cases idle

end

/-! ### Errands -/

/-- The way of a task: the step at `p` queues it, worker `i` takes it at `q` and ends it at `e`, and the control thread
runs the job that tells its result at `r`. -/
structure Errand (steps : List Step) (p q e r i : Nat) (t : Task) (j : ControlJob) : Prop where
  queued : Serves Step.queued? Step.taken? steps p q t
  taken : ∃ x, steps[q]? = some x ∧ x.deed = .took i t
  underway : ∀ k x, q < k → k < e → steps[k]? = some x → x.Continues i t
  ended : ∃ x, steps[e]? = some x ∧ x.Ends i t j ∧ x.posted? = some j
  told : Serves Step.posted? Step.ran? steps e r j
  queued_lt : p < q
  taken_lt : q < e
  ended_lt : e < r

namespace Errand

variable {steps : List Step} {p p' q q' e e' r r' i i' : Nat} {t t' : Task} {j j' : ControlJob}

/-- A task goes its way once. -/
theorem unique (one : Errand steps p q e r i t j) (other : Errand steps p q' e' r' i' t' j') :
    q' = q ∧ e' = e ∧ r' = r ∧ i' = i ∧ t' = t ∧ j' = j := by
  obtain rfl := one.queued.unique other.queued
  obtain ⟨x, found, took⟩ := one.taken
  obtain ⟨x', found', took'⟩ := other.taken
  obtain rfl : x' = x := by simpa [found] using found'.symm
  obtain ⟨rfl, rfl⟩ : i' = i ∧ t' = t := by simpa [took] using took'.symm
  obtain ⟨y, at_e, ends, -⟩ := one.ended
  obtain ⟨y', at_e', ends', -⟩ := other.ended
  -- The task ends once, since it goes on until its first end.
  obtain rfl : e' = e := by
    rcases Nat.lt_trichotomy e' e with early | same | late
    · exact absurd ends' (one.underway e' y' other.taken_lt early at_e').not_ends
    · exact same
    · exact absurd ends (other.underway e y one.taken_lt late at_e).not_ends
  obtain rfl : y' = y := by simpa [at_e] using at_e'.symm
  obtain rfl : j' = j := by
    have same := ends.2
    rw [ends'.2] at same
    exact Option.some.inj same
  exact ⟨rfl, rfl, one.told.unique other.told ▸ rfl, rfl, rfl, rfl⟩

/-- Every job tells the result of one task only. -/
theorem injective (one : Errand steps p q e r i t j) (other : Errand steps p' q' e' r i' t' j') : p = p' := by
  obtain rfl := one.told.injective other.told
  obtain ⟨y, at_e, ⟨⟨u, works, -⟩, -⟩, -⟩ := one.ended
  obtain ⟨y', at_e', ⟨⟨u', works', -⟩, -⟩, -⟩ := other.ended
  obtain rfl : y' = y := by simpa [at_e] using at_e'.symm
  obtain ⟨rfl, rfl⟩ : i' = i ∧ u' = u := by simpa [works] using works'.symm
  obtain ⟨x, found, took⟩ := one.taken
  obtain ⟨x', found', took'⟩ := other.taken
  -- The worker has taken one task only since the last that ended.
  obtain rfl : q' = q := by
    rcases Nat.lt_trichotomy q' q with early | same | late
    · exact absurd took (other.underway q x early one.taken_lt found).not_takes
    · exact same
    · exact absurd took' (one.underway q' x' late other.taken_lt found').not_takes
  exact one.queued.injective other.queued

end Errand

section

variable {admits : Action → Prop} {n : Nat} {s : Scheduler} {steps : List Step} {p r : Nat} {x : Step} {t : Task}
  {j : ControlJob}

theorem orderly_at (positive : 0 < n) (path : Path admits (start n) steps s) (found : steps[p]? = some x) :
    x.before.Orderly := orderly_of_run positive (path.step_at found).1.run

theorem running_of_took (acted : x.before.act? x.action = some (x.after, x.occurrence)) {i : Nat}
    (took : x.deed = .took i t) : x.after.workers[i]? = some (.running t) := by
  have shift : Shift i x := shift_of_act acted i
  cases shift with
  | rests other =>
    rw [took] at other
    exact absurd rfl other
  | takes u took' _ _ running =>
    obtain rfl : t = u := by simpa [took] using took'
    exact running
  | goesOn _ _ works | ends _ _ works =>
    rw [took] at works
    cases works

/-- The worker whose task ends is there, and hands the result on if the control thread is. -/
theorem Step.Ends.hands (acted : x.before.act? x.action = some (x.after, x.occurrence)) {i : Nat}
    (ends : x.Ends i t j) :
    0 < x.before.present ∧ (x.before.controlAlive = true → x.posted? = some j) := by
  obtain ⟨⟨u, works, -⟩, result⟩ := ends
  have shift : Shift i x := shift_of_act acted i
  cases shift with
  | rests other =>
    rw [works] at other
    exact absurd rfl other
  | takes _ took =>
    rw [works] at took
    cases took
  | goesOn _ _ _ _ goes =>
    rw [result] at goes
    cases goes
  | ends _ j' _ result' posts found =>
    obtain rfl : j = j' := by simpa [result] using result'
    exact ⟨present_of_found found rfl, fun alive => posts.trans (if_pos alive)⟩

/-- A task that was taken has gone its way, if no worker is left with a task and every job is run that was posted by a
worker. -/
theorem exists_errand_of_taken (positive : 0 < n) (path : Path admits (start n) steps s)
    (rest : ∀ (i : Nat) (t : Task), s.workers[i]? ≠ some (.running t))
    (runs : ∀ (e : Nat) (y : Step) (j : ControlJob), steps[e]? = some y → y.posted? = some j → 0 < y.before.present →
      ∃ r, Serves Step.posted? Step.ran? steps e r j)
    {q : Nat} (queued : Serves Step.queued? Step.taken? steps p q t) :
    ∃ e r i j, Errand steps p q e r i t j := by
  obtain ⟨x, found, takes⟩ := queued.takes
  obtain ⟨i, took⟩ := deed_of_taken takes
  obtain ⟨-, -, acted, later⟩ := path.step_at found
  -- The worker has ended the task, as no worker is left with one.
  rcases continues_or_ends later (running_of_took acted took) with ⟨⟨t', there, -⟩, -⟩ | ⟨k, y, j, at_k, ends, goes⟩
  · exact absurd there (rest i t')
  · have at_e : steps[q + 1 + k]? = some y := by rwa [List.getElem?_drop] at at_k
    obtain ⟨staffed, hands⟩ := ends.hands (path.step_at at_e).2.2.1
    have posts := hands ((orderly_at positive path at_e).of_present staffed).1
    obtain ⟨r, told⟩ := runs _ y j at_e posts staffed
    refine ⟨q + 1 + k, r, i, j, queued, ⟨x, found, took⟩, ?_, ⟨y, at_e, ends, posts⟩, told,
      taskLine.lt_of_serves path queued, by omega, jobLine.lt_of_serves path told⟩
    intro m z late early at_m
    obtain ⟨d, rfl⟩ := Nat.exists_eq_add_of_lt late
    apply goes d z (by omega)
    rw [List.getElem?_drop]
    rwa [show q + 1 + d = q + d + 1 by omega]

/-- A step that works on a task is on the way of one task that was queued: worker `i` has taken it at `q`, and nothing
else since. -/
theorem exists_queued_of_worked (path : Path admits (start n) steps s) {k i : Nat} {u : Task}
    (found : steps[k]? = some x) (works : x.deed = .worked i u) :
    ∃ p q t, p < q ∧ q < k ∧ Serves Step.queued? Step.taken? steps p q t ∧ u.afresh = t.afresh ∧
      (∃ y : Step, steps[q]? = some y ∧ y.deed = .took i t) ∧
      ∀ (m : Nat) (y : Step), q < m → m < k → steps[m]? = some y → y.Continues i t := by
  obtain ⟨earlier, -, acted, -⟩ := path.step_at found
  obtain ⟨environment, -, running, -⟩ := act_worked acted works
  obtain ⟨q, y, t, at_q, took, kin, goes⟩ := exists_took earlier running
  obtain ⟨below, -⟩ := List.getElem?_eq_some_iff.mp at_q
  rw [List.length_take] at below
  have early : q < k := by omega
  rw [List.getElem?_take_of_lt early] at at_q
  have takes : y.taken? = some t := by rw [Step.taken?, took]
  obtain ⟨p, before, serves⟩ := taskLine.exists_put path at_q takes
  refine ⟨p, q, t, before, early, serves, kin, ⟨y, at_q, took⟩, ?_⟩
  intro m z late soon at_m
  apply goes m z late
  rwa [List.getElem?_take_of_lt soon]

/-- No worker hands a task on. -/
theorem client_of_queues (acted : x.before.act? x.action = some (x.after, x.occurrence)) (queues : x.queued? = some t) :
    x.deed.worker? = none := by
  obtain ⟨s, a, o, s'⟩ := x
  have passage := act_passage acted
  dsimp only at passage
  cases works : o.deed with
  | called | ran | stopping => simp [Step.deed, works, Deed.worker?]
  | took i u =>
    rw [works] at passage
    cases passage with
    | took environment _ _ rest found next =>
      simp [Step.queued?, next, Scheduler.setWorker, Entry.added?] at queues
  | worked i u =>
    rw [works] at passage
    cases passage with
    | wentOn environment _ _ t' found => simp [Step.queued?, Scheduler.setWorker, Entry.added?] at queues
    | finished environment _ _ j found =>
      have same : (s.finishTask i j).work = s.work := by
        cases alive : s.controlAlive <;> simp [finishTask, post, submitJob?, Scheduler.setWorker, alive]
      simp [Step.queued?, same, Entry.added?] at queues

/-- What a worker posts tells how its task ends. -/
theorem ends_of_posted (acted : x.before.act? x.action = some (x.after, x.occurrence)) (posts : x.posted? = some j)
    (worker : x.deed.worker? = some i) : ∃ t, x.Ends i t j := by
  have shift : Shift i x := shift_of_act acted i
  cases shift with
  | rests other => exact absurd worker other
  | takes _ _ none_posted | goesOn _ _ _ _ _ none_posted =>
    rw [posts] at none_posted
    cases none_posted
  | ends t j' works result posts' =>
    rw [posts] at posts'
    obtain ⟨-, same⟩ := Option.some_eq_ite_none_right.mp posts'
    obtain rfl := Option.some.inj same
    exact ⟨t, ⟨t, works, rfl⟩, result⟩

/-- A job is posted by the call of a read, or it tells how a task ends. -/
theorem posted_by (acted : x.before.act? x.action = some (x.after, x.occurrence)) (posts : x.posted? = some j) :
    (∃ id source claim positional callback, j = .startRead id source claim positional callback) ∨
    ∃ i t, x.Ends i t j := by
  cases worker : x.deed.worker? with
  | none =>
    have effect := (show Turned x from turned_of_act acted).sends worker
    exact .inl (effect.job_produced worker (by simp [Step.sent, sentOf, posts]))
  | some i => exact .inr ⟨i, ends_of_posted acted posts worker⟩

/-- Every job that is run tells the end of a task that has gone its way, or it starts a read. -/
theorem exists_errand_of_ran (path : Path admits (start n) steps s) (found : steps[r]? = some x)
    (runs : x.deed = .ran j)
    (other : ∀ id source claim positional callback, j ≠ .startRead id source claim positional callback) :
    ∃ p q e i t, Errand steps p q e r i t j := by
  obtain ⟨e, ended_lt, told⟩ := jobLine.exists_put path found (show x.ran? = some j by rw [Step.ran?, runs])
  obtain ⟨y, at_e, posts⟩ := told.puts
  obtain ⟨earlier, -, acted, -⟩ := path.step_at at_e
  rcases posted_by acted posts with ⟨id, source, claim, positional, callback, starts⟩ | ⟨i, u, ⟨u', works, -⟩, result⟩
  · exact absurd starts (other id source claim positional callback)
  · obtain ⟨p, q, t, queued_lt, taken_lt, queued, kin, taken, goes⟩ := exists_queued_of_worked path at_e works
    exact ⟨p, q, e, i, t, queued, taken, goes, ⟨y, at_e, ⟨⟨u', works, kin⟩, result⟩, posts⟩, told, queued_lt, taken_lt,
      ended_lt⟩

/-- What is queued while some worker has not been sent its stop message goes its way before the shutdown is over. -/
theorem exists_errand_of_shutDown (positive : 0 < n) (path : Path admits (start n) steps s)
    (shut : s.isShutDown = true) (found : steps[p]? = some x) (queues : x.queued? = some t)
    (unsent : x.before.HasUnsent) : ∃ q e r i j, Errand steps p q e r i t j := by
  obtain ⟨left, gone⟩ := (orderly_of_run positive path.run).left_of_isShutDown shut
  obtain ⟨q, queued⟩ := taskLine.exists_take_in_time path left found queues
    ((orderly_at positive path found).stops_lt unsent).1
  obtain ⟨e, r, i, j, errand⟩ := exists_errand_of_taken positive path
    (fun i t there => absurd (present_of_found there rfl) (by omega))
    (fun e y j at_e posts staffed => by
      obtain ⟨alive, no_stop⟩ := (orderly_at positive path at_e).of_present staffed
      refine jobLine.exists_take_in_time path ?_ at_e posts ?_
      · simp [jobLine, gone]
      · simp [jobLine, alive, no_stop])
    queued
  exact ⟨q, e, r, i, j, errand⟩

/-- When nothing is queued or running, every task has gone its way. -/
theorem exists_errand_of_quiet (positive : 0 < n) (path : Path admits (start n) steps s) (quiet : s.IsQuiet)
    (found : steps[p]? = some x) (queues : x.queued? = some t) : ∃ q e r i j, Errand steps p q e r i t j := by
  obtain ⟨no_job, no_task, idle⟩ := quiet
  obtain ⟨q, queued⟩ := taskLine.exists_take_of_empty path no_task found queues
  obtain ⟨e, r, i, j, errand⟩ := exists_errand_of_taken positive path
    (fun i t there => by cases idle _ (List.mem_of_getElem? there))
    (fun e y j at_e posts _ => jobLine.exists_take_of_empty path no_job at_e posts) queued
  exact ⟨q, e, r, i, j, errand⟩

end

end Scheduler

end PointStream
