import PointStream.Proofs.Scheduler.Line

/-!
# Paths

A path is a run whose steps are kept with the states before and after them. So a step tells what it queues and what it
takes from a queue. Both queues are lines: what has been taken is a prefix of what has been queued, and what is queued
while some thread stays is taken by the time all threads have left.
-/

namespace PointStream

namespace Scheduler

/-! ### Steps with their states -/

/-- The worker that does something. -/
def Deed.worker? : Deed → Option Nat
  | .took i _ | .worked i _ => some i
  | _ => none

/-- The items of a job and a task that are queued. -/
def sentOf (j : Option ControlJob) (t : Option Task) : Multiset Item :=
  (j.map Item.job).elim 0 ({·}) + (t.map Item.task).elim 0 ({·})

theorem sentOf_eq_job {j : Option ControlJob} {t : Option Task} {k : ControlJob} (one : {.job k} = sentOf j t) :
    j = some k ∧ t = none := by
  cases j <;> cases t <;> simp_all [sentOf, eq_comm, Multiset.singleton_add]

theorem sentOf_eq_task {j : Option ControlJob} {t : Option Task} {u : Task} (one : {.task u} = sentOf j t) :
    j = none ∧ t = some u := by
  cases j <;> cases t <;> simp_all [sentOf, eq_comm, Multiset.singleton_add]

/-- A step with the states that it leads from and to. -/
structure Step where
  before : Scheduler
  action : Action
  occurrence : Occurrence
  after : Scheduler

namespace Step

def deed (x : Step) : Deed := x.occurrence.deed

/-- The task that a step hands to the workers. -/
def queued? (x : Step) : Option Task := Entry.added? x.before.work x.after.work

/-- The job that a step hands to the control thread. -/
def posted? (x : Step) : Option ControlJob := Entry.added? x.before.control x.after.control

def sent (x : Step) : Multiset Item := sentOf x.posted? x.queued?

/-- The task that a worker takes. -/
def taken? (x : Step) : Option Task :=
  match x.deed with
  | .took _ t => some t
  | _ => none

/-- The job that the control thread takes and runs. -/
def ran? (x : Step) : Option ControlJob :=
  match x.deed with
  | .ran j => some j
  | _ => none

end Step

/-- The runs from a state by actions of a kind, with all states on the way. -/
inductive Path (admits : Action → Prop) (initial : Scheduler) : List Step → Scheduler → Prop
  | start : Path admits initial [] initial
  | step {steps s a s' o} : Path admits initial steps s → admits a → s.act? a = some (s', o) →
      Path admits initial (steps ++ [⟨s, a, o, s'⟩]) s'

namespace Path

variable {admits : Action → Prop} {initial s s' : Scheduler} {steps early late : List Step} {x : Step}

/-- What a path leaves behind is the history of a run. -/
theorem run (path : Path admits initial steps s) : Run admits initial (steps.map Step.occurrence) s := by
  induction path with
  | start => exact .start
  | step _ admitted acted ih =>
    rw [List.map_append]
    exact ih.step admitted acted

theorem trans (first : Path admits initial early s) (second : Path admits s late s') :
    Path admits initial (early ++ late) s' := by
  induction second with
  | start => rwa [List.append_nil]
  | step _ admitted acted ih =>
    rw [← List.append_assoc]
    exact ih.step admitted acted

theorem mono {wider : Action → Prop} (path : Path admits initial steps s) (wide : ∀ a, admits a → wider a) :
    Path wider initial steps s := by
  induction path with
  | start => exact .start
  | step _ admitted acted ih => exact ih.step (wide _ admitted) acted

theorem last (path : Path admits initial (steps ++ [x]) s) :
    Path admits initial steps x.before ∧ admits x.action ∧ x.before.act? x.action = some (x.after, x.occurrence) ∧
      x.after = s := by
  generalize whole : steps ++ [x] = all at path
  cases path with
  | start => simp at whole
  | step earlier admitted acted =>
    obtain ⟨rfl, same⟩ := List.append_inj' whole rfl
    obtain rfl := List.singleton_inj.mp same
    exact ⟨earlier, admitted, acted, rfl⟩

theorem split (path : Path admits initial (early ++ late) s) :
    ∃ middle, Path admits initial early middle ∧ Path admits middle late s := by
  induction late using List.reverseRecOn generalizing s with
  | nil => exact ⟨s, by rwa [List.append_nil] at path, .start⟩
  | append_singleton late x ih =>
    rw [← List.append_assoc] at path
    obtain ⟨earlier, admitted, acted, rfl⟩ := path.last
    obtain ⟨middle, first, second⟩ := ih earlier
    exact ⟨middle, first, second.step admitted acted⟩

/-- The state before a step is reached by the steps before it, and those behind it lead on from the state after. -/
theorem step_at {p : Nat} (path : Path admits initial steps s) (found : steps[p]? = some x) :
    Path admits initial (steps.take p) x.before ∧ admits x.action ∧
      x.before.act? x.action = some (x.after, x.occurrence) ∧ Path admits x.after (steps.drop (p + 1)) s := by
  obtain ⟨below, rfl⟩ := List.getElem?_eq_some_iff.mp found
  rw [← List.take_append_drop (p + 1) steps, List.take_add_one, found, Option.toList_some] at path
  obtain ⟨middle, first, second⟩ := path.split
  obtain ⟨earlier, admitted, acted, rfl⟩ := first.last
  exact ⟨earlier, admitted, acted, second⟩

end Path

/-- The steps of a list of actions, leaving out those that cannot be taken. -/
def trail (s : Scheduler) : List Action → List Step
  | [] => []
  | a :: rest =>
    match s.act? a with
    | some (s', o) => ⟨s, a, o, s'⟩ :: trail s' rest
    | none => trail s rest

theorem path_trail {admits : Action → Prop} (s : Scheduler) (actions : List Action)
    (admitted : ∀ a ∈ actions, admits a) : Path admits s (s.trail actions) (s.follow actions).1 := by
  induction actions generalizing s with
  | nil => exact .start
  | cons a rest ih =>
    have others : ∀ b ∈ rest, admits b := fun b member => admitted b (List.mem_cons_of_mem a member)
    cases acted : s.act? a with
    | none =>
      simp only [trail, follow, acted]
      exact ih s others
    | some reached =>
      simp only [trail, follow, acted]
      have first : Path admits s ([] ++ [⟨s, a, reached.2, reached.1⟩]) reached.1 :=
        .step .start (admitted a List.mem_cons_self) acted
      exact first.trans (ih reached.1 others)

/-! ### What a step queues -/

/-- What is taken away in a step is what is worked on. -/
theorem Effect.consumed_eq {working alive : Bool} {x x' : Nat → Session} {a : Action} {o : Occurrence}
    {consumed produced : Multiset Item} (effect : Effect working alive x a o consumed produced x') :
    consumed = o.deed.items := by
  cases effect <;> rfl

theorem card_sentIf_le (served : Bool) (i : Item) : (sentIf served i).card ≤ 1 := by
  cases served <;> simp

theorem Effect.card_produced_le {working alive : Bool} {x x' : Nat → Session} {a : Action} {o : Occurrence}
    {consumed produced : Multiset Item} (effect : Effect working alive x a o consumed produced x') :
    produced.card ≤ 1 := by
  cases effect <;> first | exact card_sentIf_le _ _ | simp

/-- The control thread hands nothing to itself. -/
theorem Effect.produced_of_ran {working alive : Bool} {x x' : Nat → Session} {a : Action} {o : Occurrence}
    {consumed produced : Multiset Item} (effect : Effect working alive x a o consumed produced x') {j : ControlJob}
    (runs : o.deed = .ran j) (k : ControlJob) : .job k ∉ produced := by
  cases effect with
  | startQuery | accept => exact fun member => by cases working <;> simp at member
  | create | parse | destroy | misread | readUnclaimed | readClaimed | readStopped | cancel | took | openSource
  | validate | query | stream | streamEnd | stopping => cases runs
  | _ => exact Multiset.notMem_zero _

theorem Effect.produced_of_stopping {working alive : Bool} {x x' : Nat → Session} {a : Action} {o : Occurrence}
    {consumed produced : Multiset Item} (effect : Effect working alive x a o consumed produced x')
    (stops : o.deed = .stopping) : produced = 0 := by
  cases effect <;> first | rfl | cases stops

/-- A client or the control thread hands on jobs that start reads, and no others. -/
theorem Effect.job_produced {working alive : Bool} {x x' : Nat → Session} {a : Action} {o : Occurrence}
    {consumed produced : Multiset Item} (effect : Effect working alive x a o consumed produced x')
    (client : o.deed.worker? = none) {j : ControlJob} (member : .job j ∈ produced) :
    ∃ id source claim positional callback, j = .startRead id source claim positional callback := by
  cases effect with
  | readUnclaimed id arguments positional callback =>
    cases alive with
    | true => exact ⟨id, (x id).source, none, positional, callback, by simpa using member⟩
    | false => simp at member
  | readClaimed id arguments positional callback source =>
    exact ⟨id, some source, some ((x id).slot.issued + 1), positional, callback, by simpa using member⟩
  | create | parse | startQuery | accept => cases working <;> simp at member
  | took | openSource | validate | query | stream | streamEnd => cases client
  | _ => simp at member

variable {s s' : Scheduler} {a : Action} {o : Occurrence}

/-- Where at most one item is put in place, at most one entry is queued. -/
theorem Grows.queues_one {produced : Multiset Item} (grows : s.Grows s')
    (more : s'.pending = produced + s.pending) (few : produced.card ≤ 1) :
    ∃ (j : Option ControlJob) (t : Option Task), s'.control = s.control ++ (j.map Entry.job).toList ∧
      s'.work = s.work ++ (t.map Entry.job).toList ∧ produced = sentOf j t := by
  obtain ⟨jobs, control⟩ := grows.control
  obtain ⟨tasks, work⟩ := grows.work
  have contents {α : Type} (added : List α) : (added.map Entry.job).filterMap Entry.content? = added := by
    induction added with
    | nil => rfl
    | cons a rest ih =>
      have content : (Entry.job a).content? = some a := rfl
      rw [List.map_cons, List.filterMap_cons_some content, ih]
  have new : produced = ↑(jobs.map Item.job) + ↑(tasks.map Item.task) := by
    apply add_right_cancel (b := s.pending)
    rw [← more]
    simp only [pending, control, work, grows.workers, itemsOf_append]
    simp only [itemsOf, contents]
    ac_rfl
  have length := congrArg Multiset.card new
  rw [Multiset.card_add, Multiset.coe_card, Multiset.coe_card, List.length_map, List.length_map] at length
  rw [control, work, new]
  have single : jobs.length + tasks.length ≤ 1 := length ▸ few
  cases jobs with
  | nil =>
    cases tasks with
    | nil => exact ⟨none, none, rfl, rfl, rfl⟩
    | cons t others =>
      simp only [List.length_nil, List.length_cons] at single
      obtain rfl : others = [] := List.eq_nil_of_length_eq_zero (by omega)
      exact ⟨none, some t, rfl, rfl, rfl⟩
  | cons j rest =>
    simp only [List.length_cons] at single
    obtain rfl : rest = [] := List.eq_nil_of_length_eq_zero (by omega)
    obtain rfl : tasks = [] := List.eq_nil_of_length_eq_zero (by omega)
    exact ⟨some j, none, rfl, rfl, rfl⟩

open Entry (Turnover)

/-- How a step turns both queues over. A client or the control thread puts nothing in place but what it queues. -/
structure Turned (x : Step) : Prop where
  tasks : Turnover x.before.present x.before.work x.queued? x.taken? x.after.present x.after.work
  jobs : Turnover x.before.controlAlive.toNat x.before.control x.posted? x.ran? x.after.controlAlive.toNat
    x.after.control
  sends : x.deed.worker? = none → Effect x.before.isWorking x.before.controlAlive x.before.sessions x.action
    x.occurrence x.deed.items x.sent x.after.sessions

/-- What a step queues is known from how the queues turn over. -/
theorem Turned.of {x : Step} (t t' : Option Task) (j j' : Option ControlJob) (taken : x.taken? = t')
    (ran : x.ran? = j') (tasks : Turnover x.before.present x.before.work t t' x.after.present x.after.work)
    (jobs : Turnover x.before.controlAlive.toNat x.before.control j j' x.after.controlAlive.toNat x.after.control)
    (sends : x.deed.worker? = none → Effect x.before.isWorking x.before.controlAlive x.before.sessions x.action
      x.occurrence x.deed.items (sentOf j t) x.after.sessions) : Turned x := by
  have queued : x.queued? = t := tasks.added?_eq
  have posted : x.posted? = j := jobs.added?_eq
  refine ⟨?_, ?_, ?_⟩
  · rwa [queued, taken]
  · rwa [posted, ran]
  · rwa [Step.sent, queued, posted]

theorem turned_of_act (acted : s.act? a = some (s', o)) : Turned ⟨s, a, o, s'⟩ := by
  obtain ⟨rest, consumed, produced, before, after, effect⟩ := act_effect acted
  have passage := act_passage acted
  obtain rfl := effect.consumed_eq
  have few := effect.card_produced_le
  have no_job := fun j => effect.produced_of_ran (j := j)
  have nothing := effect.produced_of_stopping
  obtain ⟨d, events⟩ := o
  dsimp only at passage before no_job nothing
  -- Where a worker moves, nothing is said of what is sent.
  have vacuous {P : Prop} {i : Nat} : some i = none → P := fun impossible => by cases impossible
  cases passage with
  | called c reply s' grows =>
    rw [Deed.items, zero_add] at before
    obtain ⟨j, t, control, work, rfl⟩ := grows.queues_one (before ▸ after) few
    refine .of t none j none rfl rfl ?_ ?_ fun _ => effect
    · simp only [work, present, grows.workers]
      exact .of_option _ _ t
    · simp only [control, grows.controlAlive]
      exact .of_option _ _ j
  | ran environment j queue s' alive next grows =>
    rw [pending_of_control next, Deed.items, add_right_inj] at before
    obtain ⟨k, t, control, work, rfl⟩ := grows.queues_one (before ▸ after) few
    obtain rfl : k = none := by
      cases k with
      | none => rfl
      | some k => exact absurd (by simp [sentOf]) (no_job j rfl k)
    refine .of t none none (some j) rfl rfl ?_ ?_ fun _ => effect
    · simp only [work, present, grows.workers]
      exact .of_option _ _ t
    · simp only [control, grows.controlAlive, next, alive]
      simpa using Turnover.takes 0 j queue
  | controlLeft environment queue alive next =>
    obtain rfl := nothing rfl
    refine .of none none none none rfl rfl (.stays _ _) ?_ fun _ => effect
    simp only [next, alive]
    exact .leaves 0 queue
  | took environment i t queue found next =>
    have there := present_setWorker_of_stays (s := { s with work := queue }) (w := .running t) found rfl rfl
    obtain ⟨takers, count⟩ := Nat.exists_eq_succ_of_ne_zero (present_of_found found rfl).ne'
    refine .of none (some t) none none rfl rfl ?_ (.stays _ _) vacuous
    simp only [there, next]
    simp only [present] at count ⊢
    rw [count]
    exact .takes takers t queue
  | workerLeft environment i queue found next =>
    have fewer := present_setWorker (s := { s with work := queue }) found .exited
    obtain rfl := nothing rfl
    refine .of none none none none rfl rfl ?_ (.stays _ _) fun _ => effect
    have count : s.present = (({ s with work := queue } : Scheduler).setWorker i .exited).present + 1 := fewer.symm
    simp only [count, next]
    exact .leaves _ queue
  | wentOn environment i t t' found =>
    have there := present_setWorker_of_stays (w := .running t') found rfl rfl
    refine .of none none none none rfl rfl ?_ (.stays _ _) vacuous
    simp only [there]
    exact .stays _ _
  | finished environment i t j found =>
    have there : (s.finishTask i j).present = s.present := by
      rw [finishTask, present, (grows_post _ j).workers]
      exact present_setWorker_of_stays found rfl rfl
    by_cases alive : s.controlAlive = true
    · have posted : s.finishTask i j = { s.setWorker i .idle with control := s.control ++ [.job j] } := by
        simp [finishTask, post, submitJob?, Scheduler.setWorker, alive]
      rw [posted] at there
      refine .of none none (some j) none rfl rfl ?_ ?_ vacuous
      · simp only [posted, there]
        exact .stays _ _
      · simp only [posted]
        exact .queues _ _ j
    · have dropped : s.finishTask i j = s.setWorker i .idle := by
        simp [finishTask, post, submitJob?, Scheduler.setWorker, alive]
      rw [dropped] at there
      refine .of none none none none rfl rfl ?_ ?_ vacuous
      · simp only [dropped, there]
        exact .stays _ _
      · simp only [dropped]
        exact .stays _ _
  | shutdownBegun | shutdownRepeated =>
    obtain rfl := nothing rfl
    exact .of none none none none rfl rfl (.stays _ _) (.stays _ _) fun _ => effect
  | stopSent =>
    obtain rfl := nothing rfl
    exact .of none none none none rfl rfl (.signals _ _) (.stays _ _) fun _ => effect
  | lastStopSent =>
    obtain rfl := nothing rfl
    exact .of none none none none rfl rfl (.stays _ _) (.signals _ _) fun _ => effect

/-! ### Both queues are lines -/

/-- A queue with the threads that take from it. -/
structure Line (α : Type) where
  takers : Scheduler → Nat
  queue : Scheduler → List (Entry α)
  put? : Step → Option α
  take? : Step → Option α
  queue_start (n : Nat) : queue (start n) = []
  turnover {s s' : Scheduler} {a : Action} {o : Occurrence} (acted : s.act? a = some (s', o)) :
    Turnover (takers s) (queue s) (put? ⟨s, a, o, s'⟩) (take? ⟨s, a, o, s'⟩) (takers s') (queue s')

def taskLine : Line Task where
  takers := present
  queue := work
  put? := Step.queued?
  take? := Step.taken?
  queue_start _ := rfl
  turnover acted := (turned_of_act acted).tasks

def jobLine : Line ControlJob where
  takers s := s.controlAlive.toNat
  queue := control
  put? := Step.posted?
  take? := Step.ran?
  queue_start _ := rfl
  turnover acted := (turned_of_act acted).jobs

theorem filterMap_snoc {β : Type} (f : Step → Option β) (steps : List Step) (x : Step) :
    (steps ++ [x]).filterMap f = steps.filterMap f ++ (f x).toList := by
  rw [List.filterMap_append]
  cases h : f x <;> simp [h]

namespace Line

variable {α : Type} (line : Line α) {admits : Action → Prop} {n : Nat} {initial : Scheduler} {steps : List Step}
  {p q : Nat} {x : Step} {b : α}

/-- What was queued is what was taken, followed by what waits. -/
theorem in_order (path : Path admits (start n) steps s) :
    steps.filterMap line.put? = steps.filterMap line.take? ++ (line.queue s).filterMap Entry.content? := by
  induction path with
  | start => rw [line.queue_start, List.filterMap_nil, List.filterMap_nil, List.filterMap_nil, List.append_nil]
  | step earlier admitted acted ih =>
    rw [filterMap_snoc, filterMap_snoc, ih, List.append_assoc, (line.turnover acted).in_order, List.append_assoc]

/-- What is to be taken in time is taken, or is so still. -/
theorem in_time (path : Path admits initial steps s) :
    Entry.inTime (line.takers initial) (line.queue initial)
      <+: steps.filterMap line.take? ++ Entry.inTime (line.takers s) (line.queue s) := by
  induction path with
  | start => exact List.prefix_rfl
  | step earlier admitted acted ih =>
    rw [filterMap_snoc, List.append_assoc]
    exact ih.trans ((List.prefix_append_right_inj _).mpr (line.turnover acted).in_time)

/-- What is taken was put before. -/
theorem exists_put (path : Path admits (start n) steps s) (found : steps[q]? = some x)
    (takes : line.take? x = some b) : ∃ p, p < q ∧ Serves line.put? line.take? steps p q b := by
  obtain ⟨earlier, -, acted, -⟩ := path.step_at found
  have turnover := line.turnover acted
  rw [takes] at turnover
  obtain ⟨rest, first⟩ := turnover.first_of_takes
  -- The job is the first that waits, so its place is the number of those taken before.
  have content : (Entry.job b).content? = some b := rfl
  have chosen : ((steps.take q).filterMap line.put?)[place line.take? steps q]? = some b := by
    rw [line.in_order earlier, place, List.getElem?_append_right (le_refl _), Nat.sub_self, first,
      List.filterMap_cons_some content]
    rfl
  obtain ⟨p, y, at_p, puts, same⟩ := exists_place chosen
  obtain ⟨below, -⟩ := List.getElem?_eq_some_iff.mp at_p
  have early : p < q := by
    rw [List.length_take] at below
    omega
  refine ⟨p, early, ⟨y, ?_, puts⟩, ⟨x, found, takes⟩, ?_⟩
  · rwa [List.getElem?_take_of_lt early] at at_p
  · rw [← same, place, place, List.take_take, Nat.min_eq_left early.le]

theorem lt_of_serves (path : Path admits (start n) steps s) (serves : Serves line.put? line.take? steps p q b) :
    p < q := by
  obtain ⟨x, found, takes⟩ := serves.takes
  obtain ⟨p', early, other⟩ := line.exists_put path found takes
  rwa [serves.injective other]

/-- What is put is taken, if no less is taken than was put by then. -/
theorem exists_take (found : steps[p]? = some x) (puts : line.put? x = some b)
    (enough : (steps.take (p + 1)).filterMap line.put? <+: steps.filterMap line.take?) :
    ∃ q, Serves line.put? line.take? steps p q b := by
  have there : ((steps.take (p + 1)).filterMap line.put?)[place line.put? steps p]? = some b := by
    rw [List.take_add_one, found, Option.toList_some, filterMap_snoc, puts, place,
      List.getElem?_append_right (le_refl _), Nat.sub_self]
    rfl
  obtain ⟨rest, same⟩ := enough
  have chosen : (steps.filterMap line.take?)[place line.put? steps p]? = some b := by
    obtain ⟨below, -⟩ := List.getElem?_eq_some_iff.mp there
    rw [← same, List.getElem?_append_left below]
    exact there
  obtain ⟨q, y, at_q, takes, in_line⟩ := exists_place chosen
  exact ⟨q, ⟨x, found, puts⟩, ⟨y, at_q, takes⟩, in_line.symm⟩

/-- When nothing waits, everything was taken. -/
theorem exists_take_of_empty (path : Path admits (start n) steps s) (empty : line.queue s = [])
    (found : steps[p]? = some x) (puts : line.put? x = some b) :
    ∃ q, Serves line.put? line.take? steps p q b := by
  refine line.exists_take found puts ?_
  have ordered := line.in_order path
  rw [empty, List.filterMap_nil, List.append_nil] at ordered
  rw [← ordered]
  exact (List.take_prefix (p + 1) steps).filterMap _

/-- What is put behind fewer stop messages than there are threads is taken before all of them have left. -/
theorem exists_take_in_time (path : Path admits (start n) steps s) (left : line.takers s = 0)
    (found : steps[p]? = some x) (puts : line.put? x = some b)
    (stays : Entry.stops (line.queue x.before) < line.takers x.before) :
    ∃ q, Serves line.put? line.take? steps p q b := by
  refine line.exists_take found puts ?_
  obtain ⟨earlier, admitted, acted, later⟩ := path.step_at found
  have through : Path admits (start n) (steps.take (p + 1)) x.after := by
    rw [List.take_add_one, found, Option.toList_some]
    exact earlier.step admitted acted
  have turnover := line.turnover acted
  rw [puts] at turnover
  -- Everything that waits when `b` is put is taken in time, since there are more threads than stop messages.
  have taken := line.in_time later
  rw [left, Entry.inTime_zero, List.append_nil, Entry.inTime_of_stops_lt (turnover.stay stays)] at taken
  rw [line.in_order through]
  conv_rhs => rw [← List.take_append_drop (p + 1) steps, List.filterMap_append]
  exact (List.prefix_append_right_inj _).mpr taken

end Line

end Scheduler

end PointStream
