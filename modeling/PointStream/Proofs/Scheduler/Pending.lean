import Mathlib.Algebra.Order.Group.Multiset
import Mathlib.Data.Multiset.Filter
import PointStream.Proofs.Scheduler.Run

/-!
# What is pending

The jobs and tasks that are queued or running, as one multiset. Every operation of the scheduler adds to it
what it queues, if the queue is still served, and takes from it what it finishes.
-/

namespace PointStream

namespace Scheduler

/-- Something that is queued or running. -/
inductive Item where
  | job (j : ControlJob)
  | task (t : Task)

end Scheduler

open Scheduler (Item)

def Entry.content? {α : Type} : Entry α → Option α
  | job a => some a
  | stop => none

def Worker.task? : Worker → Option Task
  | running t => some t
  | _ => none

def Worker.items (w : Worker) : Multiset Item := (w.task?.map Item.task).elim 0 ({·})

@[simp] theorem Worker.items_idle : Worker.idle.items = 0 := rfl

@[simp] theorem Worker.items_running (t : Task) : (Worker.running t).items = {Item.task t} := rfl

@[simp] theorem Worker.items_exited : Worker.exited.items = 0 := rfl

namespace Scheduler

/-- The items of a queue or of the workers. -/
def itemsOf {α β : Type} (content : α → Option β) (item : β → Item) (entries : List α) : Multiset Item :=
  ↑((entries.filterMap content).map item)

@[simp] theorem itemsOf_nil {α β : Type} (content : α → Option β) (item : β → Item) :
    itemsOf content item [] = 0 := rfl

theorem itemsOf_cons {α β : Type} (content : α → Option β) (item : β → Item) (a : α) (entries : List α) :
    itemsOf content item (a :: entries)
      = ((content a).map item).elim 0 ({·}) + itemsOf content item entries := by
  unfold itemsOf
  cases h : content a with
  | none => simp [h]
  | some b => simp [h, Multiset.singleton_add]

theorem itemsOf_append {α β : Type} (content : α → Option β) (item : β → Item) (xs ys : List α) :
    itemsOf content item (xs ++ ys) = itemsOf content item xs + itemsOf content item ys := by
  simp [itemsOf]

/-- Everything that is queued or running. -/
def pending (s : Scheduler) : Multiset Item :=
  itemsOf Entry.content? Item.job s.control + itemsOf Entry.content? Item.task s.work
    + itemsOf Worker.task? Item.task s.workers

/-- An item that is queued only while its queue is served. -/
def sentIf (served : Bool) (i : Item) : Multiset Item := if served then {i} else 0

@[simp] theorem sentIf_true (i : Item) : sentIf true i = {i} := rfl

@[simp] theorem sentIf_false (i : Item) : sentIf false i = 0 := rfl

/-- Some worker still takes tasks. -/
def isWorking (s : Scheduler) : Bool := !s.workers.all Worker.isExited

/-! ### Sessions -/

@[simp] theorem sessions_setSession (s : Scheduler) (id : Nat) (session : Session) :
    (s.setSession id session).sessions = Function.update s.sessions id session := by
  funext other
  simp [setSession, Function.update_apply]

@[simp] theorem pending_setSlot (s : Scheduler) (id : Nat) (slot : ReadSlot) :
    (s.setSlot id slot).pending = s.pending := rfl

@[simp] theorem pending_releaseSlot (s : Scheduler) (id generation : Nat) :
    (s.releaseSlot id generation).pending = s.pending := rfl

@[simp] theorem controlAlive_setSlot (s : Scheduler) (id : Nat) (slot : ReadSlot) :
    (s.setSlot id slot).controlAlive = s.controlAlive := rfl

/-! ### Queues -/

theorem submitTask?_of_working {s : Scheduler} (working : s.isWorking = true) (t : Task) :
    s.submitTask? t = some { s with work := s.work ++ [.job t] } := by
  have busy : s.workers.all Worker.isExited = false := by simpa [isWorking] using working
  simp [submitTask?, busy]

theorem submitTask?_of_not_working {s : Scheduler} (left : s.isWorking = false) (t : Task) :
    s.submitTask? t = none := by
  have gone : s.workers.all Worker.isExited = true := by simpa [isWorking] using left
  simp [submitTask?, gone]

theorem pending_queueTask (s : Scheduler) (t : Task) :
    ({ s with work := s.work ++ [.job t] } : Scheduler).pending = {Item.task t} + s.pending := by
  simp only [pending, itemsOf_append, itemsOf_cons, itemsOf_nil, Entry.content?, Option.map_some,
    Option.elim_some, add_zero]
  ac_rfl

theorem pending_queueJob (s : Scheduler) (j : ControlJob) :
    ({ s with control := s.control ++ [.job j] } : Scheduler).pending = {Item.job j} + s.pending := by
  simp only [pending, itemsOf_append, itemsOf_cons, itemsOf_nil, Entry.content?, Option.map_some,
    Option.elim_some, add_zero]
  ac_rfl

@[simp] theorem pending_post (s : Scheduler) (j : ControlJob) :
    (s.post j).pending = sentIf s.controlAlive (.job j) + s.pending := by
  unfold post submitJob?
  split
  next served =>
    rw [served, sentIf_true]
    exact pending_queueJob s j
  next gone =>
    rw [Bool.not_eq_true] at gone
    simp [gone]

@[simp] theorem sessions_post (s : Scheduler) (j : ControlJob) : (s.post j).sessions = s.sessions := by
  unfold post submitJob?
  cases s.controlAlive <;> rfl

theorem pending_of_control {s : Scheduler} {j : ControlJob} {rest : List (Entry ControlJob)}
    (next : s.control = .job j :: rest) :
    s.pending = {Item.job j} + ({ s with control := rest } : Scheduler).pending := by
  simp only [pending, next, itemsOf_cons, Entry.content?, Option.map_some, Option.elim_some]
  ac_rfl

theorem pending_of_work {s : Scheduler} {e : Entry Task} {rest : List (Entry Task)}
    (next : s.work = e :: rest) :
    s.pending = (e.content?.map Item.task).elim 0 ({·}) + ({ s with work := rest } : Scheduler).pending := by
  simp only [pending, next, itemsOf_cons]
  ac_rfl

/-! ### Workers -/

theorem itemsOf_set {workers : List Worker} {i : Nat} {old : Worker} (found : workers[i]? = some old)
    (w : Worker) :
    itemsOf Worker.task? Item.task (workers.set i w) + old.items
      = itemsOf Worker.task? Item.task workers + w.items := by
  induction workers generalizing i with
  | nil => simp at found
  | cons head workers ih =>
    cases i with
    | zero =>
      obtain rfl : head = old := by simpa using found
      simp only [List.set_cons_zero, itemsOf_cons, Worker.items]
      ac_rfl
    | succ i =>
      have rest := ih (i := i) (by simpa using found)
      simp only [List.set_cons_succ, itemsOf_cons]
      rw [add_assoc, rest, add_assoc]

theorem pending_setWorker {s : Scheduler} {i : Nat} {old : Worker} (found : s.workers[i]? = some old)
    (w : Worker) : (s.setWorker i w).pending + old.items = s.pending + w.items := by
  have moved := itemsOf_set found w
  simp only [pending, setWorker, add_assoc]
  rw [moved]

@[simp] theorem sessions_setWorker (s : Scheduler) (i : Nat) (w : Worker) :
    (s.setWorker i w).sessions = s.sessions := rfl

theorem pending_of_quiet {s : Scheduler} (quiet : s.IsQuiet) : s.pending = 0 := by
  obtain ⟨noJob, noTask, waiting⟩ := quiet
  have none_running : itemsOf Worker.task? Item.task s.workers = 0 := by
    have none_at : s.workers.filterMap Worker.task? = [] := by
      rw [List.filterMap_eq_nil_iff]
      intro w member
      rw [waiting w member]
      rfl
    simp [itemsOf, none_at]
  simp [pending, noJob, noTask, none_running]

@[simp] theorem pending_start (n : Nat) : (start n).pending = 0 := by
  apply pending_of_quiet
  refine ⟨rfl, rfl, ?_⟩
  intro w member
  exact (List.mem_replicate.mp member).2

end Scheduler

end PointStream
