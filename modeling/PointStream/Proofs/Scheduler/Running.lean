import PointStream.Proofs.Scheduler.Effect
import PointStream.Proofs.Scheduler.Threads

/-!
# Running schedulers

As long as nobody shuts the scheduler down, every thread stays and every queue is served. What a run of calm
actions keeps is then proved by cases on the effects alone: `calm_run_induction` is the induction behind every
statement about such runs.
-/

namespace PointStream

namespace Scheduler

/-! ### Every queue is served -/

/-- No thread has left or will leave. -/
structure Serving (s : Scheduler) : Prop where
  running : s.lifecycle = .running
  alive : s.controlAlive = true
  staffed : s.workers ≠ []
  staying : ∀ w ∈ s.workers, w.isExited = false
  noStop : Entry.stop ∉ s.control ∧ Entry.stop ∉ s.work

theorem serving_start {n : Nat} (positive : 0 < n) : (start n).Serving where
  running := rfl
  alive := rfl
  staffed := by
    intro empty
    have none_at_all := congrArg List.length empty
    simp only [start, List.length_replicate, List.length_nil] at none_at_all
    omega
  staying := by
    intro w member
    rw [(List.mem_replicate.mp member).2]
    rfl
  noStop := ⟨List.not_mem_nil, List.not_mem_nil⟩

namespace Serving

variable {s : Scheduler}

theorem isWorking (h : s.Serving) : s.isWorking = true := by
  obtain ⟨w, member⟩ := List.exists_mem_of_ne_nil s.workers h.staffed
  have stays := h.staying w member
  simp only [Scheduler.isWorking, Bool.not_eq_true', List.all_eq_false]
  exact ⟨w, member, by simp [stays]⟩

theorem grow (h : s.Serving) {s' : Scheduler} (grows : s.Grows s') : s'.Serving := by
  obtain ⟨jobs, control⟩ := grows.control
  obtain ⟨tasks, work⟩ := grows.work
  refine ⟨grows.lifecycle.trans h.running, grows.controlAlive.trans h.alive, ?_, ?_, ?_, ?_⟩
  · rw [grows.workers]
    exact h.staffed
  · rw [grows.workers]
    exact h.staying
  · simp [control, h.noStop.1]
  · simp [work, h.noStop.2]

theorem dropJob (h : s.Serving) {e : Entry ControlJob} {rest : List (Entry ControlJob)}
    (next : s.control = e :: rest) : ({ s with control := rest } : Scheduler).Serving := by
  refine ⟨h.running, h.alive, h.staffed, h.staying, ?_, h.noStop.2⟩
  intro member
  exact h.noStop.1 (next ▸ List.mem_cons_of_mem e member)

theorem dropTask (h : s.Serving) {e : Entry Task} {rest : List (Entry Task)}
    (next : s.work = e :: rest) : ({ s with work := rest } : Scheduler).Serving := by
  refine ⟨h.running, h.alive, h.staffed, h.staying, h.noStop.1, ?_⟩
  intro member
  exact h.noStop.2 (next ▸ List.mem_cons_of_mem e member)

theorem setWorker (h : s.Serving) (i : Nat) {w : Worker} (stays : w.isExited = false) :
    (s.setWorker i w).Serving := by
  refine ⟨h.running, h.alive, ?_, ?_, h.noStop⟩
  · intro empty
    exact h.staffed ((List.set_eq_nil_iff ..).mp empty)
  · intro other member
    rcases List.mem_or_eq_of_mem_set member with old | rfl
    · exact h.staying other old
    · exact stays

/-- Only a request to shut down ends the service. -/
theorem act {s' : Scheduler} {a : Action} {o : Occurrence} (h : s.Serving) (on : a ≠ .shutdown)
    (acted : s.act? a = some (s', o)) : s'.Serving := by
  have passage := act_passage acted
  generalize o.deed = d at passage
  cases passage with
  | called c reply s' grows => exact h.grow grows
  | ran environment j rest s' alive next grows => exact (h.dropJob next).grow grows
  | controlLeft environment rest alive next =>
    -- No stop message was sent, so none is taken.
    exact absurd (next ▸ List.mem_cons_self) h.noStop.1
  | took environment i t rest found next => exact (h.dropTask next).setWorker i rfl
  | workerLeft environment i rest found next => exact absurd (next ▸ List.mem_cons_self) h.noStop.2
  | wentOn environment i t t' found => exact h.setWorker i rfl
  | finished environment i t j found => exact (h.setWorker i rfl).grow (grows_post _ j)
  | shutdownBegun | shutdownRepeated => exact absurd rfl on
  | stopSent environment unsent stopping =>
    rw [h.running] at stopping
    cases stopping
  | lastStopSent environment stopping left =>
    rw [h.running] at stopping
    cases stopping

end Serving

/-! ### No callback aborts -/

def Item.callback? : Item → Option Callback
  | .job (.startRead _ _ _ _ callback) | .job (.opened _ _ callback) | .job (.validated _ _ callback)
  | .job (.queried _ _ _ callback) | .task (.openSource _ _ callback) | .task (.validate _ _ callback)
  | .task (.query _ _ callback) => some callback
  | .job (.streamed ..) | .task (.stream ..) => none

def Item.IsCalm (i : Item) : Prop := ∀ callback, i.callback? = some callback → callback.aborts = false

theorem forall_sentIf {P : Item → Prop} {served : Bool} {i : Item} (holds : P i) :
    ∀ j ∈ sentIf served i, P j := by
  intro j member
  cases served with
  | true =>
    rw [sentIf_true, Multiset.mem_singleton] at member
    rwa [member]
  | false => simp at member

theorem forall_singleton {P : Item → Prop} {i : Item} (holds : P i) :
    ∀ j ∈ ({i} : Multiset Item), P j := @forall_sentIf P true i holds

/-- What takes the place of calm items is calm. -/
theorem Effect.calm {working alive : Bool} {x x' : Nat → Session} {a : Action} {o : Occurrence}
    {consumed produced : Multiset Item} (effect : Effect working alive x a o consumed produced x')
    (admitted : a.IsCalm) (calm : ∀ i ∈ consumed, i.IsCalm) : ∀ i ∈ produced, i.IsCalm := by
  have silent : ∀ i ∈ (0 : Multiset Item), i.IsCalm := by simp
  cases effect with
  | create id pipeline callback => exact forall_sentIf admitted
  | parse id pipeline callback => exact forall_sentIf admitted
  | readUnclaimed id arguments positional callback split unclaimed =>
    refine forall_sentIf fun c same => admitted c ?_
    simpa [Call.callback?, split, Except.toOption, Item.callback?] using same
  | readClaimed id arguments positional callback source split found free served =>
    refine forall_singleton fun c same => admitted c ?_
    simpa [Call.callback?, split, Except.toOption, Item.callback?] using same
  | startQuery => exact forall_sentIf fun c same => calm _ (Multiset.mem_singleton_self _) c same
  | openSource => exact forall_sentIf fun c same => calm _ (Multiset.mem_singleton_self _) c same
  | validate => exact forall_sentIf fun c same => calm _ (Multiset.mem_singleton_self _) c same
  | query => exact forall_sentIf fun c same => calm _ (Multiset.mem_singleton_self _) c same
  | accept => exact forall_sentIf fun c none_such => by cases none_such
  | stream => exact forall_singleton fun c none_such => by cases none_such
  | streamEnd => exact forall_sentIf fun c none_such => by cases none_such
  | _ => exact silent

/-! ### Induction along runs -/

theorem Action.IsCalm.on {a : Action} (calm : a.IsCalm) : a ≠ .shutdown := by
  rintro rfl
  exact calm

theorem serving_of_run {admits : Action → Prop} (on : ∀ a, admits a → a ≠ .shutdown) {n : Nat}
    (positive : 0 < n) {history : List Occurrence} {s : Scheduler}
    (run : Run admits (start n) history s) : s.Serving := by
  induction run with
  | start => exact serving_start positive
  | step _ admitted acted ih => exact ih.act (on _ admitted) acted

/-- Whatever holds at the start and is kept by every effect on served queues holds after every run without a
request to shut down. -/
theorem serving_run_induction {admits : Action → Prop} (on : ∀ a, admits a → a ≠ .shutdown) {n : Nat}
    (positive : 0 < n) {P : List Occurrence → Scheduler → Prop} (initial : P [] (start n))
    (kept : ∀ {history : List Occurrence} {s s' : Scheduler} {a : Action} {o : Occurrence}
      {rest consumed produced : Multiset Item}, Run admits (start n) history s → P history s → admits a →
      s.pending = consumed + rest → s'.pending = produced + rest →
      Effect true true s.sessions a o consumed produced s'.sessions → P (history ++ [o]) s')
    {history : List Occurrence} {s : Scheduler} (run : Run admits (start n) history s) : P history s := by
  induction run with
  | start => exact initial
  | @step history s a s' o earlier admitted acted ih =>
    have serving := serving_of_run on positive earlier
    obtain ⟨rest, consumed, produced, before, after, effect⟩ := act_effect acted
    rw [serving.isWorking, serving.alive] at effect
    exact kept earlier ih admitted before after effect

/-- The same for calm runs, where no item that is taken away answers a callback that aborts. -/
theorem calm_run_induction {n : Nat} (positive : 0 < n) {P : List Occurrence → Scheduler → Prop}
    (initial : P [] (start n))
    (kept : ∀ {history : List Occurrence} {s s' : Scheduler} {a : Action} {o : Occurrence}
      {rest consumed produced : Multiset Item}, Run Action.IsCalm (start n) history s → P history s →
      s.pending = consumed + rest → s'.pending = produced + rest → (∀ i ∈ consumed, i.IsCalm) →
      Effect true true s.sessions a o consumed produced s'.sessions → P (history ++ [o]) s')
    {history : List Occurrence} {s : Scheduler} (run : Run Action.IsCalm (start n) history s) :
    P history s := by
  -- What a step takes away was pending, so it is calm if all that is pending is.
  have both := serving_run_induction (fun _ => Action.IsCalm.on) positive
    (P := fun history s => P history s ∧ ∀ i ∈ s.pending, i.IsCalm) ⟨initial, by simp⟩ ?_ run
  · exact both.1
  intro history s s' a o rest consumed produced earlier holds admitted before after effect
  obtain ⟨holds, calm⟩ := holds
  rw [before] at calm
  have consumed_calm : ∀ i ∈ consumed, i.IsCalm := fun i member => calm i (Multiset.mem_add.mpr (.inl member))
  refine ⟨kept earlier holds before after consumed_calm effect, ?_⟩
  intro i member
  rw [after, Multiset.mem_add] at member
  rcases member with new | old
  · exact effect.calm admitted consumed_calm i new
  · exact calm i (Multiset.mem_add.mpr (.inr old))

end Scheduler

end PointStream
