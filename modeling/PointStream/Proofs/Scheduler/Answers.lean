import PointStream.Proofs.Scheduler.Running

/-!
# Answers to reads

The answers that a callback has been given and those that pending items still owe it add up to the reads that it
was handed over with. Where nothing is pending, every read has been answered, and none twice.
-/

namespace PointStream

open Scheduler

def Event.answersRead (id : Nat) (callback : Callback) : Event → Bool
  | answered session c (.read _) => session == id && c == callback
  | _ => false

namespace Scheduler

/-- The step is a read of a session that was taken on, with a callback. -/
def Occurrence.takesOn (id : Nat) (callback : Callback) (o : Occurrence) : Bool :=
  match o.deed with
  | .called (.read session arguments) (.read (.ok ()) _ _) =>
    match Argument.splitCallback arguments with
    | .ok (_, c) => session == id && c == callback
    | .error _ => false
  | _ => false

/-- The item owes an answer to a read of a session through a callback. -/
def Item.owes (id : Nat) (callback : Callback) : Item → Bool
  | .job (.startRead session _ _ _ c) | .job (.queried session _ _ c) | .task (.query session _ c) =>
    session == id && c == callback
  | _ => false

/-- How often a callback has answered reads of a session. -/
def answerCount (id : Nat) (callback : Callback) (history : List Occurrence) : Nat :=
  (history.flatMap Occurrence.events).countP (Event.answersRead id callback)

/-- How many reads of a session have been taken on with a callback. -/
def readCount (id : Nat) (callback : Callback) (history : List Occurrence) : Nat :=
  history.countP (Occurrence.takesOn id callback)

def owedCount (id : Nat) (callback : Callback) (items : Multiset Item) : Nat :=
  items.countP fun i => i.owes id callback = true

@[simp] theorem owedCount_zero (id : Nat) (callback : Callback) : owedCount id callback 0 = 0 := rfl

@[simp] theorem owedCount_add (id : Nat) (callback : Callback) (m₁ m₂ : Multiset Item) :
    owedCount id callback (m₁ + m₂) = owedCount id callback m₁ + owedCount id callback m₂ :=
  Multiset.countP_add ..

@[simp] theorem owedCount_singleton (id : Nat) (callback : Callback) (i : Item) :
    owedCount id callback {i} = (i.owes id callback).toNat := by
  unfold owedCount
  rw [← Multiset.cons_zero, Multiset.countP_cons]
  cases i.owes id callback <;> rfl

theorem countP_notes {notes : List Event} (quiet : ∀ e ∈ notes, e.isNote = true) (id : Nat)
    (callback : Callback) : notes.countP (Event.answersRead id callback) = 0 := by
  rw [List.countP_eq_zero]
  intro e member answers
  have note := quiet e member
  cases e <;> simp_all [Event.isNote, Event.answersRead]

theorem toNat_eq_ite (b : Bool) : b.toNat = if b then 1 else 0 := by cases b <;> rfl

/-- A step settles as many debts as it gives answers, and takes on one for each read. -/
theorem Effect.conserves {x x' : Nat → Session} {a : Action} {o : Occurrence}
    {consumed produced : Multiset Item} (effect : Effect true true x a o consumed produced x') (id : Nat)
    (callback : Callback) :
    o.events.countP (Event.answersRead id callback) + owedCount id callback produced
      = (o.takesOn id callback).toNat + owedCount id callback consumed := by
  cases effect with
  | readUnclaimed session arguments positional c split =>
    simp [Occurrence.takesOn, split, Item.owes, submission]
  | readClaimed session arguments positional c source split =>
    simp [Occurrence.takesOn, split, Item.owes]
  | readStopped _ _ _ _ _ _ _ _ gone =>
    -- The control thread serves its queue, so no read is turned away.
    cases gone
  | misread session arguments e split => simp [Occurrence.takesOn]
  | decodeFailed environment session generation source positional c rejection notes refused quiet =>
    simp [Occurrence.takesOn, Item.owes, countP_notes quiet, refusal, Event.answersRead, List.countP_cons,
      toNat_eq_ite]
  | startQuery environment session generation source positional c command notes made quiet =>
    simp [Occurrence.takesOn, Item.owes, countP_notes quiet]
  | opened environment session result c notes quiet =>
    simp [Occurrence.takesOn, Item.owes, countP_notes quiet, Event.answersRead]
  | stream | streamEnd => simp [Occurrence.takesOn, Item.owes, Event.answersRead]
  | _ =>
    -- What is left answers through the callback of the item that it takes away, or has no part in reads.
    simp [Occurrence.takesOn, Item.owes, refusal, Event.answersRead, List.countP_cons, toNat_eq_ite]

theorem answers_add_owed {admits : Action → Prop} (on : ∀ a, admits a → a ≠ .shutdown) {n : Nat}
    (positive : 0 < n) {history : List Occurrence} {s : Scheduler} (run : Run admits (start n) history s)
    (id : Nat) (callback : Callback) :
    answerCount id callback history + owedCount id callback s.pending = readCount id callback history := by
  refine serving_run_induction on positive (P := fun history s =>
    answerCount id callback history + owedCount id callback s.pending = readCount id callback history)
    (by simp [answerCount, readCount]) ?_ run
  intro history s s' a o rest consumed produced _ holds _ before after effect
  have conserved := effect.conserves id callback
  rw [before, owedCount_add] at holds
  have answers : answerCount id callback (history ++ [o])
      = answerCount id callback history + o.events.countP (Event.answersRead id callback) := by
    simp [answerCount]
  have reads : readCount id callback (history ++ [o])
      = readCount id callback history + (o.takesOn id callback).toNat := by
    unfold readCount
    rw [List.countP_append, List.countP_singleton]
    cases o.takesOn id callback <;> rfl
  rw [after, owedCount_add, answers, reads]
  omega

end Scheduler

end PointStream
