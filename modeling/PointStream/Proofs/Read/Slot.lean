import PointStream.Read.Slot

/-!
# Slots

What each operation leaves of a slot. Only a claim issues a generation, and a generation that does not hold the
slot can neither advance nor release it for the one that does.
-/

namespace PointStream.ReadSlot

variable {slot : ReadSlot}

theorem isHeldBy_iff {generation : Nat} :
    slot.isHeldBy generation = true ↔ ∃ read, slot.active = some read ∧ read.generation = generation := by
  unfold isHeldBy
  cases slot.active <;> simp

/-! ### Moving on to streaming -/

theorem advance_of_held {read : ActiveRead} (held : slot.active = some read) :
    slot.advance read.generation = (true, { slot with active := some ⟨read.generation, true⟩ }) := by
  unfold advance
  rw [if_pos (isHeldBy_iff.mpr ⟨read, held, rfl⟩)]

theorem issued_advance (slot : ReadSlot) (generation : Nat) :
    (slot.advance generation).2.issued = slot.issued := by
  unfold advance
  split <;> rfl

theorem isHeldBy_advance (slot : ReadSlot) (generation other : Nat) :
    (slot.advance generation).2.isHeldBy other = slot.isHeldBy other := by
  unfold advance
  split
  next held =>
    obtain ⟨read, active, rfl⟩ := isHeldBy_iff.mp held
    simp [isHeldBy, active]
  next => rfl

@[simp] theorem isCancelled_advance (slot : ReadSlot) (generation other : Nat) :
    (slot.advance generation).2.isCancelled other = slot.isCancelled other := by
  unfold advance
  split <;> rfl

/-! ### Giving the slot back -/

theorem release_of_held {read : ActiveRead} (held : slot.active = some read) :
    slot.release read.generation = (true, { slot with active := none }) := by
  unfold release
  rw [if_pos (isHeldBy_iff.mpr ⟨read, held, rfl⟩)]

theorem issued_release (slot : ReadSlot) (generation : Nat) :
    (slot.release generation).2.issued = slot.issued := by
  unfold release
  split <;> rfl

theorem isHeldBy_release (slot : ReadSlot) {generation other : Nat} (apart : other ≠ generation) :
    (slot.release generation).2.isHeldBy other = slot.isHeldBy other := by
  unfold release
  split
  next held =>
    -- The slot has one holder, so it was not the other generation's before either.
    obtain ⟨read, active, rfl⟩ := isHeldBy_iff.mp held
    simp [isHeldBy, active, apart.symm]
  next => rfl

@[simp] theorem isCancelled_release (slot : ReadSlot) (generation other : Nat) :
    (slot.release generation).2.isCancelled other = slot.isCancelled other := by
  unfold release
  split <;> rfl

/-! ### Cancelling -/

@[simp] theorem active_cancel (slot : ReadSlot) : slot.cancel.2.active = slot.active := by
  unfold cancel
  split <;> rfl

@[simp] theorem issued_cancel (slot : ReadSlot) : slot.cancel.2.issued = slot.issued := by
  unfold cancel
  split <;> rfl

/-- Only the read that holds the slot is cancelled. -/
theorem isCancelled_cancel (slot : ReadSlot) (generation : Nat) :
    slot.cancel.2.isCancelled generation = (slot.isCancelled generation || slot.isHeldBy generation) := by
  unfold cancel isHeldBy
  cases slot.active with
  | none => simp
  | some read =>
    simp only [isCancelled, List.contains_cons, Option.any_some]
    rw [Bool.or_comm, Bool.beq_comm]

end PointStream.ReadSlot
