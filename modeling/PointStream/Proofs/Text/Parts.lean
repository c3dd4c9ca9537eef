import PointStream.Host.Address

/-!
# Lists read part by part

Splitting at a separator, and reading every part of a list: what the parts say about the whole and the whole about
the parts.
-/

namespace PointStream

section Splitting

variable {α : Type} [DecidableEq α] {separator : α}

theorem splitAtEach_eq_splitOn (l : List α) : splitAtEach separator l = l.splitOn separator := by
  induction l with
  | nil => rfl
  | cons a l ih =>
    rw [splitAtEach, List.splitOn_cons_eq_if_modifyHead, ih]
    by_cases here : a = separator
    · rw [if_pos here, if_pos (beq_iff_eq.mpr here)]
    · rw [if_neg here, if_neg (mt beq_iff_eq.mp here)]
      obtain ⟨part, parts, split⟩ := List.exists_cons_of_ne_nil (List.splitOn_ne_nil separator l)
      rw [split]
      rfl

theorem splitAtEach_intercalate {parts : List (List α)} (apart : ∀ part ∈ parts, separator ∉ part)
    (some_part : parts ≠ []) : splitAtEach separator ([separator].intercalate parts) = parts := by
  rw [splitAtEach_eq_splitOn]
  exact List.splitOn_intercalate separator apart some_part

theorem splitAtEach_of_not_mem {l : List α} (absent : separator ∉ l) : splitAtEach separator l = [l] := by
  rw [splitAtEach_eq_splitOn]
  exact List.splitOn_eq_singleton absent

theorem intercalate_splitAtEach (l : List α) : [separator].intercalate (splitAtEach separator l) = l := by
  rw [splitAtEach_eq_splitOn]
  exact List.intercalate_splitOn separator

theorem splitAtEach_ne_nil (separator : α) (l : List α) : splitAtEach separator l ≠ [] := by
  rw [splitAtEach_eq_splitOn]
  exact List.splitOn_ne_nil separator l

/-- The parts hold what the list holds, but for the separators. -/
theorem mem_part_iff {l : List α} {a : α} :
    (∃ part ∈ splitAtEach separator l, a ∈ part) ↔ a ∈ l ∧ a ≠ separator := by
  induction l with
  | nil => simp [splitAtEach]
  | cons b l ih =>
    obtain ⟨part, parts, split⟩ := List.exists_cons_of_ne_nil (splitAtEach_ne_nil separator l)
    rw [split] at ih
    by_cases here : b = separator
    · -- A separator opens a part of its own, which is empty.
      have next : splitAtEach separator (b :: l) = [] :: part :: parts := by rw [splitAtEach, if_pos here, split]
      rw [next]
      simp only [List.mem_cons, or_and_right, exists_or, exists_eq_left, List.not_mem_nil, false_or] at ih ⊢
      rw [ih]
      grind
    · have next : splitAtEach separator (b :: l) = (b :: part) :: parts := by rw [splitAtEach, if_neg here, split]
      rw [next]
      simp only [List.mem_cons, or_and_right, exists_or, exists_eq_left] at ih ⊢
      rw [or_assoc, ih]
      grind

end Splitting

section Reading

variable {α β : Type} {read : α → Option β} {as : List α} {bs : List β}

/-- A list is read item by item where each item can be read. -/
theorem mapM_of_each (value : α → β) (each : ∀ a ∈ as, read a = some (value a)) :
    as.mapM read = some (as.map value) := by
  induction as with
  | nil => rfl
  | cons a as ih =>
    obtain ⟨first, others⟩ := List.forall_mem_cons.mp each
    rw [List.mapM_cons, first, ih others]
    rfl

/-- What a list is read as is, in order, what its items are read as. -/
theorem map_eq_of_mapM (all : as.mapM read = some bs) : as.map read = bs.map some := by
  induction as generalizing bs with
  | nil =>
    obtain rfl := Option.some.inj all
    rfl
  | cons a as ih =>
    rw [List.mapM_cons] at all
    simp only [Option.bind_eq_bind, Option.bind_eq_some_iff, Option.pure_def, Option.some.injEq] at all
    obtain ⟨b, first, others, rest, rfl⟩ := all
    rw [List.map_cons, List.map_cons, first, ih rest]

theorem exists_of_mem (all : as.mapM read = some bs) {a : α} (member : a ∈ as) : ∃ b ∈ bs, read a = some b := by
  have image : read a ∈ bs.map some := map_eq_of_mapM all ▸ List.mem_map_of_mem member
  obtain ⟨b, there, same⟩ := List.mem_map.mp image
  exact ⟨b, there, same.symm⟩

theorem exists_of_mem_read (all : as.mapM read = some bs) {b : β} (member : b ∈ bs) : ∃ a ∈ as, read a = some b := by
  have image : some b ∈ as.map read := map_eq_of_mapM all ▸ List.mem_map_of_mem member
  exact List.mem_map.mp image

theorem length_of_mapM (all : as.mapM read = some bs) : bs.length = as.length := by
  have same := congrArg List.length (map_eq_of_mapM all)
  rw [List.length_map, List.length_map] at same
  exact same.symm

end Reading

end PointStream
