import Mathlib.Order.Basic
import Mathlib.Tactic.ByContra
import PointStream.Source.Memory

/-!
# Dimensions by name

A name stands for the first dimension that has it, the case of letters aside. This is said letter by letter and
dimension by dimension, apart from how a source looks columns up, and what the lookup finds is exactly that.
-/

namespace PointStream

/-! ### Texts but for case -/

/-- The texts agree letter by letter, the case of ASCII letters aside. -/
def Text.Alike (s t : String) : Prop := s.toList.map Char.toLower = t.toList.map Char.toLower

instance (s t : String) : Decidable (Text.Alike s t) := inferInstanceAs (Decidable (_ = _))

@[simp] theorem Text.alike_self (s : String) : Alike s s := rfl

theorem Text.sameIgnoringCase_iff {s t : String} : sameIgnoringCase s t = true ↔ Alike s t := by
  unfold sameIgnoringCase String.toLower Alike
  rw [beq_iff_eq, ← String.toList_inj, String.toList_map, String.toList_map]

theorem Text.sameIgnoringCase_eq (s t : String) : sameIgnoringCase s t = decide (Alike s t) := by
  rw [Bool.eq_iff_iff, sameIgnoringCase_iff, decide_eq_true_iff]

namespace MemorySource

variable {m : MemorySource} {name : String}

/-! ### What a name stands for -/

/-- The first dimension of a name stands at a place. -/
structure IsFirstNamed (m : MemorySource) (name : String) (place : Nat) : Prop where
  named : ∃ d, m.dimensions[place]? = some d ∧ Text.Alike d.name name
  first : ∀ earlier d, earlier < place → m.dimensions[earlier]? = some d → ¬Text.Alike d.name name

/-- No dimension has the name. -/
def Lacks (m : MemorySource) (name : String) : Prop := ∀ d ∈ m.dimensions, ¬Text.Alike d.name name

instance (m : MemorySource) (name : String) : Decidable (m.Lacks name) :=
  inferInstanceAs (Decidable (∀ d ∈ m.dimensions, ¬Text.Alike d.name name))

/-- No two dimensions have the same name. -/
def HasDistinctNames (m : MemorySource) : Prop :=
  m.dimensions.Pairwise fun d other => ¬Text.Alike d.name other.name

/-- A declared name has a first dimension, at the place of its declaration or before. -/
theorem exists_firstNamed {place : Nat} {d : Dimension} (declared : m.dimensions[place]? = some d)
    (named : Text.Alike d.name name) : ∃ column, column ≤ place ∧ m.IsFirstNamed name column := by
  induction place using Nat.strongRecOn generalizing d with
  | _ place ih =>
    -- Either this is the first, or there is one before it to look at.
    by_cases earlier_named : ∃ earlier d, earlier < place ∧ m.dimensions[earlier]? = some d ∧ Text.Alike d.name name
    · obtain ⟨earlier, d, before, at_earlier, named⟩ := earlier_named
      obtain ⟨column, not_later, first⟩ := ih earlier before at_earlier named
      exact ⟨column, by omega, first⟩
    · refine ⟨place, Nat.le_refl _, ⟨d, declared, named⟩, ?_⟩
      intro earlier d before at_earlier named
      exact earlier_named ⟨earlier, d, before, at_earlier, named⟩

theorem IsFirstNamed.eq_of_distinct (distinct : m.HasDistinctNames) {place column : Nat} {d : Dimension}
    (declared : m.dimensions[place]? = some d) (before : column ≤ place) (first : m.IsFirstNamed d.name column) :
    column = place := by
  obtain ⟨other, at_column, same⟩ := first.named
  obtain ⟨_, rfl⟩ := List.getElem?_eq_some_iff.mp at_column
  obtain ⟨_, rfl⟩ := List.getElem?_eq_some_iff.mp declared
  by_contra other_place
  exact List.pairwise_iff_getElem.mp distinct column place ‹_› ‹_› (by omega) same

/-! ### What the lookup finds -/

theorem column?_eq_some_iff {place : Nat} : m.column? name = some place ↔ m.IsFirstNamed name place := by
  unfold column?
  rw [List.findIdx?_eq_some_iff_getElem]
  simp only [Text.sameIgnoringCase_eq]
  constructor
  · rintro ⟨inside, named, first⟩
    refine ⟨⟨_, List.getElem?_eq_getElem inside, of_decide_eq_true named⟩, ?_⟩
    intro earlier d before declared
    obtain ⟨_, rfl⟩ := List.getElem?_eq_some_iff.mp declared
    simpa using first earlier before
  · rintro ⟨⟨d, declared, named⟩, first⟩
    obtain ⟨inside, rfl⟩ := List.getElem?_eq_some_iff.mp declared
    refine ⟨inside, decide_eq_true named, ?_⟩
    intro earlier before
    have other := first earlier _ before (List.getElem?_eq_getElem (Nat.lt_trans before inside))
    simpa using other

theorem column?_eq_none_iff : m.column? name = none ↔ m.Lacks name := by
  unfold column? Lacks
  rw [List.findIdx?_eq_none_iff]
  simp only [Text.sameIgnoringCase_eq, decide_eq_false_iff_not]

end MemorySource

end PointStream
