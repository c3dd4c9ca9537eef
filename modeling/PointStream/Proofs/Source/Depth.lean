import Mathlib.Tactic.Ring
import PointStream.Source.Depth

/-!
# Levels of the quad tree

The level `d` begins at `(4 ^ d - 1) / 3`, so the levels partition the positions. The search agrees with this
for every position below the greatest word: its bounds are the exact ones wherever they stay below that word,
and a bound that has stopped there is above the position all the same.
-/

namespace PointStream.Depth

def levelStart (depth : Nat) : Nat := (4 ^ depth - 1) / 3

theorem levelStart_spec (depth : Nat) : 3 * levelStart depth + 1 = 4 ^ depth := by
  induction depth with
  | zero => rfl
  | succ depth ih =>
    have quadrupled : 4 ^ (depth + 1) = 4 * 4 ^ depth := by ring
    unfold levelStart at ih ⊢
    omega

theorem levelStart_succ (depth : Nat) : levelStart (depth + 1) = levelStart depth + 4 ^ depth := by
  have this_level := levelStart_spec depth
  have next_level := levelStart_spec (depth + 1)
  have quadrupled : 4 ^ (depth + 1) = 4 * 4 ^ depth := by ring
  omega

theorem levelStart_mono {d₁ d₂ : Nat} (below : d₁ ≤ d₂) : levelStart d₁ ≤ levelStart d₂ := by
  have powers : 4 ^ d₁ ≤ 4 ^ d₂ := Nat.pow_le_pow_right (by omega) below
  have first := levelStart_spec d₁
  have second := levelStart_spec d₂
  omega

def OnLevel (position depth : Nat) : Prop := levelStart depth ≤ position ∧ position < levelStart (depth + 1)

theorem OnLevel.unique {position d₁ d₂ : Nat} (first : OnLevel position d₁) (second : OnLevel position d₂) :
    d₁ = d₂ := by
  rcases Nat.lt_trichotomy d₁ d₂ with below | same | above
  · have apart : levelStart (d₁ + 1) ≤ levelStart d₂ := levelStart_mono below
    have ends := first.2
    have begins := second.1
    omega
  · exact same
  · have apart : levelStart (d₂ + 1) ≤ levelStart d₁ := levelStart_mono above
    have ends := second.2
    have begins := first.1
    omega

/-- The greatest word stops nothing that matters below it. -/
theorem min_wordMax_add (a b : Nat) : min wordMax (min wordMax a + min wordMax b) = min wordMax (a + b) := by
  omega

theorem min_wordMax_mul (a : Nat) : min wordMax (min wordMax a * 4) = min wordMax (a * 4) := by
  omega

/-- From a level on or above that of the position, the search finds the level of the position. -/
theorem search_of_bounds {position levels depth : Nat} (small : position < wordMax)
    (begun : levelStart depth ≤ position) (within : position < levelStart (depth + levels)) :
    ∃ found, search position levels (min wordMax (levelStart depth)) (min wordMax (4 ^ depth)) depth
        = some found ∧ OnLevel position found := by
  induction levels generalizing depth with
  | zero =>
    rw [Nat.add_zero] at within
    omega
  | succ levels ih =>
    have bound : min wordMax (min wordMax (levelStart depth) + min wordMax (4 ^ depth))
        = min wordMax (levelStart (depth + 1)) := by
      rw [min_wordMax_add, levelStart_succ]
    have size : min wordMax (min wordMax (4 ^ depth) * 4) = min wordMax (4 ^ (depth + 1)) := by
      rw [min_wordMax_mul, Nat.pow_succ]
    simp only [search, bound, size]
    split
    next passed =>
      -- The bound is below the greatest word, hence exact.
      have later : levelStart (depth + 1) ≤ position := by omega
      have remaining : position < levelStart (depth + 1 + levels) := by
        rwa [Nat.add_right_comm, Nat.add_assoc]
      exact ih later remaining
    next stopped => exact ⟨depth, rfl, begun, by omega⟩

theorem wordMax_lt_levelStart : wordMax < levelStart levelLimit := by decide

/-- Every position below the greatest word is on the level that is found for it, and on no other. -/
theorem ofPosition_eq_iff {position depth : Nat} (small : position < wordMax) :
    ofPosition position = depth ↔ OnLevel position depth := by
  have deep : position < levelStart (0 + levelLimit) := by
    have limit := wordMax_lt_levelStart
    rw [Nat.zero_add]
    omega
  have begun : levelStart 0 ≤ position := Nat.zero_le position
  obtain ⟨found, search_found, on_level⟩ := search_of_bounds small begun deep
  have result : ofPosition position = found := by
    unfold ofPosition
    rw [show search position levelLimit 0 1 0 = some found from search_found, Option.getD_some]
  rw [result]
  constructor
  · rintro rfl
    exact on_level
  · exact on_level.unique

end PointStream.Depth
