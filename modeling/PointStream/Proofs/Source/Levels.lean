import Mathlib.Order.Interval.Finset.Nat
import PointStream.Proofs.Source.Splitting

/-!
# The search for the level of a point

The search takes one pass for every level above that of the point, and one more to find it. Its bounds stop at the
greatest word, yet below that word every pass decides like a pass with exact bounds. At the greatest word itself no pass
would be the last.
-/

namespace PointStream.Depth

/-- The search with bounds that stop nowhere. -/
def exactSearch (position : Nat) : (levels start size depth : Nat) → Option Nat
  | 0, _, _, _ => none
  | levels + 1, start, size, depth =>
    if start + size ≤ position then exactSearch position levels (start + size) (size * 4) (depth + 1)
    else some depth

variable {position later depth found : Nat}

/-! ### Passes -/

/-- A bound that has stopped at the greatest word lies above the position, and so does the exact one. -/
theorem stopped_le_iff (small : position < wordMax) (bound : Nat) :
    min wordMax bound ≤ position ↔ bound ≤ position := by
  omega

/-- Whatever bounds it starts from, the search finds what the search with exact bounds finds. -/
theorem search_eq_exactSearch (small : position < wordMax) (levels start size depth : Nat) :
    search position levels (min wordMax start) (min wordMax size) depth
      = exactSearch position levels start size depth := by
  induction levels generalizing start size depth with
  | zero => rfl
  | succ levels ih =>
    rw [search, exactSearch]
    simp only [min_wordMax_add, min_wordMax_mul, stopped_le_iff small]
    rw [ih]

/-- From a level on or above that of the position, the search needs a pass for every level that is left. -/
theorem exactSearch_of_onLevel (on_level : OnLevel position found) (levels : Nat) (above : depth ≤ found) :
    exactSearch position levels (levelStart depth) (4 ^ depth) depth
      = if found < depth + levels then some found else none := by
  induction levels generalizing depth with
  | zero =>
    rw [exactSearch, if_neg]
    omega
  | succ levels ih =>
    rw [exactSearch, ← levelStart_succ, ← Nat.pow_succ]
    split
    next passed =>
      have below : depth ≠ found := by
        rintro rfl
        exact absurd on_level.2 (Nat.not_lt.mpr passed)
      rw [ih (by omega), Nat.add_right_comm, Nat.add_assoc]
    next stopped =>
      -- A level further down would begin at or before the position.
      have same : depth = found := by
        by_contra apart
        have begins : levelStart (depth + 1) ≤ levelStart found := levelStart_mono (by omega)
        exact stopped (begins.trans on_level.1)
      rw [if_pos (by omega), same]

theorem onLevel_ofPosition (small : position < wordMax) : OnLevel position (ofPosition position) :=
  (ofPosition_eq_iff small).mp rfl

/-- The search ends with the pass for the level of the position, and more passes would change nothing. -/
theorem search_eq (small : position < wordMax) (levels : Nat) :
    search position levels 0 1 0 = if ofPosition position < levels then some (ofPosition position) else none := by
  have exact_bounds : search position levels 0 1 0 = exactSearch position levels 0 1 0 :=
    search_eq_exactSearch small levels 0 1 0
  have passes := exactSearch_of_onLevel (onLevel_ofPosition small) levels (Nat.zero_le _)
  rw [Nat.zero_add] at passes
  exact exact_bounds.trans passes

/-- No bound lies above the greatest word, so no number of passes finds a level for it. -/
theorem search_wordMax (levels start size depth : Nat) : search wordMax levels start size depth = none := by
  induction levels generalizing start size depth with
  | zero => rfl
  | succ levels ih =>
    rw [search, if_pos (Nat.min_le_left _ _)]
    exact ih _ _ _

/-! ### Levels -/

theorem ofPosition_le (small : position < wordMax) : ofPosition position ≤ 32 := by
  obtain ⟨depth, coarse, on_level⟩ := exists_onLevel small
  rw [(ofPosition_eq_iff small).mpr on_level]
  exact Nat.le_of_lt_succ coarse

theorem ofPosition_mono (before : position ≤ later) (small : later < wordMax) :
    ofPosition position ≤ ofPosition later := by
  by_contra finer
  have on_level := onLevel_ofPosition (Nat.lt_of_le_of_lt before small)
  have below : later < position := (onLevel_ofPosition small).lt_of_lt on_level (Nat.not_le.mp finer)
  omega

theorem levelStart_32_le : levelStart 32 ≤ wordMax := by decide

/-- The positions on a level that ends before the greatest word are those from where it begins to where it ends. -/
theorem filter_ofPosition (coarse : depth ≤ 31) :
    (Finset.range wordMax).filter (ofPosition · = depth) = Finset.Ico (levelStart depth) (levelStart (depth + 1)) := by
  have ends : levelStart (depth + 1) ≤ levelStart 32 := levelStart_mono (by omega)
  have last := levelStart_32_le
  ext i
  rw [Finset.mem_filter, Finset.mem_range, Finset.mem_Ico]
  constructor
  · rintro ⟨small, on_level⟩
    exact (ofPosition_eq_iff small).mp on_level
  · intro on_level
    have small : i < wordMax := by omega
    exact ⟨small, (ofPosition_eq_iff small).mpr on_level⟩

theorem card_ofPosition (coarse : depth ≤ 31) :
    ((Finset.range wordMax).filter (ofPosition · = depth)).card = 4 ^ depth := by
  rw [filter_ofPosition coarse, Nat.card_Ico, levelStart_succ, Nat.add_sub_cancel_left]

/-- The search for the level of any position below the greatest word ends, and finds what it would find with exact
bounds: the one level whose exact bounds enclose the position. Levels do not decrease along the positions, none is
deeper than 32, and each level above that one holds its power of four of positions. -/
theorem levels_of_positions (small : position < wordMax) :
    (∀ levels, search position levels 0 1 0 = exactSearch position levels 0 1 0 ∧
      search position levels 0 1 0 = if ofPosition position < levels then some (ofPosition position) else none) ∧
    (∀ depth, (4 ^ depth - 1) / 3 ≤ position ∧ position < (4 ^ (depth + 1) - 1) / 3 ↔ ofPosition position = depth) ∧
    (∀ later, position ≤ later → later < wordMax → ofPosition position ≤ ofPosition later) ∧
    ofPosition position ≤ 32 ∧
    ∀ depth ≤ 31, ((Finset.range wordMax).filter (ofPosition · = depth)).card = 4 ^ depth := by
  refine ⟨?_, ?_, ?_, ofPosition_le small, ?_⟩
  · intro levels
    exact ⟨search_eq_exactSearch small levels 0 1 0, search_eq small levels⟩
  · intro depth
    exact (ofPosition_eq_iff small).symm
  · intro later before last
    exact ofPosition_mono before last
  · intro depth coarse
    exact card_ofPosition coarse

/-- The last position for which the search ends is on the level 32, where the exact bounds no longer fit in a word. -/
theorem last_position_on_level : wordMax - 1 < wordMax ∧ wordMax < (4 ^ 33 - 1) / 3 ∧ ofPosition (wordMax - 1) = 32 ∧
    search (wordMax - 1) 33 0 1 0 = exactSearch (wordMax - 1) 33 0 1 0 := by
  have small : wordMax - 1 < wordMax := by decide
  obtain ⟨searched, level, -⟩ := levels_of_positions small
  exact ⟨small, by decide, (level 32).mp (by decide), (searched 33).1⟩

end PointStream.Depth
