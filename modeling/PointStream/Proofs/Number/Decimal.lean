import PointStream.Number.Decimal

/-!
# Numbers that are read

Whatever digits and power of ten a number is read from, it is a number: arithmetic comes to NaN only where
infinities and zeros meet, and scaling by powers of ten keeps these apart.
-/

namespace PointStream.Binary64

theorem infinity_eq : Layout.double.infinity = 0x7FF0000000000000 := by decide

theorem magnitude_ofMagnitude (negative : Bool) (m : Nat) :
    (ofMagnitude negative m).magnitude = m % 0x8000000000000000 := by
  unfold magnitude ofMagnitude
  rw [UInt64.toNat_ofNat']
  split <;> omega

/-- A rounded magnitude is at most that of infinity. -/
theorem round_le_infinity (l : Layout) (num den : Nat) (power : Int) : l.round num den power ≤ l.infinity := by
  unfold Layout.round
  split
  next => exact Nat.zero_le _
  next => exact Nat.min_le_right _ _

theorem isNaN_of_magnitude_le {x : Binary64} (bounded : x.magnitude ≤ Layout.double.infinity) : x.isNaN = false := by
  simpa [isNaN] using bounded

theorem isNaN_ofMagnitude {negative : Bool} {m : Nat} (bounded : m ≤ Layout.double.infinity) :
    (ofMagnitude negative m).isNaN = false := by
  apply isNaN_of_magnitude_le
  rw [magnitude_ofMagnitude]
  exact Nat.le_trans (Nat.mod_le _ _) bounded

theorem isNaN_ofDyadic (negative : Bool) (num : Nat) (power : Int) : (ofDyadic negative num power).isNaN = false :=
  isNaN_ofMagnitude (round_le_infinity ..)

theorem isNaN_ofRatio (negative : Bool) (num den : Nat) : (ofRatio negative num den).isNaN = false :=
  isNaN_ofMagnitude (round_le_infinity ..)

theorem isNaN_infinity (negative : Bool) : (infinity negative).isNaN = false := isNaN_ofMagnitude (Nat.le_refl _)

theorem isNaN_ofInt (n : Int) : (ofInt n).isNaN = false := isNaN_ofDyadic ..

theorem isNaN_neg (x : Binary64) : x.neg.isNaN = x.isNaN := by
  have same : x.neg.magnitude = x.magnitude := by
    rw [neg, magnitude_ofMagnitude, magnitude]
    omega
  rw [isNaN, isNaN, same]

/-! ### Scaling by powers of ten -/

/-- The powers of ten that numbers are scaled by are neither zero nor infinite. -/
theorem powerOfTen_bounded : ∀ n ≤ largestScale,
    (powerOfTen n).magnitude ≠ 0 ∧ (powerOfTen n).isInfinite = false := by
  unfold largestScale
  decide +kernel

theorem isNaN_powerOfTen (n : Nat) : (powerOfTen n).isNaN = false := isNaN_ofRatio ..

/-- A product with a finite factor other than zero is a number. -/
theorem isNaN_mul {x y : Binary64} (number : x.isNaN = false) (scale : y.isNaN = false) (nonzero : y.magnitude ≠ 0)
    (finite : y.isInfinite = false) : (x.mul y).isNaN = false := by
  unfold mul
  cases infinite : x.isInfinite with
  | true =>
    have not_zero : x.magnitude ≠ 0 := by
      rw [isInfinite, decide_eq_true_eq, infinity_eq] at infinite
      omega
    simp [number, scale, nonzero, not_zero, isNaN_infinity]
  | false => simp [number, scale, finite, isNaN_ofDyadic]

theorem isNaN_div {x y : Binary64} (number : x.isNaN = false) (scale : y.isNaN = false) (nonzero : y.magnitude ≠ 0)
    (finite : y.isInfinite = false) : (x.div y).isNaN = false := by
  unfold div
  cases x.isInfinite with
  | true => simp [number, scale, finite, isNaN_infinity]
  | false => simp [number, scale, finite, nonzero, isNaN_ofMagnitude (round_le_infinity ..)]

theorem isNaN_of_scaleByTen {x y : Binary64} {exponent : Int} (number : x.isNaN = false)
    (scaled : x.scaleByTen exponent = some y) : y.isNaN = false := by
  have product (n : Nat) (small : n ≤ largestScale) {z : Binary64} (number : z.isNaN = false) :
      (z.mul (powerOfTen n)).isNaN = false ∧ (z.div (powerOfTen n)).isNaN = false := by
    obtain ⟨nonzero, finite⟩ := powerOfTen_bounded n small
    exact ⟨isNaN_mul number (isNaN_powerOfTen n) nonzero finite, isNaN_div number (isNaN_powerOfTen n) nonzero finite⟩
  fun_induction scaleByTen x exponent with
  | case1 | case5 => cases scaled
  | case2 x exponent small positive scale finite => exact Option.some.inj scaled ▸ (product _ (by omega) number).1
  | case3 x exponent small negative => exact Option.some.inj scaled ▸ (product _ (by omega) number).2
  | case4 x exponent large zero => exact Option.some.inj scaled ▸ number
  | case6 x exponent large nonzero negative ih => exact ih (product _ (Nat.le_refl _) number).2 scaled

theorem isNaN_of_ofDecimal {negative : Bool} {significand : Nat} {exponent : Int} {x : Binary64}
    (read : ofDecimal negative significand exponent = some x) : x.isNaN = false := by
  obtain ⟨y, scaled, rfl⟩ := Option.map_eq_some_iff.mp read
  have number := isNaN_of_scaleByTen (isNaN_ofInt _) scaled
  split
  next => rwa [isNaN_neg]
  next => exact number

end PointStream.Binary64
