import Mathlib.Algebra.Order.Field.Power
import Mathlib.Data.Rat.Floor
import Mathlib.Tactic.FieldSimp
import Mathlib.Tactic.Linarith
import Mathlib.Tactic.NormNum
import Mathlib.Tactic.Ring
import PointStream.Proofs.Number.Decimal

/-!
# Exact values

A finite number is a rational: its fraction, with a one before it unless the exponent field is zero, scaled by the
exponent field. Truncation, the test for integers and the order, which are computed from the word, are what they should
be of these rationals.
-/

namespace PointStream

/-- The integer between zero and a rational that is nearest to it. -/
def integerPart (q : ℚ) : ℤ := if 0 ≤ q then ⌊q⌋ else ⌈q⌉

theorem integerPart_of_nonneg {q : ℚ} (nonneg : 0 ≤ q) : integerPart q = ⌊q⌋ := if_pos nonneg

theorem integerPart_neg (q : ℚ) : integerPart (-q) = -integerPart q := by
  unfold integerPart
  rcases lt_trichotomy q 0 with negative | rfl | positive
  · rw [if_pos (by linarith), if_neg (by linarith), Int.floor_neg]
  · simp
  · rw [if_neg (by linarith), if_pos positive.le, Int.ceil_neg]

theorem integerPart_intCast (n : ℤ) : integerPart n = n := by
  unfold integerPart
  split <;> simp

namespace Binary64

/-! ### Values -/

/-- The eleven bits behind the sign. -/
def exponentField (x : Binary64) : ℕ := x.bits.toNat / 0x10000000000000 % 0x800

/-- The last 52 bits. -/
def fraction (x : Binary64) : ℕ := x.bits.toNat % 0x10000000000000

/-- The exact magnitude of a finite number. -/
def absValue (x : Binary64) : ℚ :=
  if x.exponentField = 0 then 2 ^ (-1022 : ℤ) * (x.fraction / 2 ^ (52 : ℤ))
  else 2 ^ ((x.exponentField : ℤ) - 1023) * (1 + x.fraction / 2 ^ (52 : ℤ))

/-- The exact value of a finite number. -/
def value (x : Binary64) : ℚ := if x.isNegative then -x.absValue else x.absValue

theorem magnitude_eq (x : Binary64) : x.magnitude = x.exponentField * 0x10000000000000 + x.fraction := by
  unfold magnitude exponentField fraction
  omega

theorem fraction_lt (x : Binary64) : x.fraction < 0x10000000000000 := Nat.mod_lt _ (by decide)

theorem shiftRight_magnitude (x : Binary64) : x.magnitude >>> 52 = x.exponentField := by
  have bounded := x.fraction_lt
  rw [magnitude_eq, Nat.shiftRight_eq_div_pow]
  omega

/-- The exponent field counts the powers of two from the least one, which both zero and one stand for. -/
theorem power_eq (x : Binary64) : x.power = ((x.exponentField - 1 : ℕ) : ℤ) - 1074 := by
  unfold power
  rw [shiftRight_magnitude]
  omega

theorem significand_of_subnormal {x : Binary64} (subnormal : x.exponentField = 0) : x.significand = x.fraction := by
  have bounded := x.fraction_lt
  have small : x.magnitude = x.fraction := by rw [magnitude_eq, subnormal, Nat.zero_mul, Nat.zero_add]
  rw [significand, small, if_pos bounded]

theorem significand_of_normal {x : Binary64} (normal : x.exponentField ≠ 0) :
    x.significand = x.fraction + 0x10000000000000 := by
  have large : ¬x.magnitude < 0x10000000000000 := by
    rw [magnitude_eq]
    omega
  have bounded := x.fraction_lt
  rw [significand, if_neg large, magnitude_eq]
  omega

theorem absValue_eq (x : Binary64) : x.absValue = x.significand * 2 ^ x.power := by
  unfold absValue
  by_cases subnormal : x.exponentField = 0
  · have unit : x.power = -1022 - 52 := by
      rw [power_eq, subnormal]
      rfl
    rw [if_pos subnormal, significand_of_subnormal subnormal, unit, zpow_sub₀ two_ne_zero]
    ring
  · have unit : x.power = (x.exponentField : ℤ) - 1023 - 52 := by
      rw [power_eq]
      omega
    rw [if_neg subnormal, significand_of_normal subnormal, unit, zpow_sub₀ two_ne_zero _ 52]
    generalize (2 : ℚ) ^ ((x.exponentField : ℤ) - 1023) = scale
    push_cast
    ring

theorem absValue_nonneg (x : Binary64) : 0 ≤ x.absValue := by
  rw [absValue_eq]
  positivity

/-! ### Integers

The magnitude of a finite number is an integer, or the quotient of one by a power of two.
-/

theorem absValue_eq_natCast {x : Binary64} (whole : 0 ≤ x.power) :
    x.absValue = ((x.significand <<< x.power.toNat : ℕ) : ℚ) := by
  rw [absValue_eq, Nat.shiftLeft_eq]
  push_cast
  rw [← zpow_natCast, Int.toNat_of_nonneg whole]

theorem absValue_eq_div {x : Binary64} (parts : x.power < 0) :
    x.absValue = (x.significand : ℚ) / ((2 ^ (-x.power).toNat : ℕ) : ℚ) := by
  rw [absValue_eq, div_eq_mul_inv]
  push_cast
  rw [← zpow_natCast, Int.toNat_of_nonneg (by omega), zpow_neg, inv_inv]

theorem floor_absValue (x : Binary64) : ⌊x.absValue⌋ =
    ((if 0 ≤ x.power then x.significand <<< x.power.toNat else x.significand >>> (-x.power).toNat : ℕ) : ℤ) := by
  split
  next whole => rw [absValue_eq_natCast whole, Int.floor_natCast]
  next parts =>
    rw [absValue_eq_div (Int.not_le.mp parts), Nat.shiftRight_eq_div_pow]
    exact Rat.floor_natCast_div_natCast _ _

/-- Truncation is rounding toward zero. -/
theorem truncate_eq (x : Binary64) : x.truncate = integerPart x.value := by
  have whole : integerPart x.absValue = _ := (integerPart_of_nonneg x.absValue_nonneg).trans x.floor_absValue
  unfold truncate value
  dsimp only
  split
  next => rw [integerPart_neg, whole]
  next => exact whole.symm

/-- The test for integers finds whether the value is one. -/
theorem isIntegral_iff (x : Binary64) : x.isIntegral = true ↔ ∃ n : ℤ, x.value = n := by
  have magnitude_integral : (∃ n : ℤ, x.value = n) ↔ ∃ n : ℤ, x.absValue = n := by
    unfold value
    split
    next =>
      constructor
      · rintro ⟨n, negated⟩
        exact ⟨-n, by push_cast; linarith⟩
      · rintro ⟨n, same⟩
        exact ⟨-n, by push_cast; linarith⟩
    next => rfl
  rw [magnitude_integral, isIntegral, decide_eq_true_iff]
  by_cases whole : 0 ≤ x.power
  · exact iff_of_true (.inl whole) ⟨_, absValue_eq_natCast whole⟩
  · rw [absValue_eq_div (Int.not_le.mp whole), Nat.one_shiftLeft]
    -- The quotient is an integer when the power of two divides the significand.
    constructor
    · rintro (positive | divides)
      · exact absurd positive whole
      · obtain ⟨n, product⟩ := Nat.dvd_of_mod_eq_zero divides
        refine ⟨n, ?_⟩
        rw [product]
        push_cast
        field_simp
    · rintro ⟨n, quotient⟩
      right
      have scaled : ((2 ^ (-x.power).toNat : ℕ) : ℚ) ≠ 0 := by positivity
      have product : (x.significand : ℤ) = n * (2 ^ (-x.power).toNat : ℕ) := by
        exact_mod_cast (div_eq_iff scaled).mp quotient
      apply Nat.mod_eq_zero_of_dvd
      apply Int.natCast_dvd_natCast.mp
      exact ⟨n, by rw [product, mul_comm]⟩

/-- A number is read as an integer exactly when it is finite and has that value. -/
theorem toInt?_eq_some_iff {x : Binary64} {n : ℤ} : x.toInt? = some n ↔ x.isFinite = true ∧ x.value = n := by
  unfold toInt?
  constructor
  · intro read
    split at read
    next exact_value =>
      obtain ⟨finite, integral⟩ := (Bool.and_eq_true ..).mp exact_value
      obtain ⟨i, value⟩ := x.isIntegral_iff.mp integral
      obtain rfl := Option.some.inj read
      refine ⟨finite, ?_⟩
      rw [truncate_eq, value, integerPart_intCast]
    next => cases read
  · rintro ⟨finite, value⟩
    have integral : x.isIntegral = true := x.isIntegral_iff.mpr ⟨n, value⟩
    rw [finite, integral, truncate_eq, value, integerPart_intCast]
    rfl

/-! ### Clamping -/

theorem isNaN_of_isFinite {x : Binary64} (finite : x.isFinite = true) : x.isNaN = false :=
  isNaN_of_magnitude_le (Nat.le_of_lt (of_decide_eq_true finite))

theorem isInfinite_of_isFinite {x : Binary64} (finite : x.isFinite = true) : x.isInfinite = false :=
  decide_eq_false (Nat.ne_of_lt (of_decide_eq_true finite))

theorem le_clamp {lo hi : ℤ} (x : Binary64) (below : lo ≤ 0) (above : 0 ≤ hi) : lo ≤ x.clamp lo hi := by
  unfold clamp
  split
  · exact below
  · split
    · split <;> omega
    · omega

theorem clamp_le {lo hi : ℤ} (x : Binary64) (below : lo ≤ 0) (above : 0 ≤ hi) : x.clamp lo hi ≤ hi := by
  unfold clamp
  split
  · exact above
  · split
    · split <;> omega
    · omega

/-- No number becomes zero, an infinity the end of the range that it lies behind, and any other number the integer of
the range that is nearest to its integer part. -/
theorem clamp_eq (x : Binary64) (lo hi : ℤ) :
    x.clamp lo hi =
      if x.isNaN then 0
      else if x.isInfinite then if x.isNegative then lo else hi
      else max lo (min hi (integerPart x.value)) := by
  rw [clamp, truncate_eq]

/-- An integer of the range is kept. -/
theorem clamp_of_value_eq {x : Binary64} {lo hi n : ℤ} (finite : x.isFinite = true) (value : x.value = n)
    (least : lo ≤ n) (greatest : n ≤ hi) : x.clamp lo hi = n := by
  rw [clamp_eq, isNaN_of_isFinite finite, isInfinite_of_isFinite finite, value, integerPart_intCast,
    min_eq_right greatest, max_eq_right least]
  rfl

/-! ### Order -/

/-- How many of the least units of the format a finite number is away from zero. -/
def units (x : Binary64) : ℕ := x.significand * 2 ^ (x.exponentField - 1)

theorem absValue_eq_units (x : Binary64) : x.absValue = x.units * 2 ^ (-1074 : ℤ) := by
  rw [absValue_eq, power_eq, sub_eq_add_neg, zpow_add₀ two_ne_zero, zpow_natCast, units]
  generalize (2 : ℚ) ^ (-1074 : ℤ) = unit
  push_cast
  ring

/-- The words of numbers are ordered as their magnitudes. -/
theorem units_lt {x y : Binary64} (below : x.magnitude < y.magnitude) : x.units < y.units := by
  have bounded_x := x.fraction_lt
  have bounded_y := y.fraction_lt
  rw [magnitude_eq, magnitude_eq] at below
  rcases Nat.lt_or_ge x.exponentField y.exponentField with smaller | as_large
  · -- A number of the next exponent counts at least twice as many of its units as one of this has room for.
    have normal : y.exponentField ≠ 0 := by omega
    have least : 0x10000000000000 * 2 ^ (y.exponentField - 1) ≤ y.units := by
      apply Nat.mul_le_mul_right
      rw [significand_of_normal normal]
      omega
    by_cases subnormal : x.exponentField = 0
    · have few : x.units < 0x10000000000000 := by
        rwa [units, significand_of_subnormal subnormal, subnormal, Nat.zero_sub, Nat.pow_zero, Nat.mul_one]
      have positive : 0 < 2 ^ (y.exponentField - 1) := by positivity
      calc x.units < 0x10000000000000 := few
        _ ≤ 0x10000000000000 * 2 ^ (y.exponentField - 1) := Nat.le_mul_of_pos_right _ positive
        _ ≤ y.units := least
    · have room : x.significand < 0x10000000000000 * 2 := by
        rw [significand_of_normal subnormal]
        omega
      have later : x.exponentField - 1 + 1 ≤ y.exponentField - 1 := by omega
      have positive : 0 < 2 ^ (x.exponentField - 1) := by positivity
      calc x.units < 0x10000000000000 * 2 * 2 ^ (x.exponentField - 1) := (Nat.mul_lt_mul_right positive).mpr room
        _ = 0x10000000000000 * 2 ^ (x.exponentField - 1 + 1) := by ring
        _ ≤ 0x10000000000000 * 2 ^ (y.exponentField - 1) :=
          Nat.mul_le_mul_left _ (Nat.pow_le_pow_right (by decide) later)
        _ ≤ y.units := least
  · have same : x.exponentField = y.exponentField := by omega
    have positive : 0 < 2 ^ (y.exponentField - 1) := by positivity
    have smaller : x.significand < y.significand := by
      by_cases subnormal : y.exponentField = 0
      · rw [significand_of_subnormal subnormal, significand_of_subnormal (same.trans subnormal)]
        omega
      · rw [significand_of_normal subnormal, significand_of_normal (same ▸ subnormal)]
        omega
    rw [units, units, same]
    exact (Nat.mul_lt_mul_right positive).mpr smaller

/-- The units with the sign of the number. -/
def signedUnits (x : Binary64) : ℤ := if x.isNegative then -(x.units : ℤ) else x.units

theorem value_eq_units (x : Binary64) : x.value = x.signedUnits * 2 ^ (-1074 : ℤ) := by
  unfold value signedUnits
  rw [absValue_eq_units]
  generalize (2 : ℚ) ^ (-1074 : ℤ) = unit
  split <;> push_cast <;> ring

theorem units_le_iff {x y : Binary64} : x.units ≤ y.units ↔ x.magnitude ≤ y.magnitude := by
  constructor
  · intro fewer
    by_contra above
    have more := units_lt (Nat.not_le.mp above)
    omega
  · intro below
    rcases Nat.lt_or_eq_of_le below with smaller | same
    · exact (units_lt smaller).le
    · have same_field : x.exponentField = y.exponentField := by
        rw [← shiftRight_magnitude, same, shiftRight_magnitude]
      rw [units, units, same_field, significand, significand, same]

theorem units_eq_zero_iff {x : Binary64} : x.units = 0 ↔ x.magnitude = 0 := by
  have zero_units : zero.units = 0 := by decide
  have zero_magnitude : zero.magnitude = 0 := by decide
  have fewer := @units_le_iff x zero
  omega

theorem signedUnits_le_iff {x y : Binary64} : x.signedUnits ≤ y.signedUnits ↔ x.orderKey ≤ y.orderKey := by
  have order := @units_le_iff x y
  have reverse := @units_le_iff y x
  have zero_x := @units_eq_zero_iff x
  have zero_y := @units_eq_zero_iff y
  unfold signedUnits orderKey
  -- Both zeros count no units, whatever their sign.
  split <;> split <;> omega

/-- Numbers are compared as their values. -/
theorem le_iff {x y : Binary64} (finite_x : x.isFinite = true) (finite_y : y.isFinite = true) :
    x.le y = true ↔ x.value ≤ y.value := by
  have unit_pos : (0 : ℚ) < 2 ^ (-1074 : ℤ) := by positivity
  rw [le, isNaN_of_isFinite finite_x, isNaN_of_isFinite finite_y, value_eq_units, value_eq_units,
    mul_le_mul_iff_left₀ unit_pos, Int.cast_le, signedUnits_le_iff]
  simp

/-- One number is at most another: the infinities are the ends of the order, in which NaN does not stand, and other
numbers stand as their values. -/
def AtMost (x y : Binary64) : Prop :=
  x.isNaN = false ∧ y.isNaN = false ∧
    (x.isInfinite = true ∧ x.isNegative = true ∨ y.isInfinite = true ∧ y.isNegative = false ∨
      x.isFinite = true ∧ y.isFinite = true ∧ x.value ≤ y.value)

/-- An infinity is compared by its sign, as no number has a greater magnitude. -/
theorem orderKey_le_iff_of_infinite {x y : Binary64} (number_x : x.isNaN = false) (number_y : y.isNaN = false)
    (infinite : ¬(x.isFinite = true ∧ y.isFinite = true)) :
    x.orderKey ≤ y.orderKey ↔
      x.isInfinite = true ∧ x.isNegative = true ∨ y.isInfinite = true ∧ y.isNegative = false := by
  have infinity := infinity_eq
  have greatest_x := of_decide_eq_false number_x
  have greatest_y := of_decide_eq_false number_y
  simp only [isFinite, decide_eq_true_iff] at infinite
  cases sign_x : x.isNegative <;> cases sign_y : y.isNegative
  all_goals
    simp only [orderKey, isInfinite, sign_x, sign_y, decide_eq_true_iff, if_true, Bool.false_eq_true, if_false,
      and_true, and_false, reduceCtorEq, or_false, false_or, iff_false]
    omega

/-- The comparison of words tells whether one number is at most another. -/
theorem le_iff_atMost {x y : Binary64} : x.le y = true ↔ x.AtMost y := by
  unfold AtMost
  cases number_x : x.isNaN with
  | true => simp [le, number_x]
  | false =>
    cases number_y : y.isNaN with
    | true => simp [le, number_y]
    | false =>
      by_cases finite : x.isFinite = true ∧ y.isFinite = true
      · rw [le_iff finite.1 finite.2, isInfinite_of_isFinite finite.1, isInfinite_of_isFinite finite.2]
        simp [finite]
      · have compared : x.le y = true ↔ x.orderKey ≤ y.orderKey := by simp [le, number_x, number_y]
        have no_values : ¬(x.isFinite = true ∧ y.isFinite = true ∧ x.value ≤ y.value) :=
          fun both => finite ⟨both.1, both.2.1⟩
        rw [compared, orderKey_le_iff_of_infinite number_x number_y finite]
        simp only [no_values, or_false, true_and]

/-! ### Rounded integers -/

/-- What is not zero is not rounded to zero. -/
theorem round_double_pos {num : ℕ} (positive : 0 < num) : 0 < Layout.double.round num 1 0 := by
  -- The unit of a natural number is far above the least power of the format.
  have some_units (unit : ℤ) (large : -53 ≤ unit) (quotient : ℕ) :
      0 < min ((unit - Layout.double.leastPower).toNat <<< (Layout.double.precision - 1) + quotient)
        Layout.double.infinity := by
    have least : Layout.double.leastPower = -1074 := rfl
    have units : 0 < (unit - Layout.double.leastPower).toNat := by omega
    have shifted : 0 < (unit - Layout.double.leastPower).toNat <<< (Layout.double.precision - 1) := by
      rw [Nat.shiftLeft_eq]
      positivity
    exact lt_min (by omega) (by decide)
  have precision : Layout.double.precision = 53 := rfl
  have no_log : Nat.log2 1 = 0 := by decide
  unfold Layout.round
  rw [if_neg positive.ne']
  dsimp only
  split <;> split <;> exact some_units _ (by dsimp only; omega) _

theorem orderKey_ofInt_neg {n : ℤ} (negative : n < 0) : (ofInt n).orderKey < 0 := by
  have rounded : 0 < Layout.double.round n.natAbs 1 0 := round_double_pos (by omega)
  have bounded := round_le_infinity Layout.double n.natAbs 1 0
  have infinity := infinity_eq
  -- What is rounded is not greater than infinity, so that no bit of it is lost.
  have magnitude : (ofInt n).magnitude = Layout.double.round n.natAbs 1 0 := by
    rw [ofInt, ofDyadic, magnitude_ofMagnitude]
    exact Nat.mod_eq_of_lt (by omega)
  have sign : (ofInt n).isNegative = true := by
    rw [ofInt, ofDyadic, decide_eq_true negative, isNegative, ofMagnitude, decide_eq_true_iff, UInt64.toNat_ofNat']
    rw [if_pos rfl]
    omega
  rw [orderKey, if_pos sign, magnitude]
  omega

theorem value_zero : zero.value = 0 := by
  have read : zero.toInt? = some 0 := by decide
  exact_mod_cast (toInt?_eq_some_iff.mp read).2

theorem value_ofInt_greatest : (ofInt 0xFFFFFFFF).value = 0xFFFFFFFF := by
  have read : (ofInt 0xFFFFFFFF).toInt? = some 0xFFFFFFFF := by decide +kernel
  exact_mod_cast (toInt?_eq_some_iff.mp read).2

end Binary64

end PointStream
