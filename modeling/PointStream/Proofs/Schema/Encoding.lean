import PointStream.Proofs.Number.Exact
import PointStream.Proofs.Read.Inline
import PointStream.Proofs.Source.Writing

/-!
# Fields and the numbers they hold

What is written into a field is read back from its bytes: an integer field holds the number with its fraction cut off,
or the nearest end of its range, or zero for no number; a field of eight bytes for a floating number holds its word.
Fields that no kind has are cleared, and nothing of what a field held before is left in it.
-/

namespace PointStream

/-! ### Numbers in bytes -/

/-- The natural number that bytes write, the lowest first. -/
def natOfBytes : List UInt8 → ℕ
  | [] => 0
  | byte :: rest => byte.toNat + 256 * natOfBytes rest

/-- The integer that bytes write in two's complement, the lowest first. -/
def intOfBytes (bytes : List UInt8) : ℤ := Int.bmod (natOfBytes bytes) (256 ^ bytes.length)

theorem pow_bytes (width : ℕ) : 256 ^ width = 2 ^ (8 * width) := by rw [show 256 = 2 ^ 8 from rfl, ← Nat.pow_mul]

theorem natOfBytes_littleEndian (width n : ℕ) : natOfBytes (littleEndian width n) = n % 256 ^ width := by
  induction width generalizing n with
  | zero => rw [Nat.pow_zero, Nat.mod_one, littleEndian, natOfBytes]
  | succ width ih =>
    have low : (UInt8.ofNat (n % 256)).toNat = n % 256 := UInt8.toNat_ofNat_of_lt' (Nat.mod_lt n (by decide))
    rw [littleEndian, natOfBytes, low, ih, Nat.pow_succ', Nat.mod_mul]

theorem natOfBytes_of_lt {width n : ℕ} (small : n < 2 ^ (8 * width)) : natOfBytes (littleEndian width n) = n := by
  rw [natOfBytes_littleEndian]
  apply Nat.mod_eq_of_lt
  rwa [pow_bytes]

/-- An integer in the range of so many bytes is read back from its remainder. -/
theorem intOfBytes_of_range {width : ℕ} {n : ℤ} (least : -2 ^ (8 * width) ≤ n * 2)
    (greatest : n * 2 < 2 ^ (8 * width)) : intOfBytes (littleEndian width (n % 2 ^ (8 * width)).toNat) = n := by
  have nonneg : 0 ≤ n % 2 ^ (8 * width) := Int.emod_nonneg n (by positivity)
  have small : (n % 2 ^ (8 * width)).toNat < 2 ^ (8 * width) := by
    have below : n % 2 ^ (8 * width) < 2 ^ (8 * width) := Int.emod_lt_of_pos n (by positivity)
    zify
    rwa [Int.toNat_of_nonneg nonneg]
  rw [intOfBytes, natOfBytes_of_lt small, length_littleEndian, pow_bytes, Int.toNat_of_nonneg nonneg]
  have cast : (2 : ℤ) ^ (8 * width) = ((2 ^ (8 * width) : ℕ) : ℤ) := by push_cast; rfl
  rw [cast, Int.emod_bmod]
  rw [cast] at least greatest
  exact Int.bmod_eq_of_le_mul_two least greatest

/-! ### Ranges

The words of floating numbers are taken for unsigned integers.
-/

namespace DimensionKind

/-- The least integer of a kind in so many bytes. -/
def least (kind : DimensionKind) (size : ℕ) : ℤ :=
  match kind with
  | .signed => -2 ^ (8 * size - 1)
  | .unsigned | .floating => 0

/-- The greatest integer of a kind in so many bytes. -/
def greatest (kind : DimensionKind) (size : ℕ) : ℤ :=
  match kind with
  | .signed => 2 ^ (8 * size - 1) - 1
  | .unsigned | .floating => 2 ^ (8 * size) - 1

/-- The integer that the bytes of a field hold. -/
def integerOf (kind : DimensionKind) (bytes : List UInt8) : ℤ :=
  match kind with
  | .signed => intOfBytes bytes
  | .unsigned | .floating => natOfBytes bytes

end DimensionKind

namespace Dimension

/-- Writes a value into a field that holds some bytes: they are cleared if the field is not as wide as the dimension or
the dimension has no values, and the bytes of the value are laid over them otherwise. -/
def encodeInto (d : Dimension) (x : Binary64) (out : List UInt8) : List UInt8 :=
  if out.length ≠ d.size then out.map fun _ => 0
  else if d.isSupported then MemorySource.overlay out 0 (d.valueBytes x)
  else out.map fun _ => 0

theorem length_valueBytes (d : Dimension) (x : Binary64) : (d.valueBytes x).length = d.size := by
  unfold valueBytes
  cases d.kind <;> simp

theorem encodeInto_eq (d : Dimension) (x : Binary64) (out : List UInt8) :
    d.encodeInto x out = d.encode x out.length := by
  unfold encodeInto encode
  by_cases width : out.length = d.size
  · by_cases supported : d.isSupported = true
    · -- The bytes of the value are as many as those of the field, and none of these is left.
      have covered : out.drop (0 + (d.valueBytes x).length) = [] := by
        rw [length_valueBytes, Nat.zero_add, ← width, List.drop_length]
      rw [if_neg (not_not.mpr width), if_pos supported, if_pos ⟨width, supported⟩, MemorySource.overlay, covered]
      simp
    · rw [if_neg (not_not.mpr width), if_neg supported, if_neg fun both => supported both.2]
      simp
  · rw [if_pos width, if_neg fun both => width both.1]
    simp

/-- The integer in the bytes of a value is the value, clamped to the range of the kind. -/
theorem integerOf_valueBytes {d : Dimension} (integer : d.kind ≠ .floating) (some_bytes : 0 < d.size) (x : Binary64) :
    d.kind.integerOf (d.valueBytes x) = x.clamp (d.kind.least d.size) (d.kind.greatest d.size) := by
  obtain ⟨name, kind, size⟩ := d
  dsimp only at integer some_bytes
  cases kind with
  | floating => exact absurd rfl integer
  | signed =>
    -- The range is the lower and the upper half of all remainders, split at the sign bit.
    have halves : (2 : ℤ) ^ (8 * size) = 2 ^ (8 * size - 1) * 2 := by
      rw [← pow_succ]
      congr 1
      omega
    have half_pos : (0 : ℤ) < 2 ^ (8 * size - 1) := by positivity
    have least : -2 ^ (8 * size - 1) ≤ x.clamp (-2 ^ (8 * size - 1)) (2 ^ (8 * size - 1) - 1) :=
      x.le_clamp (by omega) (by omega)
    have greatest : x.clamp (-2 ^ (8 * size - 1)) (2 ^ (8 * size - 1) - 1) ≤ 2 ^ (8 * size - 1) - 1 :=
      x.clamp_le (by omega) (by omega)
    simp only [DimensionKind.integerOf, DimensionKind.least, DimensionKind.greatest, valueBytes, Nat.one_shiftLeft,
      Nat.cast_pow, Nat.cast_ofNat]
    apply intOfBytes_of_range <;> omega
  | unsigned =>
    have all_pos : (0 : ℤ) < 2 ^ (8 * size) := by positivity
    have least : 0 ≤ x.clamp 0 (2 ^ (8 * size) - 1) := x.le_clamp (by omega) (by omega)
    have greatest : x.clamp 0 (2 ^ (8 * size) - 1) ≤ 2 ^ (8 * size) - 1 := x.clamp_le (by omega) (by omega)
    simp only [DimensionKind.integerOf, DimensionKind.least, DimensionKind.greatest, valueBytes, Nat.one_shiftLeft,
      Nat.cast_pow, Nat.cast_ofNat]
    rw [natOfBytes_of_lt, Int.toNat_of_nonneg least]
    zify
    rw [Int.toNat_of_nonneg least]
    omega

theorem encode_of_isSupported {d : Dimension} {x : Binary64} {width : ℕ} (fits : width = d.size)
    (supported : d.isSupported = true) : d.encode x width = d.valueBytes x := if_pos ⟨fits, supported⟩

theorem encode_of_unsupported {d : Dimension} {x : Binary64} {width : ℕ}
    (cleared : d.isSupported = false ∨ width ≠ d.size) : d.encode x width = List.replicate width 0 := by
  apply if_neg
  rintro ⟨fits, supported⟩
  rcases cleared with unsupported | misfit
  · exact Bool.false_ne_true (unsupported.symm.trans supported)
  · exact misfit fits

theorem natOfBytes_valueBytes {d : Dimension} (double : d.kind = .floating ∧ d.size = 8) (x : Binary64) :
    natOfBytes (d.valueBytes x) = x.bits.toNat := by
  obtain ⟨name, kind, size⟩ := d
  obtain ⟨rfl, rfl⟩ := double
  exact natOfBytes_of_lt x.bits.toNat_lt

/-- A field is written over completely. A field of an integer kind then holds the value with its fraction cut off, or
the end of its range that is nearest to it, and zero if the value is no number; a floating field of eight bytes holds
the word of the value; and a field that is not as wide as its dimension, or that no value fits, holds zeros. -/
theorem encode_saturates (d : Dimension) (x : Binary64) (out : List UInt8) :
    d.encodeInto x out = d.encode x out.length ∧
    (d.encodeInto x out).length = out.length ∧
    (∀ other : List UInt8, other.length = out.length → d.encodeInto x other = d.encodeInto x out) ∧
    (d.kind ≠ .floating → d.size ∈ [1, 2, 4, 8] → out.length = d.size →
      d.kind.integerOf (d.encodeInto x out) =
        if x.isNaN then 0
        else if x.isInfinite then if x.isNegative then d.kind.least d.size else d.kind.greatest d.size
        else max (d.kind.least d.size) (min (d.kind.greatest d.size) (integerPart x.value))) ∧
    (d.kind = .floating → d.size = 8 → out.length = d.size → natOfBytes (d.encodeInto x out) = x.bits.toNat) ∧
    (d.isSupported = false ∨ out.length ≠ d.size → d.encodeInto x out = List.replicate out.length 0) := by
  have same := d.encodeInto_eq x out
  refine ⟨same, ?_, ?_, ?_, ?_, ?_⟩
  · rw [same, length_encode]
  · intro other length
    rw [same, encodeInto_eq, length]
  · intro integer size fits
    -- The sizes of integers are those that their kinds support.
    have supported : d.isSupported = true := by
      obtain ⟨name, kind, width⟩ := d
      cases kind with
      | floating => exact absurd rfl integer
      | signed | unsigned => exact List.contains_iff_mem.mpr size
    rw [same, encode_of_isSupported fits supported, integerOf_valueBytes integer (size_pos supported),
      Binary64.clamp_eq]
  · intro floating eight fits
    have supported : d.isSupported = true := by
      rw [isSupported, floating, eight]
      decide
    rw [same, encode_of_isSupported fits supported, natOfBytes_valueBytes ⟨floating, eight⟩]
  · intro cleared
    rw [same, encode_of_unsupported cleared]

/-- One more than the greatest signed integer of eight bytes is written as the greatest, a floating field keeps the
word of what is no number, and two bytes hold no floating number. -/
theorem saturated_fields :
    let longest : Dimension := ⟨"X", .signed, 8⟩
    let double : Dimension := ⟨"Y", .floating, 8⟩
    let half : Dimension := ⟨"Z", .floating, 2⟩
    let used : List UInt8 := List.replicate 8 0xAA
    longest.kind.integerOf (longest.encodeInto ⟨0x43E0000000000000⟩ used) = 0x7FFFFFFFFFFFFFFF ∧
    natOfBytes (double.encodeInto ⟨0xFFF0000000000001⟩ used) = 0xFFF0000000000001 ∧
    half.encodeInto .zero [0xAA, 0xAA] = [0, 0] := by
  intro longest double half used
  obtain ⟨-, -, -, saturated, -, -⟩ := encode_saturates longest ⟨0x43E0000000000000⟩ used
  obtain ⟨-, -, -, -, kept, -⟩ := encode_saturates double ⟨0xFFF0000000000001⟩ used
  obtain ⟨-, -, -, -, -, cleared⟩ := encode_saturates half .zero [0xAA, 0xAA]
  refine ⟨?_, kept rfl rfl rfl, cleared (.inl (by decide))⟩
  have value : (⟨0x43E0000000000000⟩ : Binary64).value = (0x8000000000000000 : ℤ) :=
    (Binary64.toInt?_eq_some_iff.mp (by decide)).2
  rw [saturated nofun (by decide) rfl, value, integerPart_intCast]
  decide

end Dimension

end PointStream
