import PointStream.Proofs.Dispatch.Lines

/-!
# Decoding what was encoded

The bytes that a character is encoded with are decoded into that character, whatever comes after them.
-/

namespace PointStream.Text.Utf8

theorem scalar?_toNat (c : Char) : scalar? c.val.toNat = some c := dif_pos c.valid

theorem toNat_ofNat_of_byte {n : Nat} (byte : n < 256) : (UInt8.ofNat n).toNat = n := by
  rw [UInt8.toNat_ofNat', Nat.mod_eq_of_lt byte]

/-- The last six bits of a number, in a byte that continues a character. -/
theorem continuation?_ofNat (n : Nat) : continuation? (UInt8.ofNat (n % 64 + 128)) = some (n % 64) := by
  have byte := toNat_ofNat_of_byte (n := n % 64 + 128) (by omega)
  generalize UInt8.ofNat (n % 64 + 128) = b at *
  have low : 0x80 ≤ b := UInt8.le_iff_toNat_le.mpr (by simp [byte])
  have high : b < 0xC0 := UInt8.lt_iff_toNat_lt.mpr (by simp [byte]; omega)
  simp [continuation?, low, high, byte]

/-! ### First bytes

Each form of a character has first bytes of its own. -/

section

variable {c : Char} {b : UInt8} {n : Nat} (rest : List UInt8)

theorem leading?_one (byte : b.toNat = n) (small : n < 0x80) (scalar : scalar? n = some c) :
    leading? b rest = some (c, 0) := by
  have one : b < 0x80 := UInt8.lt_iff_toNat_lt.mpr (by simpa [byte] using small)
  simp [leading?, one, byte, scalar]

theorem leading?_two (byte : b.toNat = n / 64 % 32 + 192) (large : 0x80 ≤ n) (small : n < 0x800)
    (scalar : scalar? n = some c) : leading? b (UInt8.ofNat (n % 64 + 128) :: rest) = some (c, 1) := by
  have not_one : ¬b < 0x80 := by simp [UInt8.lt_iff_toNat_lt, byte]
  have two : 0xC2 ≤ b ∧ b < 0xE0 := by simp [UInt8.lt_iff_toNat_lt, UInt8.le_iff_toNat_le, byte]; omega
  have value : n / 64 % 32 * 0x40 + n % 64 = n := by omega
  have continues := continuation?_ofNat n
  generalize UInt8.ofNat (n % 64 + 128) = b₁ at *
  simp [leading?, not_one, two, byte, continues, value, scalar]

theorem leading?_three (byte : b.toNat = n / 4096 % 16 + 224) (large : 0x800 ≤ n) (small : n < 0x10000)
    (scalar : scalar? n = some c) :
    leading? b (UInt8.ofNat (n / 64 % 64 + 128) :: UInt8.ofNat (n % 64 + 128) :: rest) = some (c, 2) := by
  have not_one : ¬b < 0x80 := by simp [UInt8.lt_iff_toNat_lt, byte]
  have not_two : ¬b < 0xE0 := by simp [UInt8.lt_iff_toNat_lt, byte]
  have three : 0xE0 ≤ b ∧ b < 0xF0 := by simp [UInt8.lt_iff_toNat_lt, UInt8.le_iff_toNat_le, byte]; omega
  have value : (n / 4096 % 16 * 0x40 + n / 64 % 64) * 0x40 + n % 64 = n := by omega
  have continues := continuation?_ofNat (n / 64)
  have continues' := continuation?_ofNat n
  generalize UInt8.ofNat (n / 64 % 64 + 128) = b₁ at *
  generalize UInt8.ofNat (n % 64 + 128) = b₂ at *
  simp [leading?, not_one, not_two, three, byte, continues, continues', value, scalar, large]

theorem leading?_four (byte : b.toNat = n / 262144 % 8 + 240) (large : 0x10000 ≤ n) (small : n < 0x110000)
    (scalar : scalar? n = some c) :
    leading? b (UInt8.ofNat (n / 4096 % 64 + 128) :: UInt8.ofNat (n / 64 % 64 + 128) :: UInt8.ofNat (n % 64 + 128)
      :: rest) = some (c, 3) := by
  have not_one : ¬b < 0x80 := by simp [UInt8.lt_iff_toNat_lt, byte]
  have not_two : ¬b < 0xE0 := by simp [UInt8.lt_iff_toNat_lt, byte]
  have not_three : ¬b < 0xF0 := by simp [UInt8.lt_iff_toNat_lt, byte]
  have four : 0xF0 ≤ b ∧ b < 0xF5 := by simp [UInt8.lt_iff_toNat_lt, UInt8.le_iff_toNat_le, byte]; omega
  have value : ((n / 262144 % 8 * 0x40 + n / 4096 % 64) * 0x40 + n / 64 % 64) * 0x40 + n % 64 = n := by
    omega
  have continues := continuation?_ofNat (n / 4096)
  have continues' := continuation?_ofNat (n / 64)
  have continues'' := continuation?_ofNat n
  generalize UInt8.ofNat (n / 4096 % 64 + 128) = b₁ at *
  generalize UInt8.ofNat (n / 64 % 64 + 128) = b₂ at *
  generalize UInt8.ofNat (n % 64 + 128) = b₃ at *
  simp [leading?, not_one, not_two, not_three, four, byte, continues, continues', continues'', value, scalar,
    large]

end

/-- The first byte of a character gives the character, and tells how many bytes follow. -/
theorem exists_leading (c : Char) : ∃ first others, String.utf8EncodeChar c = first :: others ∧
    ∀ rest, leading? first (others ++ rest) = some (c, others.length) := by
  have limit : c.val.toNat < 0x110000 := by
    have valid := c.valid
    simp only [UInt32.isValidChar, Nat.isValidChar] at valid
    omega
  have scalar := scalar?_toNat c
  unfold String.utf8EncodeChar
  dsimp only
  -- By the number of bytes that the character takes.
  split
  next one =>
    exact ⟨_, _, rfl, fun rest => leading?_one rest (toNat_ofNat_of_byte (by omega)) (by omega) scalar⟩
  next =>
    split
    next two =>
      exact ⟨_, _, rfl, fun rest => leading?_two rest (toNat_ofNat_of_byte (by omega)) (by omega) (by omega) scalar⟩
    next =>
      split
      next three =>
        exact ⟨_, _, rfl, fun rest => leading?_three rest (toNat_ofNat_of_byte (by omega)) (by omega) (by omega) scalar⟩
      next =>
        exact ⟨_, _, rfl, fun rest => leading?_four rest (toNat_ofNat_of_byte (by omega)) (by omega) limit scalar⟩

/-! ### Texts -/

theorem decodeFrom_skip (decoded : List Glyph) (taken rest : List UInt8) :
    decodeFrom decoded taken.length (taken ++ rest) = decodeFrom decoded 0 rest := by
  induction taken with
  | nil => rfl
  | cons b taken ih => exact ih

theorem decodeFrom_utf8EncodeChar (decoded : List Glyph) (c : Char) (rest : List UInt8) :
    decodeFrom decoded 0 (String.utf8EncodeChar c ++ rest) = decodeFrom (some c :: decoded) 0 rest := by
  obtain ⟨first, others, bytes, leads⟩ := exists_leading c
  rw [bytes, List.cons_append, decodeFrom, leads]
  exact decodeFrom_skip _ _ _

theorem decodeFrom_eq_append (decoded : List Glyph) (skip : Nat) (bytes : List UInt8) :
    decodeFrom decoded skip bytes = decoded.reverse ++ decodeFrom [] skip bytes := by
  induction bytes generalizing decoded skip with
  | nil => simp [decodeFrom]
  | cons b rest ih =>
    cases skip with
    | succ skip => exact ih decoded skip
    | zero =>
      rw [decodeFrom, decodeFrom]
      cases leading? b rest with
      | none =>
        dsimp only
        rw [ih, ih [none], List.reverse_cons, List.append_assoc, List.reverse_singleton]
      | some leads =>
        dsimp only
        rw [ih, ih [some leads.1], List.reverse_cons, List.append_assoc, List.reverse_singleton]

/-- A text comes back from its bytes, before what comes after them. -/
theorem decode_encode_append (s : String) (rest : List UInt8) :
    decode (encode s ++ rest) = s.toList.map some ++ decode rest := by
  rw [encode_eq]
  induction s.toList with
  | nil => rfl
  | cons c cs ih =>
    rw [List.flatMap_cons, List.append_assoc, decode, decodeFrom_utf8EncodeChar, decodeFrom_eq_append,
      List.reverse_singleton]
    exact congrArg (some c :: ·) ih

end PointStream.Text.Utf8
