import Mathlib.Data.List.Basic
import PointStream.Json.Printer

/-!
# JSON text is on one line

Strings escape the line feed, and everything else that is written of a value is digits, signs, letters and
punctuation. So a value of any depth is written without a line feed.
-/

namespace PointStream

/-! ### Numbers -/

theorem newline_not_mem_toDigits (n : Nat) : '\n' ∉ Nat.toDigits 10 n := by
  intro member
  have digit := Nat.isDigit_of_mem_toDigits (by decide) (by decide) member
  exact absurd digit (by decide)

/-- The text of a number has digits, a point, signs and the letter of the exponent. -/
theorem Binary64.newline_not_mem_toText (x : Binary64) : '\n' ∉ x.toText.toList := by
  have digits := newline_not_mem_toDigits
  have front (n k : Nat) : '\n' ∉ (Nat.toDigits 10 n).take k := mt List.mem_of_mem_take (digits n)
  have back (n k : Nat) : '\n' ∉ (Nat.toDigits 10 n).drop k := mt List.mem_of_mem_drop (digits n)
  have sign : '\n' ∉ (if x.isNegative then "-" else "").toList := by
    split <;> decide
  unfold toText
  dsimp only
  split
  next => simp [sign]
  next =>
    rw [String.toList_append, String.toList_ofList, List.mem_append, not_or]
    refine ⟨sign, ?_⟩
    split
    next =>
      -- Positional notation.
      split
      next => simp [digits]
      next => split <;> simp [digits, front, back]
    next =>
      have fraction (text : List Char) (single : '\n' ∉ text) :
          '\n' ∉ (if text.isEmpty then [] else '.' :: text) := by
        split <;> simp [single]
      have exponent (negative : Prop) [Decidable negative] : '\n' ≠ (if negative then '-' else '+') := by
        split <;> decide
      simp only [List.mem_append, List.mem_cons, not_or]
      exact ⟨⟨front _ 1, fraction _ (back _ 1)⟩, by decide, exponent _, digits _⟩

namespace Json

theorem Number.newline_not_mem_render (n : Number) : '\n' ∉ n.render := by
  have digits := newline_not_mem_toDigits
  cases n with
  | natural n => exact digits n.toNat
  | negative n =>
    simp only [render]
    split <;> simp [digits]
  | real x =>
    simp only [render]
    split
    next => exact x.newline_not_mem_toText
    next => decide

/-! ### Strings -/

theorem newline_ne_hexDigit {n : Nat} (hex : n < 16) : '\n' ≠ hexDigit n := by
  revert n
  decide

theorem newline_not_mem_escapeChar (c : Char) : '\n' ∉ escapeChar c := by
  unfold escapeChar
  iterate 7
    split
    next => decide
  split
  next control =>
    have high := newline_ne_hexDigit (n := c.toNat / 16) (by omega)
    have low := newline_ne_hexDigit (n := c.toNat % 16) (by omega)
    simp [high, low]
  next => exact fun member => absurd (List.mem_singleton.mp member).symm ‹¬c = '\n'›

theorem newline_not_mem_quote (s : String) : '\n' ∉ quote s := by
  simp [quote, newline_not_mem_escapeChar]

/-! ### Values -/

mutual

theorem newline_not_mem_render : ∀ v : Json, '\n' ∉ v.render
  | .null | .bool true | .bool false => by simp [render]
  | .number n => by simpa [render] using n.newline_not_mem_render
  | .string s => by simpa [render] using newline_not_mem_quote s
  | .array items => by simpa [render] using newline_not_mem_renderItems items
  | .object members => by simpa [render] using newline_not_mem_renderMembers members

theorem newline_not_mem_renderItems : ∀ items : List Json, '\n' ∉ renderItems items
  | [] => List.not_mem_nil
  | [item] => by simpa [renderItems] using newline_not_mem_render item
  | item :: next :: rest => by
    have first := newline_not_mem_render item
    have others := newline_not_mem_renderItems (next :: rest)
    simp [renderItems, first, others]

theorem newline_not_mem_renderMembers : ∀ members : List (String × Json), '\n' ∉ renderMembers members
  | [] => List.not_mem_nil
  | [(name, value)] => by
    have text := newline_not_mem_render value
    simp [renderMembers, newline_not_mem_quote, text]
  | (name, value) :: next :: rest => by
    have text := newline_not_mem_render value
    have others := newline_not_mem_renderMembers (next :: rest)
    simp [renderMembers, newline_not_mem_quote, text, others]

end

theorem newline_not_mem_recordText (members : List (String × Json)) : '\n' ∉ (recordText members).toList := by
  simp [recordText, newline_not_mem_renderMembers]

end Json

end PointStream
