import PointStream.Source.Depth

/-!
# Arithmetic on words

Sums and products of 64-bit words, which need not be words again. Whoever computes with words gets the exact result
or learns that there is none.
-/

namespace PointStream.Word

open Depth (wordMax)

/-- The sum of two words, if it is a word. -/
def add? (a b : Nat) : Option Nat := if a + b ≤ wordMax then some (a + b) else none

/-- The product of two words, if it is a word. -/
def mul? (a b : Nat) : Option Nat := if a * b ≤ wordMax then some (a * b) else none

/-- The sum of words that are added up one after the other, if every sum on the way is a word. -/
def sum? (words : List Nat) : Option Nat := words.foldlM add? 0

variable {a b : Nat}

theorem add?_of_le (small : a + b ≤ wordMax) : add? a b = some (a + b) := if_pos small

theorem mul?_of_le (small : a * b ≤ wordMax) : mul? a b = some (a * b) := if_pos small

theorem foldlM_add?_of_le {start : Nat} {words : List Nat} (small : start + words.foldr (· + ·) 0 ≤ wordMax) :
    words.foldlM add? start = some (start + words.foldr (· + ·) 0) := by
  induction words generalizing start with
  | nil => rfl
  | cons word words ih =>
    rw [List.foldr_cons, ← Nat.add_assoc] at small
    -- The sums on the way are not greater than the last one.
    have now : add? start word = some (start + word) := add?_of_le (by omega)
    rw [List.foldlM_cons, now, List.foldr_cons, ← Nat.add_assoc]
    exact ih small

theorem sum?_of_le {words : List Nat} (small : words.foldr (· + ·) 0 ≤ wordMax) :
    sum? words = some (words.foldr (· + ·) 0) := by
  have started : 0 + words.foldr (· + ·) 0 ≤ wordMax := by rwa [Nat.zero_add]
  rw [sum?, foldlM_add?_of_le started, Nat.zero_add]

/-- A product is known to fit a bound that is a word, whether it is a word itself or not. -/
theorem filter_mul?_eq {bound : Nat} (word : bound ≤ wordMax) :
    (mul? a b).filter (· ≤ bound) = if a * b ≤ bound then some (a * b) else none := by
  unfold mul?
  by_cases fits : a * b ≤ bound
  · rw [if_pos (Nat.le_trans fits word), if_pos fits, Option.filter_some, if_pos (decide_eq_true fits)]
  · rw [if_neg fits]
    split
    next => rw [Option.filter_some, if_neg (by simpa using fits)]
    next => rfl

end PointStream.Word
