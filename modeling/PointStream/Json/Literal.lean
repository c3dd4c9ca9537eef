import PointStream.Json.Value

/-!
# JSON number literals

The grammar of number literals, and the number that one denotes. A literal without fraction and exponent
is an integer where 64 bits hold it; every other literal is a binary64 number, or out of range.
-/

namespace PointStream.Json

/-- A number literal: its sign, its digits before and after the point, and its power of ten. -/
structure Literal where
  negative : Bool
  whole : List Nat
  fraction : Option (List Nat)
  exponent : Option Int
deriving DecidableEq, Inhabited

namespace Literal

def digitValue (c : Char) : Nat := c.toNat - '0'.toNat

/-- Splits off the digits at the front; there must be one. -/
def digits? (cs : List Char) : Option (List Nat × List Char) :=
  match cs.takeWhile Char.isDigit with
  | [] => none
  | first :: others => some ((first :: others).map digitValue, cs.dropWhile Char.isDigit)

/-- The digits before the point: a zero stands alone. -/
def whole? (cs : List Char) : Option (List Nat × List Char) := do
  let (digits, rest) ← digits? cs
  if digits.head? = some 0 ∧ digits.length ≠ 1 then none else some (digits, rest)

/-- A point and the digits after it, where there is a point. -/
def fraction? : List Char → Option (Option (List Nat) × List Char)
  | '.' :: rest => (digits? rest).map fun (digits, rest) => (some digits, rest)
  | cs => some (none, cs)

/-- Powers of ten beyond this one no longer differ: a literal of so large an exponent is zero or out of
range. -/
def exponentLimit : Nat := 0x100000000

/-- The number that digits write, or the limit if that is less. -/
def ofDigitsUpTo (limit : Nat) (digits : List Nat) : Nat :=
  digits.foldl (fun n d => min limit (n * 10 + d)) 0

/-- An exponent with its sign, where there is one. -/
def exponent? : List Char → Option (Option Int × List Char)
  | [] => some (none, [])
  | e :: rest =>
    if e = 'e' ∨ e = 'E' then
      let (negative, rest) := match rest with
        | '-' :: rest => (true, rest)
        | '+' :: rest => (false, rest)
        | rest => (false, rest)
      (digits? rest).map fun (digits, rest) =>
        let n : Int := ofDigitsUpTo exponentLimit digits
        (some (if negative then -n else n), rest)
    else some (none, e :: rest)

def ofChars? (cs : List Char) : Option Literal := do
  let (negative, cs) := match cs with
    | '-' :: rest => (true, rest)
    | cs => (false, cs)
  let (whole, cs) ← whole? cs
  let (fraction, cs) ← fraction? cs
  let (exponent, cs) ← exponent? cs
  if cs.isEmpty then some ⟨negative, whole, fraction, exponent⟩ else none

/-- The binary64 number of a literal: the leading digits that fit 64 bits, scaled by one power of ten. -/
def toBinary64? (l : Literal) : Option Binary64 :=
  let (significand, skipped) := Decimal.appendDigits 0 l.whole
  let fraction := l.fraction.getD []
  let (significand, unused) := Decimal.appendDigits significand fraction
  -- Every skipped digit before the point raises the power, every digit taken behind it lowers it.
  let places : Int := (skipped.length : Int) - (fraction.length - unused.length : Nat)
  Binary64.ofDecimal l.negative significand (places + l.exponent.getD 0)

/-- The magnitude of a literal without fraction and exponent, if 64 bits hold it. -/
def word? (l : Literal) : Option Nat :=
  if l.fraction.isSome || l.exponent.isSome then none
  else
    let n := ofDigitsUpTo UInt64.size l.whole
    if n < UInt64.size then some n else none

/-- The number of a literal, or none when it is out of range. Minus zero is not an integer. -/
def toNumber? (l : Literal) : Option Number :=
  match l.word? with
  | some n =>
    -- A signed word holds one more below zero than above.
    if !l.negative then some (.natural (UInt64.ofNat n))
    else if 0 < n ∧ n ≤ 0x8000000000000000 then some (.negative (Int64.ofInt (-n)))
    else some (.real (Binary64.ofInt n).neg)
  | none => l.toBinary64?.map .real

end Literal

end PointStream.Json
