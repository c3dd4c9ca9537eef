import PointStream.Number.Binary64

/-!
# Decimal text and binary64 numbers

Reading scales a 64-bit significand by a power of ten in binary64 arithmetic (`Binary64.ofDecimal`).
Writing finds the decimal of fewest digits that lies in the number's rounding interval
(`Binary64.shortest`).
-/

namespace PointStream

/-! ### Reading -/

namespace Decimal

/-- Appends digits to a significand while it stays below `2 ^ 64`. The digits from the first that does
not fit are returned as they are. -/
def appendDigits (significand : Nat) : List Nat → Nat × List Nat
  | [] => (significand, [])
  | digit :: rest =>
    let longer := significand * 10 + digit
    if longer < UInt64.size then appendDigits longer rest else (significand, digit :: rest)

end Decimal

namespace Binary64

/-- The largest power of ten that one scaling step applies. -/
def largestScale : Nat := 308

def powerOfTen (n : Nat) : Binary64 := ofRatio false (Nat.pow 10 n) 1

/-- `x * 10 ^ exponent` by one multiplication or division; an exponent below `-308` is first worked off
by divisions by `10 ^ 308`. Too large a result is none. -/
def scaleByTen (x : Binary64) (exponent : Int) : Option Binary64 :=
  if exponent.natAbs ≤ largestScale then
    if 0 ≤ exponent then
      let scaled := x.mul (powerOfTen exponent.toNat)
      if scaled.isInfinite then none else some scaled
    else some (x.div (powerOfTen exponent.natAbs))
  else if x.magnitude = 0 then some x
  else if 0 ≤ exponent then none
  else scaleByTen (x.div (powerOfTen largestScale)) (exponent + largestScale)
termination_by exponent.natAbs
decreasing_by simp only [largestScale] at *; omega

/-- The number read from `±significand * 10 ^ exponent`; none when it is too large. -/
def ofDecimal (negative : Bool) (significand : Nat) (exponent : Int) : Option Binary64 :=
  ((ofInt significand).scaleByTen exponent).map fun x => if negative then x.neg else x

end Binary64

/-! ### Writing -/

/-- The positive decimal `digits * 10 ^ exponent`. -/
structure Decimal where
  digits : Nat
  exponent : Int
deriving DecidableEq, Inhabited

namespace Decimal

/-- A positive rational with the interval of rationals that round to it, over one denominator. -/
structure Rounding where
  value : Nat
  lower : Nat
  upper : Nat
  denominator : Nat
  /-- Whether the ends of the interval belong to it. -/
  closed : Bool

/-- The rounding interval of a positive finite number. Below a power of two the gap to the next smaller
number is half as wide; the ends round to the number exactly when its significand is even. -/
def Rounding.of (x : Binary64) : Rounding :=
  -- The ends lie a half or a quarter of the last place away, so quarters make them integers.
  let lowerGap := if x.significand = 0x10000000000000 ∧ 0x20000000000000 ≤ x.magnitude then 1 else 2
  let scale := 1 <<< (x.power - 2).toNat
  { value := 4 * x.significand * scale
    lower := (4 * x.significand - lowerGap) * scale
    upper := (4 * x.significand + 2) * scale
    denominator := 1 <<< (2 - x.power).toNat
    closed := x.significand % 2 == 0 }

/-- The same interval in units of `10 ^ exponent`. -/
def Rounding.inUnits (r : Rounding) (exponent : Int) : Rounding :=
  let finer := Nat.pow 10 (-exponent).toNat
  { r with
    value := r.value * finer
    lower := r.lower * finer
    upper := r.upper * finer
    denominator := r.denominator * Nat.pow 10 exponent.toNat }

def Rounding.contains (r : Rounding) (n : Nat) : Bool :=
  if r.closed then decide (r.lower ≤ n * r.denominator) && decide (n * r.denominator ≤ r.upper)
  else decide (r.lower < n * r.denominator) && decide (n * r.denominator < r.upper)

/-- The integer nearest to the value among its two neighbours that lie in the interval; of two equally
near ones the even one. -/
def Rounding.nearestInteger? (r : Rounding) : Option Nat :=
  let below := r.value / r.denominator
  let above := below + 1
  match r.contains below, r.contains above with
  | false, false => none
  | true, false => some below
  | false, true => some above
  | true, true =>
    let toBelow := r.value - below * r.denominator
    let toAbove := above * r.denominator - r.value
    some (if toBelow < toAbove ∨ (toBelow = toAbove ∧ below % 2 = 0) then below else above)

/-- Tries ever finer decimal grids; the first with a point in the interval gives the fewest digits. -/
def searchGrids (r : Rounding) : Nat → Int → Decimal
  | 0, exponent => ⟨(r.inUnits exponent).value / (r.inUnits exponent).denominator, exponent⟩
  | tries + 1, exponent =>
    match (r.inUnits exponent).nearestInteger? with
    | some digits => ⟨digits, exponent⟩
    | none => searchGrids r tries (exponent - 1)

end Decimal

namespace Binary64

/-- The decimal of fewest digits that reads back as the magnitude of a finite number other than zero, and
of those the nearest. Seventeen digits always suffice; the search starts two places above the first. -/
def shortest (x : Binary64) : Decimal :=
  -- 30103 / 100000 is just above the decimal logarithm of two.
  let leading : Int := ((x.significand.log2 : Int) + x.power) * 30103 / 100000
  Decimal.searchGrids (.of x) 20 (leading + 2)

/-- Positional notation is used below `10 ^ positionalLimit`. -/
def positionalLimit : Int := 16

/-- Positional notation is used from `10 ^ positionalLeast` on. -/
def positionalLeast : Int := -5

/-- The text of a finite number: the shortest digits, positional with at least one digit after the point
within `positionalLeast` and `positionalLimit`, else with a signed exponent and no needless fraction. -/
def toText (x : Binary64) : String :=
  let sign := if x.isNegative then "-" else ""
  if x.magnitude = 0 then sign ++ "0.0"
  else
    let decimal := x.shortest
    let digits := Nat.toDigits 10 decimal.digits
    let zeros (n : Int) : List Char := List.replicate n.toNat '0'
    let point := (digits.length : Int) + decimal.exponent
    let body : List Char :=
      if positionalLeast < point ∧ point ≤ positionalLimit then
        if 0 ≤ decimal.exponent then digits ++ zeros decimal.exponent ++ ['.', '0']
        else if 0 < point then digits.take point.toNat ++ '.' :: digits.drop point.toNat
        else '0' :: '.' :: zeros (-point) ++ digits
      else
        let fraction := digits.drop 1
        let exponent := point - 1
        digits.take 1 ++ (if fraction.isEmpty then [] else '.' :: fraction)
          ++ 'e' :: (if exponent < 0 then '-' else '+') :: Nat.toDigits 10 exponent.natAbs
    sign ++ String.ofList body

end Binary64

end PointStream
