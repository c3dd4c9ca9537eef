/-!
# Binary64 numbers

A number is kept as its 64-bit interchange word. Order, truncation and rounding are computed from
the word in exact integer arithmetic, so every statement about them is one about integers.

Every operation that can be inexact is exact arithmetic followed by one rounding to nearest, ties to
even (`Layout.round`).
-/

namespace PointStream

/-- A binary interchange format: how many significant bits it keeps, how wide its exponent field is,
and the power of two of its least subnormal. -/
structure Layout where
  precision : Nat
  exponentWidth : Nat
  leastPower : Int

namespace Layout

def double : Layout := ⟨53, 11, -1074⟩

def single : Layout := ⟨24, 8, -149⟩

/-- The magnitude word of infinity: all exponent bits set, no fraction bit. -/
def infinity (l : Layout) : Nat := (1 <<< l.exponentWidth - 1) <<< (l.precision - 1)

/-- The quotient nearest to `num / den`; a half goes to the even neighbour. -/
def nearestQuotient (num den : Nat) : Nat :=
  let quotient := num / den
  let twice := 2 * (num % den)
  if twice < den then quotient
  else if den < twice then quotient + 1
  else quotient + quotient % 2

/-- The magnitude word nearest to `num / den * 2 ^ power`, for positive `den`.

The unit of the last place is chosen so that the quotient has `precision` bits, or is the least
power of the format for subnormals. Counting units from the least power makes the carry of the
rounding run into the exponent field by itself. -/
def round (l : Layout) (num den : Nat) (power : Int) : Nat :=
  if num = 0 then 0
  else
    let estimate : Int := (num.log2 : Int) - (den.log2 : Int) + power - l.precision
    let unit := max l.leastPower estimate
    let scaled (unit : Int) : Nat × Nat :=
      let shift := power - unit
      if 0 ≤ shift then (num <<< shift.toNat, den) else (num, den <<< (-shift).toNat)
    let (n, d) := scaled unit
    -- The estimate may be one too small, which shows in a quotient of one bit too many.
    let (unit, n, d) := if n / d < 1 <<< l.precision then (unit, n, d) else (unit + 1, scaled (unit + 1))
    let word := (unit - l.leastPower).toNat <<< (l.precision - 1) + nearestQuotient n d
    min word l.infinity

end Layout

/-- A binary64 number, given by its interchange word. -/
structure Binary64 where
  bits : UInt64
deriving DecidableEq, Inhabited

namespace Binary64

/-- The word without its sign bit. Words of numbers that are not NaN are ordered as the magnitudes. -/
def magnitude (x : Binary64) : Nat := x.bits.toNat % 0x8000000000000000

def isNegative (x : Binary64) : Bool := decide (0x8000000000000000 ≤ x.bits.toNat)

def isNaN (x : Binary64) : Bool := decide (Layout.double.infinity < x.magnitude)

def isInfinite (x : Binary64) : Bool := decide (x.magnitude = Layout.double.infinity)

def isFinite (x : Binary64) : Bool := decide (x.magnitude < Layout.double.infinity)

/-- The number with this sign and magnitude word. -/
def ofMagnitude (negative : Bool) (magnitude : Nat) : Binary64 :=
  ⟨UInt64.ofNat (magnitude % 0x8000000000000000 + if negative then 0x8000000000000000 else 0)⟩

def zero : Binary64 := ⟨0⟩

/-- The not-a-number that arithmetic produces. -/
def nan : Binary64 := ⟨0x7ff8000000000000⟩

def infinity (negative : Bool) : Binary64 := ofMagnitude negative Layout.double.infinity

/-- The integer significand of a finite number: its magnitude is `significand * 2 ^ power`. -/
def significand (x : Binary64) : Nat :=
  if x.magnitude < 0x10000000000000 then x.magnitude
  else x.magnitude % 0x10000000000000 + 0x10000000000000

/-- The power of two of a finite number's significand. -/
def power (x : Binary64) : Int := max 1 (x.magnitude >>> 52 : Nat) - 1075

/-! ### Order -/

/-- An integer that orders all numbers but NaN; both zeros get 0. -/
def orderKey (x : Binary64) : Int :=
  if x.isNegative then -(x.magnitude : Int) else x.magnitude

/-- `x ≤ y` as numbers; never true of NaN. -/
def le (x y : Binary64) : Bool := !x.isNaN && !y.isNaN && decide (x.orderKey ≤ y.orderKey)

/-- `x < y` as numbers; never true of NaN. -/
def lt (x y : Binary64) : Bool := !x.isNaN && !y.isNaN && decide (x.orderKey < y.orderKey)

/-! ### Integers -/

/-- The integer part of a finite number, toward zero. -/
def truncate (x : Binary64) : Int :=
  let whole : Nat :=
    if 0 ≤ x.power then x.significand <<< x.power.toNat else x.significand >>> (-x.power).toNat
  if x.isNegative then -(whole : Int) else whole

def isIntegral (x : Binary64) : Bool :=
  decide (0 ≤ x.power ∨ x.significand % 1 <<< (-x.power).toNat = 0)

/-- The integer that a number is, when it is one. -/
def toInt? (x : Binary64) : Option Int :=
  if x.isFinite && x.isIntegral then some x.truncate else none

/-- Truncation into the interval `lo .. hi`: NaN gives 0, what lies outside gives the nearer end. -/
def clamp (lo hi : Int) (x : Binary64) : Int :=
  if x.isNaN then 0
  else if x.isInfinite then (if x.isNegative then lo else hi)
  else max lo (min hi x.truncate)

/-! ### Rounding and arithmetic -/

/-- The number nearest to `±num * 2 ^ power`. -/
def ofDyadic (negative : Bool) (num : Nat) (power : Int) : Binary64 :=
  ofMagnitude negative (Layout.double.round num 1 power)

/-- The number nearest to `±num / den`, for positive `den`. -/
def ofRatio (negative : Bool) (num den : Nat) : Binary64 :=
  ofMagnitude negative (Layout.double.round num den 0)

def ofInt (n : Int) : Binary64 := ofDyadic (decide (n < 0)) n.natAbs 0

def neg (x : Binary64) : Binary64 := ofMagnitude (!x.isNegative) x.magnitude

def mul (x y : Binary64) : Binary64 :=
  let negative := x.isNegative != y.isNegative
  if x.isNaN || y.isNaN then nan
  else if x.isInfinite || y.isInfinite then
    if x.magnitude = 0 || y.magnitude = 0 then nan else infinity negative
  else ofDyadic negative (x.significand * y.significand) (x.power + y.power)

def div (x y : Binary64) : Binary64 :=
  let negative := x.isNegative != y.isNegative
  if x.isNaN || y.isNaN then nan
  else if x.isInfinite then if y.isInfinite then nan else infinity negative
  -- From here on `x` is finite.
  else if y.isInfinite then ofMagnitude negative 0
  else if y.magnitude = 0 then if x.magnitude = 0 then nan else infinity negative
  else ofMagnitude negative (Layout.double.round x.significand y.significand (x.power - y.power))

/-- A sum that is exactly zero is negative only if both terms are. -/
def add (x y : Binary64) : Binary64 :=
  if x.isNaN || y.isNaN then nan
  else if x.isInfinite then
    if y.isInfinite && x.isNegative != y.isNegative then nan else infinity x.isNegative
  else if y.isInfinite then infinity y.isNegative
  else
    -- Both terms are integers in units of the smaller power, so the sum is exact before it is rounded.
    let unit := min x.power y.power
    let term (z : Binary64) : Int :=
      let whole : Int := (z.significand <<< (z.power - unit).toNat : Nat)
      if z.isNegative then -whole else whole
    let sum := term x + term y
    if sum = 0 then ofMagnitude (x.isNegative && y.isNegative) 0
    else ofDyadic (decide (sum < 0)) sum.natAbs unit

def sub (x y : Binary64) : Binary64 := x.add y.neg

/-- The 32-bit word nearest to a number. NaN keeps its sign and the top of its payload. -/
def toSingleBits (x : Binary64) : UInt32 :=
  let magnitude :=
    if x.isNaN then Layout.single.infinity + 0x400000 + x.magnitude >>> 29 % 0x400000
    else if x.isInfinite then Layout.single.infinity
    else Layout.single.round x.significand 1 x.power
  UInt32.ofNat (magnitude + if x.isNegative then 0x80000000 else 0)

end Binary64

end PointStream
