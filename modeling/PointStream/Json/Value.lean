import PointStream.Number.Decimal

/-!
# JSON values

A number keeps how it was written: as a natural number, as a negative integer, or as a binary64 number.
The members of an object are sorted by name, each name once.
-/

namespace PointStream

namespace Json

/-- A number in one of three classes. -/
inductive Number where
  | natural (n : UInt64)
  | negative (n : Int64)
  | real (x : Binary64)
deriving DecidableEq, Inhabited

/-- The binary64 number nearest to a number of any class. -/
def Number.toBinary64 : Number → Binary64
  | .natural n => .ofInt n.toNat
  | .negative n => .ofInt n.toInt
  | .real x => x

/-- The integer that a number is exactly, when it is one. -/
def Number.toInt? : Number → Option Int
  | .natural n => some n.toNat
  | .negative n => some n.toInt
  | .real x => x.toInt?

end Json

inductive Json where
  | null
  | bool (b : Bool)
  | number (n : Json.Number)
  | string (s : String)
  | array (items : List Json)
  | object (members : List (String × Json))
deriving Inhabited

namespace Json

def isNumber : Json → Bool
  | .number _ => true
  | _ => false

def toBinary64 : Json → Binary64
  | .number n => n.toBinary64
  | _ => .zero

def member? (name : String) : List (String × Json) → Option Json
  | [] => none
  | (other, value) :: rest => if other = name then some value else member? name rest

/-- Keeps the last of neighbouring members with one name. -/
def keepLast : List (String × Json) → List (String × Json)
  | [] => []
  | [member] => [member]
  | first :: second :: rest =>
    if first.1 = second.1 then keepLast (second :: rest) else first :: keepLast (second :: rest)

/-- The object of members in the order they were written: sorted by name, the last of each name. -/
def ofMembers (members : List (String × Json)) : Json :=
  .object (keepLast (members.mergeSort fun a b => decide (a.1 ≤ b.1)))

def ofNat (n : Nat) : Json := .number (.natural (UInt64.ofNat n))

end Json

end PointStream
