import PointStream.Json.Reader
import PointStream.Number.Binary64
import PointStream.Schema.Kind

/-!
# Dimensions

A dimension is one named, typed and sized field of a point record. A value is written into such a field as
little-endian bytes: truncated and clamped to the range of an integer kind, rounded to a floating one.
-/

namespace PointStream

/-- The `width` low bytes of a number, the lowest first. -/
def littleEndian : (width : Nat) → Nat → List UInt8
  | 0, _ => []
  | width + 1, n => UInt8.ofNat (n % 256) :: littleEndian width (n / 256)

@[simp] theorem length_littleEndian (width n : Nat) : (littleEndian width n).length = width := by
  induction width generalizing n with
  | zero => rfl
  | succ width ih => simp [littleEndian, ih]

/-- One field of a point record. -/
structure Dimension where
  name : String
  kind : DimensionKind
  size : Nat
deriving DecidableEq, Inhabited

namespace Dimension

def isSupported (d : Dimension) : Bool := d.kind.supportsSize d.size

/-- The bytes of a value in a supported dimension. An integer is the truncated value, clamped to the range
of the kind and taken modulo the width, which is two's complement for a signed kind. -/
def valueBytes (d : Dimension) (x : Binary64) : List UInt8 :=
  let width := 8 * d.size
  match d.kind with
  | .signed =>
    littleEndian d.size
      (x.clamp (-(1 <<< (width - 1) : Nat)) ((1 <<< (width - 1) : Nat) - 1) % (1 <<< width : Nat)).toNat
  | .unsigned => littleEndian d.size (x.clamp 0 ((1 <<< width : Nat) - 1)).toNat
  | .floating => littleEndian d.size (if d.size = 4 then x.toSingleBits.toNat else x.bits.toNat)

/-- The bytes that a value leaves in a field of `width` bytes. A field of another width than the dimension's,
and one of a size without values, is filled with zeros. -/
def encode (d : Dimension) (x : Binary64) (width : Nat) : List UInt8 :=
  if width = d.size ∧ d.isSupported then d.valueBytes x else List.replicate width 0

@[simp] theorem length_encode (d : Dimension) (x : Binary64) (width : Nat) :
    (d.encode x width).length = width := by
  unfold encode
  split
  next h =>
    unfold valueBytes
    split <;> simp [h.1]
  next => simp

/-! ### As JSON -/

def toJson (d : Dimension) : Json :=
  .ofMembers [("name", .string d.name), ("type", .string d.kind.name), ("size", .ofNat d.size)]

/-- Reads a description inside which at most `depth` brackets are open at once. -/
def ofTree? (depth : Nat) (t : Json.Tree) : Option Dimension := do
  let [some name, some kind, some size] ← t.record? ["name", "type", "size"] depth | none
  return {
    name := ← name.text?
    kind := ← DimensionKind.ofName? (← kind.variant? (depth - 1))
    size := ← size.natural? UInt64.size }

/-- Reads a description from JSON text. -/
def ofText? (s : String) : Option Dimension := do
  (← Json.Tree.ofString? s) |> ofTree? Json.nestingLimit

end Dimension

end PointStream
