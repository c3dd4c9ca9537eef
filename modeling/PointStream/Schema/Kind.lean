import PointStream.Text.Blank

/-!
# Kinds of dimensions

How the bytes of a field are to be understood, the names of the kinds, and the sizes each comes in.
-/

namespace PointStream

/-- The numeric interpretation of a field's bytes. -/
inductive DimensionKind where
  | signed
  | unsigned
  | floating
deriving DecidableEq, Inhabited

namespace DimensionKind

def name : DimensionKind → String
  | signed => "signed"
  | unsigned => "unsigned"
  | floating => "floating"

/-- The kind with one of its names, spelled exactly. -/
def ofName? (s : String) : Option DimensionKind :=
  if ["signed", "signed-int", "int"].contains s then some signed
  else if ["unsigned", "unsigned-int", "uint"].contains s then some unsigned
  else if ["floating", "float"].contains s then some floating
  else none

/-- The kind with one of its names, in any case of ASCII letters and with blanks around it. -/
def ofText? (s : String) : Option DimensionKind := ofName? (Text.trim s).toLower

/-- The sizes, in bytes, in which a kind has values. -/
def sizes : DimensionKind → List Nat
  | signed | unsigned => [1, 2, 4, 8]
  | floating => [4, 8]

def supportsSize (kind : DimensionKind) (size : Nat) : Bool := kind.sizes.contains size

@[simp] theorem ofName?_name (kind : DimensionKind) : ofName? kind.name = some kind := by
  cases kind <;> decide +kernel

end DimensionKind

end PointStream
