import PointStream.Schema.Dimension

/-!
# Schemas

A schema lists the fields of a point record in the order they are written.
-/

namespace PointStream

structure Schema where
  dimensions : List Dimension
deriving DecidableEq, Inhabited

namespace Schema

/-- The schema without fields, which stands for every field of a source. -/
def empty : Schema := ⟨[]⟩

def isEmpty (s : Schema) : Bool := s.dimensions.isEmpty

/-- How many bytes one record takes. -/
def stride (s : Schema) : Nat := s.dimensions.foldr (fun d bytes => d.size + bytes) 0

theorem stride_eq_sum (s : Schema) : s.stride = (s.dimensions.map (·.size)).foldr (· + ·) 0 :=
  List.foldr_map.symm

/-- The schema itself, or the native dimensions of a source when it is empty. -/
def orNative (s : Schema) (native : List Dimension) : Schema := if s.isEmpty then ⟨native⟩ else s

end Schema

end PointStream
