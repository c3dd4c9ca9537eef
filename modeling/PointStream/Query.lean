import PointStream.Number.Binary64

/-!
# Queries

A query selects points of a source: a range of positions, the levels of an implied quad tree, or a
neighbourhood.
-/

namespace PointStream

/-- A box in the plane with sides along the axes. -/
structure BoundingBox where
  xMin : Binary64
  yMin : Binary64
  xMax : Binary64
  yMax : Binary64
deriving DecidableEq, Inhabited

namespace BoundingBox

/-- Whether both maxima are at least their minima. -/
def isOrdered (b : BoundingBox) : Bool := b.xMin.le b.xMax && b.yMin.le b.yMax

/-- Whether a point lies in the box or on its border. -/
def contains (b : BoundingBox) (x y : Binary64) : Bool :=
  b.xMin.le x && x.le b.xMax && b.yMin.le y && y.le b.yMax

end BoundingBox

/-- Which points a read is about. -/
inductive Query where
  /-- At most `count` points from position `start` on. -/
  | range (start count : Nat)
  /-- The points on the levels from `depthBegin` up to, not including, `depthEnd`, inside a box if one is
  given. -/
  | quad (bounds : Option BoundingBox) (depthBegin depthEnd : Nat)
  /-- The points at most `radius` away from a centre, in the plane or in space. -/
  | radius (inSpace : Bool) (radius x y z : Binary64)
deriving DecidableEq, Inhabited

end PointStream
