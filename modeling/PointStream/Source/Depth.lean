/-!
# Depth of a point

The order of the points implies a quad tree: its level `d` holds `4 ^ d` points and begins where the levels
above it end. Positions are 64-bit words, so level bounds are computed with additions and products that
stop at the greatest word.
-/

namespace PointStream.Depth

/-- The greatest 64-bit word. -/
def wordMax : Nat := 0xFFFFFFFFFFFFFFFF

/-- Looks for the level of a position from the level that begins at `start` and holds `size` points; none if
`levels` levels were not enough. -/
def search (position : Nat) : (levels start size depth : Nat) → Option Nat
  | 0, _, _, _ => none
  | levels + 1, start, size, depth =>
    let next := min wordMax (start + size)
    if next ≤ position then search position levels next (min wordMax (size * 4)) (depth + 1)
    else some depth

/-- More levels than a 64-bit position can lie below. -/
def levelLimit : Nat := 64

/-- The level that holds the point at a position. -/
def ofPosition (position : Nat) : Nat := (search position levelLimit 0 1 0).getD levelLimit

end PointStream.Depth
