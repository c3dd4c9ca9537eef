import PointStream.Source.Memory

/-!
# Pipeline documents

A pipeline is a JSON document that declares dimensions and carries the points inline, one row of numbers for
each point.
-/

namespace PointStream

/-- A pipeline document as it is written. -/
structure Pipeline where
  dimensions : List Dimension
  points : List (List Binary64)
deriving Inhabited

namespace Pipeline

inductive Flaw where
  | malformed
  | unsupportedDimension (d : Dimension)
  | noDimensions
  /-- The row at a position has another number of values than there are dimensions. -/
  | rowWidth (position found expected : Nat)

namespace Flaw

def message : Flaw → String
  | malformed => Json.undisclosed
  | unsupportedDimension d => s!"dimension '{d.name}' cannot be {d.size} bytes of type {d.kind.name}"
  | noDimensions => "no dimensions declared"
  | rowWidth position found expected => s!"point {position} has {found} values, expected {expected}"

end Flaw

/-- Reads a document; the points may be left out. -/
def ofTree? (t : Json.Tree) : Option Pipeline := do
  let depth := Json.nestingLimit
  let [some dimensions, points] ← t.record? ["dimensions", "points"] depth | none
  let dimensions ← dimensions.items? Dimension.ofTree? (depth - 1)
  let points ← match points with
    | none => some []
    | some points => points.items? (Json.Tree.items? fun _ => Json.Tree.binary64?) (depth - 1)
  return { dimensions, points }

/-- The first flaw of a document: of its dimensions, then of its rows. -/
def flaw? (p : Pipeline) : Option Flaw :=
  match p.dimensions.find? (!·.isSupported) with
  | some d => some (.unsupportedDimension d)
  | none =>
    let expected := p.dimensions.length
    if expected = 0 then some .noDimensions
    else
      (p.points.zipIdx.find? fun (row, _) => row.length != expected).map fun (row, position) =>
        .rowWidth position row.length expected

/-- The source that a pipeline text describes. -/
def load (text : String) : Except Flaw MemorySource :=
  match Json.Tree.ofString? text >>= ofTree? with
  | none => .error .malformed
  | some p =>
    match p.flaw? with
    | some flaw => .error flaw
    | none => .ok ⟨p.dimensions, p.points⟩

/-- Opens pipelines that carry their points inline. -/
def provider : Provider where
  openSource text := .returned <|
    match load text with
    | .ok m => .ok m.toSource
    | .error flaw => .error (.invalidPipeline flaw.message)
  validate text := .returned <|
    match load text with
    | .ok _ => .ok ()
    | .error flaw => .error (.invalidPipeline flaw.message)

end Pipeline

end PointStream
