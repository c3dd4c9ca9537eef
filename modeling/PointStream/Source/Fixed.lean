import PointStream.Source.Basic

/-!
# Sources with a fixed answer

A source that answers every query in the same way, whatever it asks for. It stands for sources that
misreport their counts, fail or are aborted.
-/

namespace PointStream

/-- The answer that a fixed source gives. -/
inductive FixedAnswer where
  | aborts
  | fails (e : SourceError)
  /-- Reports a count of points, after writing that many records' bytes as far as the buffer goes. -/
  | counts (n : Nat)

namespace FixedAnswer

/-- The byte that a fixed source writes at a place. -/
def patternByte (place : Nat) : UInt8 := UInt8.ofNat (place % 251)

/-- Overwrites the first `n` bytes of a buffer with the pattern. -/
def overwrite (n : Nat) (buffer : List UInt8) : List UInt8 :=
  let written := min n buffer.length
  (List.range written).map patternByte ++ buffer.drop written

def fill (a : FixedAnswer) (schema : Schema) (buffer : List UInt8) : Filling :=
  match a with
  | aborts => ⟨buffer, .aborted⟩
  | fails e => ⟨buffer, .returned (.error e)⟩
  | counts n => ⟨overwrite (n * schema.stride) buffer, .returned (.ok n)⟩

theorem length_fill (a : FixedAnswer) (schema : Schema) (buffer : List UInt8) :
    (a.fill schema buffer).buffer.length = buffer.length := by
  cases a
  case counts n =>
    simp only [fill, overwrite, List.length_append, List.length_map, List.length_range,
      List.length_drop]
    omega
  all_goals rfl

def toSource (a : FixedAnswer) (numPoints : Nat) (dimensions : List Dimension) (schemaText : String) :
    Source where
  numPoints := numPoints
  dimensions := dimensions
  schemaText := schemaText
  answer _ schema _ buffer := a.fill schema buffer
  length_answer _ schema _ buffer := a.length_fill schema buffer

end FixedAnswer

end PointStream
