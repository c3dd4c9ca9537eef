import PointStream.Json.Printer
import PointStream.Source.Basic
import PointStream.Source.Depth

/-!
# Sources in memory

A source that holds its points as rows of numbers, one column per native dimension. A query selects rows;
each is written as one record from the front of the buffer on, until a record does not fit.
-/

namespace PointStream

/-- The points of a source as rows of numbers. -/
structure MemorySource where
  dimensions : List Dimension
  rows : List (List Binary64)
deriving Inhabited

namespace MemorySource

/-- The first column whose dimension has a name, the case of ASCII letters aside. -/
def column? (m : MemorySource) (name : String) : Option Nat :=
  m.dimensions.findIdx? fun d => Text.sameIgnoringCase d.name name

/-- The column of an axis that a query needs. -/
def axis (m : MemorySource) (name : String) : Except SourceError Nat :=
  match m.column? name with
  | some column => .ok column
  | none => .error (.query s!"source has no '{name}' dimension")

/-- A number of a row; zero where the row is too short. -/
def value (row : List Binary64) (column : Nat) : Binary64 := row[column]?.getD .zero

/-! ### Selection -/

/-- The rows on the levels from `depthBegin` up to `depthEnd` that satisfy `inside`. -/
def selectLevels (m : MemorySource) (depthBegin depthEnd : Nat) (inside : List Binary64 → Bool) :
    List (List Binary64) :=
  (m.rows.zipIdx.filter fun (row, position) =>
    let depth := Depth.ofPosition position
    decide (depthBegin ≤ depth) && decide (depth < depthEnd) && inside row).map (·.1)

/-- The square of the distance of a row from a centre given by column and coordinate of each axis; a missing
third axis adds zero. -/
def squaredDistance (row : List Binary64) (x y : Nat × Binary64) (z : Option (Nat × Binary64)) :
    Binary64 :=
  let term (axis : Nat × Binary64) : Binary64 :=
    let distance := (value row axis.1).sub axis.2
    distance.mul distance
  ((term x).add (term y)).add (z.elim .zero term)

/-- The rows that a query selects, in the order of the source. -/
def select (m : MemorySource) : Query → Except SourceError (List (List Binary64))
  | .range start count => return (m.rows.drop start).take count
  | .quad none depthBegin depthEnd => return m.selectLevels depthBegin depthEnd fun _ => true
  | .quad (some bounds) depthBegin depthEnd => do
    let xAxis ← m.axis "X"
    let yAxis ← m.axis "Y"
    return m.selectLevels depthBegin depthEnd fun row =>
      bounds.contains (value row xAxis) (value row yAxis)
  | .radius inSpace radius x y z => do
    let xAxis ← m.axis "X"
    let yAxis ← m.axis "Y"
    let height ← if inSpace then (m.axis "Z").map fun zAxis => some (zAxis, z) else pure none
    return m.rows.filter fun row =>
      (squaredDistance row (xAxis, x) (yAxis, y) height).le (radius.mul radius)

/-! ### Records -/

/-- The fields of a record, each with the column that fills it, if the source has one. -/
def columns (m : MemorySource) (schema : Schema) : List (Dimension × Option Nat) :=
  schema.dimensions.map fun d => (d, m.column? d.name)

/-- The bytes of one field of a row: zeros without a column. -/
def field (row : List Binary64) : Dimension × Option Nat → List UInt8
  | (d, some column) => d.encode (value row column) d.size
  | (d, none) => List.replicate d.size 0

def record (columns : List (Dimension × Option Nat)) (row : List Binary64) : List UInt8 :=
  columns.flatMap (field row)

@[simp] theorem length_field (row : List Binary64) (column : Dimension × Option Nat) :
    (field row column).length = column.1.size := by
  unfold field
  split <;> simp

@[simp] theorem length_record (m : MemorySource) (schema : Schema) (row : List Binary64) :
    (record (m.columns schema) row).length = schema.stride := by
  unfold record columns Schema.stride
  induction schema.dimensions with
  | nil => rfl
  | cons d dimensions ih => simp [ih]

/-- Writes records of `stride` bytes into what is left of a buffer of `available` bytes: `front` holds the
bytes written so far, last first, and `rest` the `room` bytes behind them. -/
def fillFrom (record : List Binary64 → List UInt8) (stride available : Nat) :
    (written : Nat) → (front : List UInt8) → (room : Nat) → (rest : List UInt8) →
      List (List Binary64) → Filling
  | written, front, _, rest, [] => ⟨front.reverse ++ rest, .returned (.ok written)⟩
  | written, front, room, rest, row :: rows =>
    if stride ≤ room then
      fillFrom record stride available (written + 1) ((record row).reverse ++ front) (room - stride)
        (rest.drop stride) rows
    else
      -- The records that were written stay, and the message tells what one more would have needed.
      let error := .bufferTooSmall ((written + 1) * stride) available
      ⟨front.reverse ++ rest, .returned (.error error)⟩

theorem length_fillFrom {record : List Binary64 → List UInt8} {stride : Nat}
    (h : ∀ row, (record row).length = stride) (available written : Nat) (front rest : List UInt8)
    (rows : List (List Binary64)) :
    (fillFrom record stride available written front rest.length rest rows).buffer.length
      = front.length + rest.length := by
  induction rows generalizing written front rest with
  | nil => simp [fillFrom]
  | cons row rows ih =>
    unfold fillFrom
    split
    next fits =>
      have := ih (written + 1) ((record row).reverse ++ front) (rest.drop stride)
      rw [List.length_drop] at this
      rw [this, List.length_append, List.length_reverse, h]
      omega
    next => simp

/-- Writes the records of rows from the front of a buffer on. -/
def fill (m : MemorySource) (schema : Schema) (buffer : List UInt8) (rows : List (List Binary64)) :
    Filling :=
  fillFrom (record (m.columns schema)) schema.stride buffer.length 0 [] buffer.length buffer rows

/-- Answers a query. When it cannot be evaluated the buffer stays as it is. -/
def read (m : MemorySource) (schema : Schema) (query : Query) (buffer : List UInt8) : Filling :=
  match m.select query with
  | .ok rows => m.fill schema buffer rows
  | .error e => ⟨buffer, .returned (.error e)⟩

theorem length_read (m : MemorySource) (schema : Schema) (query : Query) (buffer : List UInt8) :
    (m.read schema query buffer).buffer.length = buffer.length := by
  unfold read
  split
  · simp [fill, length_fillFrom (m.length_record schema)]
  · rfl

/-! ### As a source -/

/-- The native dimensions as a JSON document. -/
def schemaJson (m : MemorySource) : Json :=
  .ofMembers [("dimensions", .array (m.dimensions.map Dimension.toJson))]

def toSource (m : MemorySource) : Source where
  numPoints := m.rows.length
  dimensions := m.dimensions
  schemaText := m.schemaJson.toText
  answer _ := m.read
  length_answer _ := m.length_read

end MemorySource

end PointStream
