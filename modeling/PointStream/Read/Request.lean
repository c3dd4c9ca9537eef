import PointStream.Json.Printer
import PointStream.Query
import PointStream.Read.Argument
import PointStream.Schema.Basic

/-!
# Read requests

The positional arguments of a read are a host, a port and a schema, followed by one of three shapes: `start,
count` for a range, `bounds or null, depth begin, depth end` for levels of the quad tree, and `in space,
radius, x, y, z` for a neighbourhood. The shapes are tried in this order.
-/

namespace PointStream

structure ReadRequest where
  host : String
  port : Nat
  schema : Schema
  query : Query
deriving DecidableEq, Inhabited

inductive Refusal where
  | hostPortRequired
  | unidentified
  | invalidStart
  | invalidCoordinates
  | invalidCoordinateTypes
  | invalidRadius
deriving DecidableEq, Inhabited

namespace Refusal

def message : Refusal → String
  | hostPortRequired => "Host, port, and callback must be supplied"
  | unidentified => "Could not identify 'read' from args"
  | invalidStart => "Invalid 'start' in 'read' request"
  | invalidCoordinates => "Invalid coords in query"
  | invalidCoordinateTypes => "Invalid coord types in query"
  | invalidRadius => "Invalid 'radius' in 'read' request"

end Refusal

/-- An entry of a schema that is dropped. -/
inductive DroppedEntry where
  /-- It gives no positive size. -/
  | unsized (name : String)
  /-- It gives no known type, or a size in which its type has no values. -/
  | unsupported (name : String) (size : Nat)
deriving DecidableEq, Inhabited

namespace ReadRequest

/-- The integer below `2 ^ 32` that a value is, however it is written. -/
def integer? : Json → Option Nat
  | .number n =>
    match n.toInt? with
    | some i => if 0 ≤ i ∧ i < UInt32.size then some i.toNat else none
    | none => none
  | _ => none

/-! ### Schemas -/

/-- The size of a dimension, given as a number or as text. -/
def size? : Json → Option Nat
  | .string s => Text.readNatural? UInt64.size (Text.trim s)
  | v => integer? v

/-- The name of a dimension: a text stands for itself, any other value for its JSON text. -/
def nameOf : Option Json → String
  | some (.string name) => name
  | some v => v.toText
  | none => ""

/-- The dimension that an entry of a schema asks for; none unless it has a known type and one of its sizes. -/
def dimension? : Json → Option Dimension
  | .object members => do
    let size ← size? (← Json.member? "size" members)
    let .string type ← Json.member? "type" members | none
    let d : Dimension := ⟨nameOf (Json.member? "name" members), ← DimensionKind.ofText? type, size⟩
    if d.isSupported then some d else none
  | _ => none

/-- The entries of a schema argument. -/
def entriesOf (members : List (String × Json)) : List Json :=
  match Json.member? "dimensions" members with
  | some (.array entries) => entries
  | _ => []

/-- The schema that an argument asks for. Entries that ask for no dimension are dropped. -/
def schemaOf (members : List (String × Json)) : Schema := ⟨(entriesOf members).filterMap dimension?⟩

/-- Why an entry is dropped, if it is an object that asks for no dimension. -/
def dropped? (entry : Json) : Option DroppedEntry :=
  match entry with
  | .object members =>
    let name := nameOf (Json.member? "name" members)
    match (Json.member? "size" members >>= size?).filter (0 < ·) with
    | none => some (.unsized name)
    | some size => if (dimension? entry).isSome then none else some (.unsupported name size)
  | _ => none

/-! ### Queries -/

/-- A range; it must start at a point of the source. -/
def rangeOf (start count total : Nat) : Except Refusal Query :=
  if total ≤ start then .error .invalidStart else .ok (.range start count)

/-- The bounds that an argument gives: none when it is absent or null. Of an array the first four items
count. -/
def boundsOf : Option Json → Except Refusal (Option BoundingBox)
  | some (.array (xMin :: yMin :: xMax :: yMax :: _)) =>
    if [xMin, yMin, xMax, yMax].all Json.isNumber then
      let box : BoundingBox := ⟨xMin.toBinary64, yMin.toBinary64, xMax.toBinary64, yMax.toBinary64⟩
      if box.isOrdered then .ok (some box) else .error .invalidCoordinates
    else .error .invalidCoordinateTypes
  | some (.array _) => .error .unidentified
  | some .null | none => .ok none
  | some _ => .error .unidentified

/-- Levels of the quad tree, inside the bounds if there are any. -/
def quadOf (box : Option Json) (depthBegin depthEnd : Nat) : Except Refusal Query :=
  (boundsOf box).map fun box => .quad box depthBegin depthEnd

/-- A neighbourhood; the radius must not be negative. -/
def radiusOf (inSpace : Bool) (r x y z : Json) : Except Refusal Query :=
  if [r, x, y, z].all Json.isNumber then
    if r.toBinary64.lt .zero then .error .invalidRadius
    else .ok (.radius inSpace r.toBinary64 x.toBinary64 y.toBinary64 z.toBinary64)
  else .error .unidentified

/-- The query of the arguments after host, port and schema, none being a callback in its place. -/
def queryOf (total : Nat) : List (Option Json) → Except Refusal Query
  | [some start, some count] =>
    match integer? start, integer? count with
    | some start, some count => rangeOf start count total
    | _, _ => .error .unidentified
  | [box, some depthBegin, some depthEnd] =>
    match integer? depthBegin, integer? depthEnd with
    | some depthBegin, some depthEnd => quadOf box depthBegin depthEnd
    | _, _ => .error .unidentified
  | [some (.bool inSpace), some r, some x, some y, some z] => radiusOf inSpace r x y z
  | _ => .error .unidentified

/-- The host, the port and the members of the schema, which come first, and the arguments behind them. -/
def split? (positional : List Argument) :
    Option (String × Nat × List (String × Json) × List (Option Json)) :=
  match positional.map Argument.value? with
  | some (.string host) :: some port :: some (.object schema) :: rest =>
    match integer? port with
    | some port => if port < UInt16.size then some (host, port, schema, rest) else none
    | none => none
  | _ => none

/-- The request of positional arguments to a source that holds `total` points. -/
def decode (total : Nat) (positional : List Argument) : Except Refusal ReadRequest :=
  match split? positional with
  | some (host, port, schema, rest) =>
    (queryOf total rest).map fun query => ⟨host, port, schemaOf schema, query⟩
  | none => .error .hostPortRequired

def dropped (positional : List Argument) : List DroppedEntry :=
  match split? positional with
  | some (_, _, schema, _) => (entriesOf schema).filterMap dropped?
  | none => []

end ReadRequest

end PointStream
