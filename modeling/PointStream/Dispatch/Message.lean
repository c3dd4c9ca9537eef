import PointStream.Dispatch.Error
import PointStream.Json.Printer
import PointStream.Text.Utf8

/-!
# Messages to clients

Each message is one JSON object on a line of its own, with its kind as the first member. No JSON text holds a
line feed, so lines are messages.
-/

namespace PointStream

inductive Message where
  /-- Outcome of `create`, with the reason if it failed. -/
  | created (error : Option String)
  /-- Outcome of `parse`, with the reason if it failed. -/
  | parsed (error : Option String)
  | destroyed
  | numPoints (value : Nat)
  | schema (v : Json)
  | accepted (numPoints numBytes : Nat)
  | rejected (error : String)
  | cancelled (found : Bool)
  | error (message : String)
deriving Inhabited

namespace Message

def kind : Message → String
  | created _ => "created"
  | parsed _ => "parsed"
  | destroyed => "destroyed"
  | numPoints _ => "num_points"
  | schema _ => "schema"
  | accepted .. => "accepted"
  | rejected _ => "rejected"
  | cancelled _ => "cancelled"
  | error _ => "error"

def fields : Message → List (String × Json)
  | created e | parsed e => [("error", e.elim .null .string)]
  | destroyed => []
  | numPoints value => [("value", .ofNat value)]
  | schema v => [("schema", v)]
  | accepted points bytes =>
    [("error", .null), ("num_points", .ofNat points), ("num_bytes", .ofNat bytes)]
  | rejected e => [("error", .string e)]
  | cancelled found => [("cancelled", .bool found)]
  | error message => [("message", .string message)]

def text (m : Message) : String := Json.recordText (("kind", .string m.kind) :: m.fields)

def ofError (e : DispatchError) : Message := error e.message

def ofResponse : ReadResponse → Message
  | .accepted points bytes => accepted points bytes
  | .rejected reason => rejected reason

def reason? : Except String Unit → Option String
  | .ok () => none
  | .error reason => some reason

def ofAnswer : Answer → Message
  | .opened result => created (reason? result)
  | .validated result => parsed (reason? result)
  | .read response => ofResponse response

end Message

end PointStream
