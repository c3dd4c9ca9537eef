import PointStream.Json.Value

/-!
# Arguments of a read

A read is invoked with a loosely typed list whose last item is the callback that takes the answer.
-/

namespace PointStream

/-- The answer to a read: refused or failed, or about to stream. -/
inductive ReadResponse where
  | accepted (numPoints numBytes : Nat)
  | rejected (reason : String)
deriving DecidableEq, Inhabited

/-- A completion handle: the recipient whom the answer goes to, and whether taking the answer is aborted
afterwards. -/
structure Callback where
  recipient : Nat
  aborts : Bool := false
deriving DecidableEq, Inhabited

inductive Argument where
  | value (v : Json)
  | callback (c : Callback)
deriving Inhabited

/-- Why a call cannot be answered through its callback. -/
inductive InvocationError where
  | missingCallback
  | stopped
deriving DecidableEq, Inhabited

namespace InvocationError

def message : InvocationError → String
  | missingCallback => "the last argument of 'read' must be a callback"
  | stopped => "session runtime has stopped"

end InvocationError

namespace Argument

/-- The value of an argument; a callback has none. -/
def value? : Argument → Option Json
  | value v => some v
  | callback _ => none

/-- Takes the callback off the end of a list of arguments. -/
def splitCallback (arguments : List Argument) :
    Except InvocationError (List Argument × Callback) :=
  match arguments.getLast? with
  | some (.callback c) => .ok (arguments.dropLast, c)
  | _ => .error .missingCallback

end Argument

end PointStream
