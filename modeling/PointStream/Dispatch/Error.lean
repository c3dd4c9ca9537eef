import PointStream.Read.Argument
import PointStream.Scheduler.Basic

/-!
# Errors of requests

Every error is told to the client. A line that is too large and a failing connection also end it.
-/

namespace PointStream

inductive DispatchError where
  | malformed (reason : String)
  | invalidStructure (reason : String)
  | unknownCommand (name : String)
  | requestTooLarge (size limit : Nat)
  | io (reason : String)
  | serializeResponse (reason : String)
  | invocation (e : InvocationError)
  | notCreated
  | invalidSchema (reason : String)
deriving DecidableEq, Inhabited

namespace DispatchError

def message : DispatchError → String
  | malformed reason => "malformed JSONL: " ++ reason
  | invalidStructure reason => "invalid request structure: " ++ reason
  | unknownCommand name => "unknown command: " ++ name
  | requestTooLarge size limit => s!"request too large: {size} bytes exceeds {limit} byte limit"
  | io reason => "IO error: " ++ reason
  | serializeResponse reason => "failed to serialize response: " ++ reason
  | invocation e => e.message
  | notCreated => notCreatedText
  | invalidSchema reason => "source schema is not valid JSON: " ++ reason

/-- Whether the connection is closed after the error was told. -/
def isFatal : DispatchError → Bool
  | requestTooLarge .. | io _ => true
  | _ => false

end DispatchError

end PointStream
