import PointStream.Read.Argument
import PointStream.Transmit.Transmission

/-!
# What a running scheduler shows

Answers given to callbacks, reports of how reads go, and calls to consumers. Answers and reports come from the
control thread, calls to consumers from the workers.
-/

namespace PointStream

/-- A stage in the life of a read. -/
inductive Report where
  /-- Refused before anything was queued. -/
  | readRejected (reason : String)
  | readAccepted (generation numPoints numBytes : Nat)
  | readFailed (generation : Nat) (error : String)
  | transmitStarted (generation : Nat) (host : String) (port numBytes : Nat)
  | transmitFinished (generation : Nat) (outcome : Outcome)
deriving DecidableEq, Inhabited

/-- What a callback is told. -/
inductive Answer where
  | opened (result : Except String Unit)
  | validated (result : Except String Unit)
  | read (response : ReadResponse)
deriving Inhabited

/-- A detail of how a job of the control thread goes. -/
inductive Note where
  /-- A session gets a source of so many points. -/
  | sourceOpened (numPoints : Nat)
  | entryDropped (entry : DroppedEntry)
  | readRefused (r : Rejection)
  /-- A query is handed to the workers. -/
  | queryQueued (generation : Nat) (query : Query) (capacity : Nat)
deriving DecidableEq, Inhabited

/-- One thing that a running scheduler shows. -/
inductive Event where
  | answered (session : Nat) (callback : Callback) (answer : Answer)
  | reported (session : Nat) (report : Report)
  | noted (session : Nat) (note : Note)
  | contacted (session generation : Nat) (contact : Contact)
deriving Inhabited

end PointStream
