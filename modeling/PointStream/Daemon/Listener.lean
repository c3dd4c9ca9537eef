import PointStream.Host.Machine
import PointStream.Log.Record

/-!
# Listeners

A listener takes connections on an endpoint that it has bound. It numbers them, and each is served by a thread
of its own. Whoever drops a listener releases its endpoint.
-/

namespace PointStream

structure Listener where
  endpoint : Endpoint
  bound : Bound
  accepted : Nat := 0
deriving Inhabited

namespace Listener

def bind (m : Machine) (endpoint : Endpoint) : Except ListenerError (Machine × Listener) := do
  let (m, bound) ← m.bind endpoint
  return (m, { endpoint, bound })

/-- Whether those who connect to a socket are the listener's. -/
def serves (l : Listener) (socket : Nat) : Bool :=
  match l.bound with
  | .unix _ own => own == socket
  | .tcp .. => false

def peer (l : Listener) : String :=
  match l.bound with
  | .unix .. => "unix"
  | .tcp .. => "tcp:unknown"

/-- Takes a connection. The result tells its number. -/
def accept (l : Listener) : Listener × Nat := ({ l with accepted := l.accepted + 1 }, l.accepted)

def release (l : Listener) (m : Machine) : Machine := m.release l.bound

def endpointField (l : Listener) : String × Json := ("endpoint", .string l.endpoint.toText)

def acceptedField (l : Listener) : String × Json := ("accepted", .ofNat l.accepted)

def started (l : Listener) : LogEntry :=
  ⟨.accept, .info, .transport, "accepting connections", [l.endpointField]⟩

def taken (l : Listener) (number : Nat) : LogEntry :=
  ⟨.accept, .debug, .transport, "connection accepted",
    [("connection", .ofNat number), ("peer", .string l.peer)]⟩

def stopped (l : Listener) : LogEntry :=
  ⟨.accept, .info, .transport, "stopped accepting", [l.endpointField, l.acceptedField]⟩

def joined (l : Listener) : LogEntry :=
  ⟨.main, .debug, .transport, "accept thread joined", [l.acceptedField]⟩

end Listener

end PointStream
