import PointStream.Daemon.Listener
import PointStream.Log.Filter
import PointStream.Log.Narration
import PointStream.Scheduler.Schedule
import PointStream.Settings.Basic

/-!
# The daemon

A daemon is a listener, a scheduler and the connections it has taken. It is launched on a machine, serves until
it is told to stop, and then stops its parts in turn: first the listener, which releases the endpoint, then the
workers, then the control thread. Each function also gives what is written to the log.
-/

namespace PointStream

inductive LaunchError where
  | log (e : LogSetupError)
  | socket (e : PreparationError)
  | listener (e : ListenerError)
  /-- Nobody can tell the daemon to stop. -/
  | shutdown (text : String)
deriving DecidableEq, Inhabited

def LaunchError.message : LaunchError → String
  | log e => "failed to initialise telemetry: " ++ e.message
  | socket e => "failed to prepare listen socket: " ++ e.message
  | listener e => "listener failed: " ++ e.message
  | shutdown text => "failed to await shutdown signal: failed to install signal handlers: " ++ text

structure Daemon where
  listener : Listener
  scheduler : Scheduler
  /-- The connections by number, which is also the number of their sessions. -/
  connections : List Connection := []

/-- How the wait for the end of a daemon went. -/
inductive Wait where
  | told
  | signalled (signal : Nat)
  | failed (text : String)
deriving DecidableEq, Inhabited

namespace Daemon

/-! ### The log of the main thread -/

def mainEntry (message : String) (fields : List (String × Json)) : LogEntry :=
  ⟨.main, .info, .process, message, fields⟩

def poolEntry (message pool : String) (fields : List (String × Json)) : LogEntry :=
  ⟨.main, .debug, .scheduler, message, ("pool", .string pool) :: fields⟩

def controlPool : String := "cloudstream-control"

def workerPool : String := "cloudstream-worker"

def starting (settings : Settings) : LogEntry :=
  mainEntry "starting daemon runtime"
    [("listen", .string settings.listen.toText), ("workers", .ofNat settings.workers)]

def ready (l : Listener) : LogEntry :=
  mainEntry "daemon ready" ((l.bound.address?.map fun address => ("addr", .string address)).toList)

def completed : LogEntry := mainEntry "shutdown sequence completed" []

/-! ### Life of a daemon -/

/-- Launches a daemon: prepares and binds its endpoint and starts its threads. -/
def launch (m : Machine) (settings : Settings) : Machine × List LogEntry × Except LaunchError Daemon :=
  let first := starting settings
  match m.prepare settings.listen with
  | (m, .error e) => (m, [first], .error (.socket e))
  | (m, .ok ()) =>
    match Listener.bind m settings.listen with
    | .error e => (m, [first], .error (.listener e))
    | .ok (m, listener) =>
      (m, [first,
          poolEntry "thread pool started" controlPool [("size", .ofNat 1)],
          poolEntry "thread pool started" workerPool [("size", .ofNat settings.workers)],
          listener.started, ready listener],
        .ok { listener, scheduler := .start settings.workers })

def entriesOf (d : Daemon) (number : Nat) (notices : List Notice) : List LogEntry :=
  notices.map fun notice => ⟨.connection number, notice.record d.listener.peer⟩

/-- Takes a connection. The result tells its number. -/
def accept (d : Daemon) : Daemon × Nat × List LogEntry :=
  let (listener, number) := d.listener.accept
  let connections := d.connections ++ [{ session := number }]
  ({ d with listener, connections }, number, d.listener.taken number :: d.entriesOf number [.opened])

/-- Lets a connection act with the scheduler. -/
def withConnection (d : Daemon) (number : Nat)
    (act : Scheduler → Connection → Scheduler × Connection × List Notice) : Daemon × List LogEntry :=
  match d.connections[number]? with
  | none => (d, [])
  | some c =>
    let (scheduler, c, notices) := act d.scheduler c
    ({ d with scheduler, connections := d.connections.set number c }, d.entriesOf number notices)

def receive (d : Daemon) (number : Nat) (bytes : List UInt8) : Daemon × List LogEntry :=
  d.withConnection number fun s c => c.receive s [] bytes

def hangUp (d : Daemon) (number : Nat) : Daemon × List LogEntry :=
  d.withConnection number fun s c => { c with writer := c.writer.shut }.finish s

def deliver (d : Daemon) : Event → Daemon
  | .answered session _ answer =>
    { d with connections := d.connections.modify session (·.deliver answer) }
  | _ => d

def takeSent (d : Daemon) (number : Nat) : Daemon × List UInt8 :=
  match d.connections[number]? with
  | none => (d, [])
  | some c =>
    let (c, sent) := c.takeSent
    ({ d with connections := d.connections.set number c }, sent)

/-- Lets the scheduler run until it has nothing to do, or has made so many moves. -/
def settle (env : Environment) (moves : Nat) (d : Daemon) : Daemon × List Event × List LogEntry :=
  let (scheduler, _, events) := d.scheduler.settle env moves {} []
  (events.foldl deliver { d with scheduler }, events, events.filterMap fun e =>
    e.record?.map fun record => ⟨.control, record⟩)

/-- Ends a daemon after the wait for its end: it takes no more connections, releases its endpoint, and drains
the queues of its scheduler. -/
def stop (env : Environment) (moves : Nat) (m : Machine) (d : Daemon) (wait : Wait) :
    Machine × List Event × List LogEntry × Except LaunchError Unit :=
  let woken := match wait with
    | .signalled signal => [mainEntry "shutdown signal received" [("signal", .ofNat signal)]]
    | _ => []
  -- The endpoint is free before the queues are drained.
  let m := d.listener.release m
  let (_, events, drained) := settle env moves { d with scheduler := d.scheduler.shutdown }
  let entries := woken ++ [d.listener.stopped, d.listener.joined] ++ drained
    ++ [poolEntry "thread pool stopped" workerPool [], poolEntry "thread pool stopped" controlPool []]
  match wait with
  | .failed text => (m, events, entries, .error (.shutdown text))
  | _ => (m, events, entries ++ [completed], .ok ())

end Daemon

end PointStream
