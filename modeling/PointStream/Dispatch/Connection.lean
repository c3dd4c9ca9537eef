import PointStream.Dispatch.Request
import PointStream.Dispatch.Writer

/-!
# Connections

Each connection has a session of its own. Its thread reads request lines, routes them to the scheduler and
writes what can be said at once; answers to `create`, `parse` and `read` are written by the control thread when
they come.
-/

namespace PointStream

def pipelineNotString : String := "'pipeline' must be a string - args[0]"

namespace Scheduler

/-- Serves a request for a session: what is to be said at once, or none when an answer will follow. -/
def serve (s : Scheduler) (session : Nat) (request : Request) :
    Scheduler × Except DispatchError (Option Message) :=
  let callback : Callback := { recipient := session }
  let invoked (result : Scheduler × Except InvocationError Unit) :
      Scheduler × Except DispatchError (Option Message) :=
    (result.1, match result.2 with
      | .ok () => .ok none
      | .error e => .error (.invocation e))
  match request.resolve with
  | .error e => (s, .error e)
  | .ok .create =>
    match request.arguments with
    | .string pipeline :: _ => invoked (s.create session pipeline callback)
    | _ => (s, .ok (some (.created (some pipelineNotString))))
  | .ok .parse =>
    match request.arguments with
    | .string pipeline :: _ => invoked (s.parse session pipeline callback)
    | _ => (s, .ok (some (.parsed (some pipelineNotString))))
  | .ok .destroy => (s.destroy session, .ok (some .destroyed))
  | .ok .numPoints =>
    (s, match s.numPoints? session with
      | some value => .ok (some (.numPoints value))
      | none => .error .notCreated)
  | .ok .schema =>
    (s, match s.schemaText? session with
      | some text =>
        match Json.ofString? text with
        | some v => .ok (some (.schema v))
        | none => .error (.invalidSchema Json.undisclosed)
      | none => .error .notCreated)
  | .ok .read =>
    invoked (s.read session (request.arguments.map .value ++ [.callback callback]))
  | .ok .cancel =>
    let (s, found) := s.cancel session
    (s, .ok (some (.cancelled found)))

def serveLine (s : Scheduler) (session : Nat) (line : List UInt8) :
    Scheduler × Except DispatchError (Option Message) :=
  match Request.ofLine line with
  | .error e => (s, .error e)
  | .ok request =>
    match request.validate with
    | .error e => (s, .error e)
    | .ok () => s.serve session request

end Scheduler

/-- What the thread of a connection has to note. -/
inductive Notice where
  | opened
  | requestFailed (e : DispatchError)
  | closing (e : DispatchError)
  | closedByPeer
deriving DecidableEq, Inhabited

/-- A connection and the number of its session. -/
structure Connection where
  session : Nat
  framing : Framing := {}
  writer : MessageWriter := {}
  /-- Whether the thread still reads requests. -/
  serving : Bool := true
deriving Inhabited

namespace Connection

def close (c : Connection) (e : DispatchError) : Connection × List Notice :=
  ({ c with serving := false, writer := c.writer.shut }, [.closing e])

/-- Tells the client of an error. The connection is closed after a fatal error, and when the error cannot be
told. -/
def reject (c : Connection) (e : DispatchError) : Connection × List Notice :=
  let (writer, told) := c.writer.send (.ofError e)
  let c := { c with writer }
  if e.isFatal then c.close e
  else match told with
    | .ok () => (c, [.requestFailed e])
    | .error failure =>
      let (c, notices) := c.close failure
      (c, .requestFailed e :: notices)

def handleLine (s : Scheduler) (c : Connection) (line : List UInt8) :
    Scheduler × Connection × List Notice :=
  match s.serveLine c.session line with
  | (s, .error e) => (s, c.reject e)
  | (s, .ok none) => (s, c, [])
  | (s, .ok (some m)) =>
    let (writer, result) := c.writer.send m
    let c := { c with writer }
    match result with
    | .ok () => (s, c, [])
    | .error e => (s, c.reject e)

def receiveByte (s : Scheduler) (c : Connection) (b : UInt8) : Scheduler × Connection × List Notice :=
  if !c.serving then (s, c, [])
  else
    let (framing, frame) := c.framing.step b
    let c := { c with framing }
    match frame with
    | none => (s, c, [])
    | some (.line line) => handleLine s c line
    | some (.tooLarge size) => (s, c.reject (.requestTooLarge size lineLimit))

/-- Takes bytes from the client; `noted` holds the notices so far, last first. -/
def receive (s : Scheduler) (c : Connection) (noted : List Notice) :
    List UInt8 → Scheduler × Connection × List Notice
  | [] => (s, c, noted.reverse)
  | b :: rest =>
    let (s, c, notices) := receiveByte s c b
    receive s c (notices.reverse ++ noted) rest

/-- The client sends no more: an unterminated line is still handled. -/
def finish (s : Scheduler) (c : Connection) : Scheduler × Connection × List Notice :=
  if !c.serving then (s, c, [])
  else
    -- Handling the last line may close the connection, and then that is what is noted.
    let (s, c, notices) := match c.framing.remainder with
      | some line => handleLine s { c with framing := {} } line
      | none => (s, c, [])
    if c.serving then (s, { c with serving := false }, notices ++ [.closedByPeer])
    else (s, c, notices)

/-- The control thread writes an answer. A client that is gone does not get it. -/
def deliver (c : Connection) (a : Answer) : Connection :=
  { c with writer := (c.writer.send (.ofAnswer a)).1 }

def takeSent (c : Connection) : Connection × List UInt8 :=
  ({ c with writer := { c.writer with sent := [] } }, c.writer.sent)

end Connection

end PointStream
