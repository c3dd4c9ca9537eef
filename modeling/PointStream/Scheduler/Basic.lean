import PointStream.Read.Slot
import PointStream.Scheduler.Event

/-!
# The scheduler

One control thread and some worker threads serve a queue each, in order. Whatever can reach a callback runs on
the control thread. A read goes through four jobs: decoding on the control thread, the query on a worker, its
answer on the control thread, and the transmission on a worker, whose end the control thread reports.

The state of all threads, queues and sessions is one value, and every move of a thread and every call of a
client is one function on it. Shutting down stops the workers first: each takes one stop message, behind
the tasks that were queued before. The control thread is stopped once every worker has left.
-/

namespace PointStream

inductive Task where
  | openSource (session : Nat) (pipeline : String) (callback : Callback)
  | validate (session : Nat) (pipeline : String) (callback : Callback)
  | query (session : Nat) (command : ReadCommand) (callback : Callback)
  | stream (session : Nat) (command : ReadCommand) (transmission : Transmission)

inductive ControlJob where
  /-- Decodes a read and starts its query. The source and the generation were fixed when the read was
  called; a read without generation found the slot taken. -/
  | startRead (session : Nat) (source : Option Source) (claim : Option Nat)
      (positional : List Argument) (callback : Callback)
  | opened (session : Nat) (result : Attempt (Except SourceError Source)) (callback : Callback)
  | validated (session : Nat) (result : Attempt (Except SourceError Unit)) (callback : Callback)
  | queried (session generation : Nat) (result : Attempt (ReadCommand × Except ReadError Unit))
      (callback : Callback)
  | streamed (session generation numBytes : Nat) (result : Attempt Outcome)

inductive Entry (α : Type) where
  | job (a : α)
  | stop

inductive Worker where
  | idle
  | running (task : Task)
  | exited

def Worker.isExited : Worker → Bool
  | exited => true
  | _ => false

/-- How far the scheduler has been shut down. -/
inductive Lifecycle where
  | running
  /-- So many stop messages are still to be sent to the workers. -/
  | stopping (unsent : Nat)
  /-- The control thread has been sent its stop message. -/
  | closing
deriving DecidableEq, Inhabited

structure Session where
  source : Option Source := none
  slot : ReadSlot := {}

structure Scheduler where
  workers : List Worker
  work : List (Entry Task) := []
  control : List (Entry ControlJob) := []
  /-- Whether the control thread still serves its queue. -/
  controlAlive : Bool := true
  lifecycle : Lifecycle := .running
  sessions : Nat → Session := fun _ => {}

/-- What the scheduler calls into: the provider of sources, and the consumer behind an address for the read
of a generation. -/
structure Environment where
  provider : Provider
  consumer : (session generation : Nat) → (host : String) → (port : Nat) → Consumer

/-- What is said of work that was aborted. -/
def abortedText : String := "Unknown error"

def notCreatedText : String := "Session not created"

def inProgressText : String := "Read already in progress"

namespace Scheduler

def start (workers : Nat) : Scheduler := { workers := List.replicate workers .idle }

def setSession (s : Scheduler) (id : Nat) (session : Session) : Scheduler :=
  { s with sessions := fun other => if other = id then session else s.sessions other }

def setSource (s : Scheduler) (id : Nat) (source : Option Source) : Scheduler :=
  s.setSession id { s.sessions id with source }

def setSlot (s : Scheduler) (id : Nat) (slot : ReadSlot) : Scheduler :=
  s.setSession id { s.sessions id with slot }

/-- Frees a session's slot, if the generation holds it. -/
def releaseSlot (s : Scheduler) (id generation : Nat) : Scheduler :=
  s.setSlot id ((s.sessions id).slot.release generation).2

/-- Queues a task for the workers; none once all of them have left. -/
def submitTask? (s : Scheduler) (t : Task) : Option Scheduler :=
  if s.workers.all Worker.isExited then none else some { s with work := s.work ++ [.job t] }

/-- Queues a job for the control thread; none once it has left. -/
def submitJob? (s : Scheduler) (j : ControlJob) : Option Scheduler :=
  if s.controlAlive then some { s with control := s.control ++ [.job j] } else none

def post (s : Scheduler) (j : ControlJob) : Scheduler := (s.submitJob? j).getD s

/-! ### Calls of clients -/

/-- The outcome of handing something to a queue. -/
def submitted (s : Scheduler) (result : Option Scheduler) : Scheduler × Except InvocationError Unit :=
  match result with
  | some s => (s, .ok ())
  | none => (s, .error .stopped)

/-- Asks for the source of a pipeline. -/
def create (s : Scheduler) (session : Nat) (pipeline : String) (callback : Callback) :
    Scheduler × Except InvocationError Unit :=
  s.submitted (s.submitTask? (.openSource session pipeline callback))

/-- Asks whether a pipeline is valid. -/
def parse (s : Scheduler) (session : Nat) (pipeline : String) (callback : Callback) :
    Scheduler × Except InvocationError Unit :=
  s.submitted (s.submitTask? (.validate session pipeline callback))

/-- Drops the source of a session. A read in flight keeps its own. -/
def destroy (s : Scheduler) (session : Nat) : Scheduler := s.setSource session none

/-- Asks for a read of the source that the session holds now. The slot is claimed at once, if there is a
source and no read is outstanding. -/
def read (s : Scheduler) (session : Nat) (arguments : List Argument) :
    Scheduler × Except InvocationError Unit :=
  match Argument.splitCallback arguments with
  | .error e => (s, .error e)
  | .ok (positional, callback) =>
    let source := (s.sessions session).source
    let claimed := source.bind fun _ => (s.sessions session).slot.begin?
    let claiming := match claimed with
      | some (_, slot) => s.setSlot session slot
      | none => s
    let claim := claimed.map (·.1)
    match claiming.submitJob? (.startRead session source claim positional callback) with
    | some s => (s, .ok ())
    | none =>
      -- Nobody will run the job, so the claim is given back.
      let released := match claim with
        | some generation => claiming.releaseSlot session generation
        | none => claiming
      (released, .error .stopped)

/-- Marks the outstanding read of a session as cancelled; false when there is none. -/
def cancel (s : Scheduler) (session : Nat) : Scheduler × Bool :=
  let (found, slot) := (s.sessions session).slot.cancel
  (s.setSlot session slot, found)

def numPoints? (s : Scheduler) (session : Nat) : Option Nat :=
  (s.sessions session).source.map Source.numPoints

def schemaText? (s : Scheduler) (session : Nat) : Option String :=
  (s.sessions session).source.map Source.schemaText

def readState (s : Scheduler) (session : Nat) : ReadState := (s.sessions session).slot.state

def shutdown (s : Scheduler) : Scheduler :=
  match s.lifecycle with
  | .running => { s with lifecycle := .stopping s.workers.length }
  | _ => s

/-! ### The control thread -/

/-- The text that a callback gets for what a provider did. -/
def resultText {α : Type} : Attempt (Except SourceError α) → Except String Unit
  | .returned (.ok _) => .ok ()
  | .returned (.error e) => .error e.message
  | .aborted => .error abortedText

/-- Hands a command to the workers. Where that is refused the read ends without an answer. -/
def startQuery (s : Scheduler) (session generation : Nat) (command : ReadCommand)
    (callback : Callback) : Scheduler :=
  match s.submitTask? (.query session command callback) with
  | some s => s
  | none => s.releaseSlot session generation

/-- Refuses a read, then frees its slot. A callback that aborts ends the job before that. -/
def refuse (s : Scheduler) (session generation : Nat) (callback : Callback) (reports : List Report)
    (reason : String) : Scheduler × List Event :=
  let events := reports.map (Event.reported session)
    ++ [.answered session callback (.read (.rejected reason))]
  (if callback.aborts then s else s.releaseSlot session generation, events)

/-- Accepts a read and hands its transmission to the workers. A callback that aborts ends the job before
that. -/
def accept (s : Scheduler) (session generation : Nat) (command : ReadCommand) (callback : Callback) :
    Scheduler × List Event :=
  -- Whoever hears of the acceptance finds the read streaming.
  let s := s.setSlot session ((s.sessions session).slot.advance generation).2
  let accepted := [
    .reported session (.readAccepted generation command.numPoints command.numBytes),
    .answered session callback (.read (.accepted command.numPoints command.numBytes))]
  if callback.aborts then (s, accepted)
  else
    let started := .transmitStarted generation command.host command.port command.numBytes
    let s := match s.submitTask? (.stream session command {}) with
      | some s => s
      | none => s.releaseSlot session generation
    (s, accepted ++ [.reported session started])

def runJob (s : Scheduler) : ControlJob → Scheduler × List Event
  | .startRead session none _ _ callback =>
    (s, [.reported session (.readRejected notCreatedText),
      .answered session callback (.read (.rejected notCreatedText))])
  | .startRead session (some _) none _ callback =>
    (s, [.reported session (.readRejected inProgressText),
      .answered session callback (.read (.rejected inProgressText))])
  | .startRead session (some source) (some generation) positional callback =>
    let dropped := (ReadRequest.dropped positional).map fun entry =>
      Event.noted session (.entryDropped entry)
    match ReadCommand.ofArguments source positional generation with
    | .ok command => (s.startQuery session generation command callback,
      dropped ++ [.noted session (.queryQueued generation command.query command.capacity)])
    | .error rejection =>
      let (s, events) := s.refuse session generation callback [] rejection.message
      (s, dropped ++ .noted session (.readRefused rejection) :: events)
  | .opened session result callback =>
    let (s, notes) := match result with
      | .returned (.ok source) =>
        (s.setSource session (some source), [Event.noted session (.sourceOpened source.numPoints)])
      | _ => (s, [])
    (s, notes ++ [.answered session callback (.opened (resultText result))])
  | .validated session result callback =>
    let s := match result with
      | .returned (.ok ()) => s.setSource session none
      | _ => s
    (s, [.answered session callback (.validated (resultText result))])
  | .queried session generation result callback =>
    match result with
    | .returned (command, .ok ()) => s.accept session generation command callback
    | .returned (_, .error e) =>
      s.refuse session generation callback [.readFailed generation e.message] e.message
    | .aborted =>
      s.refuse session generation callback [.readFailed generation abortedText] abortedText
  | .streamed session generation numBytes result =>
    let outcome := match result with
      | .returned outcome => outcome
      | .aborted => .failed 0 numBytes abortedText
    (s.releaseSlot session generation, [.reported session (.transmitFinished generation outcome)])

/-- The control thread takes the entry at the front of its queue. -/
def stepControl? (s : Scheduler) : Option (Scheduler × List Event) :=
  if !s.controlAlive then none
  else match s.control with
    | [] => none
    | .stop :: rest => some ({ s with control := rest, controlAlive := false }, [])
    | .job j :: rest => some ({ s with control := rest }.runJob j)

/-! ### Workers -/

def setWorker (s : Scheduler) (i : Nat) (w : Worker) : Scheduler :=
  { s with workers := s.workers.set i w }

/-- A worker is done with its task and hands the result to the control thread. -/
def finishTask (s : Scheduler) (i : Nat) (result : ControlJob) : Scheduler :=
  (s.setWorker i .idle).post result

/-- Worker `i` goes on with its task. -/
def runTask (env : Environment) (s : Scheduler) (i : Nat) : Task → Scheduler × List Event
  | .openSource session pipeline callback =>
    (s.finishTask i (.opened session (env.provider.openSource pipeline) callback), [])
  | .validate session pipeline callback =>
    (s.finishTask i (.validated session (env.provider.validate pipeline) callback), [])
  | .query session command callback =>
    let result := match command.run with
      | (command, .returned result) => .returned (command, result)
      | (_, .aborted) => .aborted
    (s.finishTask i (.queried session command.generation result callback), [])
  | .stream session command transmission =>
    let generation := command.generation
    let consumer := env.consumer session generation command.host command.port
    let cancelled := (s.sessions session).slot.isCancelled generation
    let (contacts, next) := transmission.step consumer command cancelled
    let events := contacts.map (Event.contacted session generation)
    match next with
    | .goesOn transmission => (s.setWorker i (.running (.stream session command transmission)), events)
    | .ends outcome => (s.finishTask i (.streamed session generation command.numBytes outcome), events)

/-- Worker `i` makes a move: when idle it takes the entry at the front of the queue, else it goes on with its
task. -/
def stepWorker? (env : Environment) (s : Scheduler) (i : Nat) : Option (Scheduler × List Event) :=
  match s.workers[i]? with
  | some .idle =>
    match s.work with
    | [] => none
    | .stop :: rest => some ({ s with work := rest }.setWorker i .exited, [])
    | .job t :: rest => some ({ s with work := rest }.setWorker i (.running t), [])
  | some (.running t) => some (s.runTask env i t)
  | _ => none

/-! ### Shutting down -/

/-- Sends the next stop message: one to each worker, then, once all of them have left, one to the control
thread. -/
def stepShutdown? (s : Scheduler) : Option Scheduler :=
  match s.lifecycle with
  | .stopping (unsent + 1) => some { s with work := s.work ++ [.stop], lifecycle := .stopping unsent }
  | .stopping 0 =>
    if s.workers.all Worker.isExited then
      some { s with control := s.control ++ [.stop], lifecycle := .closing }
    else none
  | _ => none

def isShutDown (s : Scheduler) : Bool := s.lifecycle = .closing && !s.controlAlive

/-! ### Moves -/

/-- A move of one of the scheduler's threads. -/
inductive Move where
  | control
  | worker (i : Nat)
  | shutdown
deriving DecidableEq, Inhabited

/-- Makes a move; none when its thread has nothing to do. -/
def move? (env : Environment) (s : Scheduler) : Move → Option (Scheduler × List Event)
  | .control => s.stepControl?
  | .worker i => s.stepWorker? env i
  | .shutdown => s.stepShutdown?.map (·, [])

end Scheduler

end PointStream
