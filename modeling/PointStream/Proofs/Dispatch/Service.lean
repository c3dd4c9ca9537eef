import Mathlib.Logic.Relation
import PointStream.Proofs.Dispatch.Lines
import PointStream.Proofs.Dispatch.Requests

/-!
# The service of a connection

The thread of a connection and the threads of the scheduler take turns in any order. The thread of the connection
serves a line and says what can be said of it in two steps, and the control thread writes an answer some time after
the job that gave it, so anything may come between. Other sessions may call whatever they like.
-/

namespace PointStream

namespace Connection

/-- Says what came of serving a line. -/
def say (c : Connection) : Except DispatchError (Option Message) → Connection × List Notice
  | .error e => c.reject e
  | .ok none => (c, [])
  | .ok (some m) =>
    let (writer, result) := c.writer.send m
    let c := { c with writer }
    match result with
    | .ok () => (c, [])
    | .error e => c.reject e

/-- A line is served first, and what came of it is said then. -/
theorem handleLine_eq (s : Scheduler) (c : Connection) (line : List UInt8) :
    handleLine s c line = ((s.serveLine c.session line).1, c.say (s.serveLine c.session line).2) := by
  unfold handleLine
  split
  next failed => rw [failed]; rfl
  next silent => rw [silent]; rfl
  next s' m told =>
    rw [told]
    dsimp only [say]
    generalize c.writer.send m = sent
    obtain ⟨writer, result⟩ := sent
    cases result <;> rfl

end Connection

/-- Saying something changes the writer, and whether the thread goes on. -/
theorem Connection.exists_say_eq (c : Connection) (result : Except DispatchError (Option Message)) :
    ∃ serving writer, (c.say result).1 = { c with serving, writer } := by
  have rejected (c : Connection) (e : DispatchError) :
      ∃ serving writer, (c.reject e).1 = { c with serving, writer } := by
    unfold reject
    dsimp only
    split
    next => exact ⟨_, _, rfl⟩
    next => split <;> exact ⟨_, _, rfl⟩
  unfold say
  split
  next => exact rejected c _
  next => exact ⟨_, _, rfl⟩
  next =>
    dsimp only
    split
    next => exact ⟨_, _, rfl⟩
    next => exact rejected _ _

@[simp] theorem Connection.framing_say (c : Connection) (result : Except DispatchError (Option Message)) :
    (c.say result).1.framing = c.framing := by
  obtain ⟨serving, writer, said⟩ := c.exists_say_eq result
  rw [said]

@[simp] theorem Connection.session_say (c : Connection) (result : Except DispatchError (Option Message)) :
    (c.say result).1.session = c.session := by
  obtain ⟨serving, writer, said⟩ := c.exists_say_eq result
  rw [said]

/-- A connection with the scheduler and what is on its way: bytes that the client has sent or will send, what the
thread of the connection is about to say of a line, and answers that the control thread is about to write. -/
structure Service where
  scheduler : Scheduler
  connection : Connection
  unread : List UInt8
  unsaid : Option (List UInt8 × Except DispatchError (Option Message)) := none
  unheard : List Answer := []

namespace Service

def start (workers session : Nat) (bytes : List UInt8) : Service where
  scheduler := .start workers
  connection := { session }
  unread := bytes

/-- The thread of the connection is about to read. -/
def isReading (v : Service) : Bool := v.connection.serving && v.unsaid.isNone

def serveLine (v : Service) (line : List UInt8) : Service :=
  let served := v.scheduler.serveLine v.connection.session line
  { v with scheduler := served.1, unsaid := some (line, served.2) }

def advance (v : Service) (framing : Framing) (unread : List UInt8) : Service :=
  { v with connection := { v.connection with framing }, unread }

/-- Takes a byte, and serves the line that it finishes. -/
def take? (v : Service) : Option Service :=
  match v.unread with
  | [] => none
  | b :: unread =>
    match v.connection.framing.step b with
    | (framing, none) => some (v.advance framing unread)
    | (framing, some (.line line)) => some ((v.advance framing unread).serveLine line)
    | (framing, some (.tooLarge size)) =>
      some { v.advance framing unread with unsaid := some ([], .error (.requestTooLarge size lineLimit)) }

/-- Serves the line that the end of the stream leaves unterminated; after that, the connection has ended. -/
def end? (v : Service) : Option Service :=
  if v.unread ≠ [] then none
  else match v.connection.framing.remainder with
    | some line => some ((v.advance {} []).serveLine line)
    | none => some { v with connection := { v.connection with serving := false } }

/-- A step of the thread of the connection, of a thread of the scheduler, or of another session. -/
inductive Step where
  | take
  | ends
  | say
  | move (environment : Environment) (m : Scheduler.Move)
  /-- The control thread writes the next answer. -/
  | deliver
  | call (c : Scheduler.Call)

/-- Takes a step; none when it cannot be taken. The control thread goes on when its answers are written. -/
def step? (v : Service) : Step → Option Service
  | .take => if v.isReading then v.take? else none
  | .ends => if v.isReading then v.end? else none
  | .say => v.unsaid.map fun said => { v with connection := (v.connection.say said.2).1, unsaid := none }
  | .move environment m =>
    if m = .control ∧ v.unheard ≠ [] then none
    else (v.scheduler.move? environment m).map fun (scheduler, events) =>
      { v with scheduler, unheard := v.unheard ++ answersTo v.connection.session events }
  | .deliver =>
    match v.unheard with
    | [] => none
    | a :: unheard => some { v with connection := v.connection.deliver a, unheard }
  | .call c =>
    if c.session = v.connection.session then none else some { v with scheduler := (v.scheduler.call c).1 }

/-- The service can get from one state to another. -/
def Reaches : Service → Service → Prop := Relation.ReflTransGen fun v w => ∃ step, v.step? step = some w

/-! ### What a step does to the connection -/

/-- What a step can do to the connection: its thread reads on or ends, or says what came of a line, or the control
thread writes an answer. -/
inductive Touches (c : Connection) : Connection → Prop
  | reads {framing : Framing} {serving : Bool} (still : serving = true → c.serving = true) :
    Touches c { c with framing, serving }
  | tells (result : Except DispatchError (Option Message)) : Touches c (c.say result).1
  | delivers (a : Answer) : Touches c (c.deliver a)

theorem touches_of_step {v w : Service} {step : Step} (stepped : v.step? step = some w) :
    Touches v.connection w.connection := by
  cases step with
  | take =>
    simp only [step?] at stepped
    split at stepped
    next =>
      -- A byte may finish a line, but that only hands it to be served.
      unfold take? at stepped
      split at stepped
      next => cases stepped
      next => split at stepped <;> cases stepped <;> exact .reads id
    next => cases stepped
  | ends =>
    simp only [step?] at stepped
    split at stepped
    next =>
      unfold end? at stepped
      split at stepped
      next => cases stepped
      next =>
        split at stepped
        next => cases stepped; exact .reads id
        next => cases stepped; exact .reads (by rintro ⟨⟩)
    next => cases stepped
  | say =>
    simp only [step?, Option.map_eq_some_iff] at stepped
    obtain ⟨⟨line, result⟩, unsaid, rfl⟩ := stepped
    exact .tells result
  | move environment m =>
    simp only [step?] at stepped
    split at stepped
    next => cases stepped
    next =>
      obtain ⟨moved, -, rfl⟩ := Option.map_eq_some_iff.mp stepped
      exact .reads id
  | deliver =>
    simp only [step?] at stepped
    split at stepped
    next => cases stepped
    next a unheard next =>
      cases stepped
      exact .delivers a
  | call c =>
    simp only [step?] at stepped
    split at stepped
    next => cases stepped
    next =>
      cases stepped
      exact .reads id

theorem Touches.session_eq {c c' : Connection} (touches : Touches c c') : c'.session = c.session := by
  cases touches with
  | reads => rfl
  | tells result => exact c.session_say result
  | delivers a => rfl

/-! ### The thread of the connection by itself -/

theorem Reaches.step {v w u : Service} (reaches : v.Reaches w) (step : Step) (stepped : w.step? step = some u) :
    v.Reaches u := reaches.tail ⟨step, stepped⟩

/-- What the thread does with a byte, when nobody else makes a step meanwhile. -/
theorem reaches_receiveByte {v : Service} {b : UInt8} {rest : List UInt8} (reading : v.isReading = true)
    (next : v.unread = b :: rest) :
    ∃ w, v.Reaches w ∧ w.unread = rest ∧
      ∃ notices, Connection.receiveByte v.scheduler v.connection b = (w.scheduler, w.connection, notices) := by
  have serving : v.connection.serving = true := (Bool.and_eq_true_iff.mp reading).1
  have took : v.step? .take = v.take? := by simp [step?, reading]
  rw [take?, next] at took
  rw [Connection.receiveByte, if_neg (by simp [serving])]
  cases stepped : v.connection.framing.step b with
  | mk framing frame =>
    simp only [stepped] at took ⊢
    cases frame with
    | none => exact ⟨_, .single ⟨_, took⟩, rfl, _, rfl⟩
    | some frame =>
      cases frame with
      | line line => exact ⟨_, Reaches.step (.single ⟨_, took⟩) .say rfl, rfl, _, Connection.handleLine_eq ..⟩
      | tooLarge size => exact ⟨_, Reaches.step (.single ⟨_, took⟩) .say rfl, rfl, _, rfl⟩

/-- When nothing is left of the stream the connection has ended. -/
theorem ends_of_nothing {v : Service} (reading : v.isReading = true) (done : v.unread = [])
    (nothing : v.connection.framing.remainder = none) :
    v.step? .ends = some { v with connection := { v.connection with serving := false } } := by
  simp [step?, reading, end?, done, nothing]

theorem reaches_finish {v : Service} (reading : v.isReading = true) (done : v.unread = []) :
    ∃ w, v.Reaches w ∧
      ∃ notices, Connection.finish v.scheduler v.connection = (w.scheduler, w.connection, notices) := by
  have serving : v.connection.serving = true := (Bool.and_eq_true_iff.mp reading).1
  rw [Connection.finish, if_neg (by simp [serving])]
  cases left : v.connection.framing.remainder with
  | none =>
    refine ⟨_, .single ⟨_, ends_of_nothing reading done left⟩, ?_⟩
    simp [serving]
  | some line =>
    have ended : v.step? .ends = some ((v.advance {} []).serveLine line) := by
      simp [step?, reading, end?, done, left]
    have said := Reaches.step (.single ⟨_, ended⟩) .say rfl
    simp only [Connection.handleLine_eq]
    split
    next still =>
      -- The last line has been served, and the stream ends once more.
      refine ⟨_, said.step .ends (ends_of_nothing ?_ rfl ?_), _, rfl⟩
      · rw [isReading, Bool.and_eq_true]
        exact ⟨still, rfl⟩
      · dsimp only [serveLine]
        rw [Connection.framing_say]
        rfl
    next gone => exact ⟨_, said, _, rfl⟩

end Service

end PointStream
