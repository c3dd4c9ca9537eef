import PointStream.Dispatch.Framing
import PointStream.Dispatch.Message

/-!
# Writing messages

A writer sends one line for each message and flushes it. The transport below it may fail after any number of
bytes, or at a flush.
-/

namespace PointStream

structure MessageWriter where
  sent : List UInt8 := []
  /-- How many more bytes the transport takes before it fails; it never fails if none. -/
  room : Option Nat := none
  flushFails : Bool := false
deriving Inhabited

namespace MessageWriter

/-- The text of a failure of the transport. -/
def failureText : String := "Broken pipe (os error 32)"

/-- Writes bytes as far as the transport takes them, and tells whether it took all. -/
def put (w : MessageWriter) (bytes : List UInt8) : MessageWriter × Bool :=
  match w.room with
  | none => ({ w with sent := w.sent ++ bytes }, true)
  | some room =>
    let taken := min room bytes.length
    ({ w with sent := w.sent ++ bytes.take taken, room := some (room - taken) },
      decide (bytes.length ≤ room))

/-- Sends a message. A failure inside its JSON text is one of serialising it, a failure at the line feed or at
the flush is one of the transport. -/
def send (w : MessageWriter) (m : Message) : MessageWriter × Except DispatchError Unit :=
  match w.put (Text.Utf8.encode m.text) with
  | (w, false) => (w, .error (.serializeResponse failureText))
  | (w, true) =>
    match w.put [lineFeed] with
    | (w, false) => (w, .error (.io failureText))
    | (w, true) => (w, if w.flushFails then .error (.io failureText) else .ok ())

/-- Ends the transport: from now on nothing is sent. -/
def shut (w : MessageWriter) : MessageWriter := { w with room := some 0 }

end MessageWriter

end PointStream
