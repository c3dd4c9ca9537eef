import PointStream.Transmit.Consumer

/-!
# Transmitters

A transmitter writes ranges of a buffer to a connected consumer. A range that leaves the buffer is refused
before the consumer is called.
-/

namespace PointStream

inductive TransmitError where
  | connect (host : String) (port : Nat) (reason : String)
  | outOfRange (offset length available : Nat)
  | write (offset length : Nat) (reason : String)
  | flush (reason : String)
deriving DecidableEq, Inhabited

namespace TransmitError

def message : TransmitError → String
  | connect host port reason => s!"failed to connect to {host}:{port}: " ++ reason
  | outOfRange offset length available =>
    s!"range {offset}+{length} exceeds buffer of {available} bytes"
  | write offset length reason => s!"failed to write {length} bytes at offset {offset}: " ++ reason
  | flush reason => "failed to flush transmission: " ++ reason

end TransmitError

/-- The bytes of a range, if it lies inside the buffer. -/
def slice? (buffer : List UInt8) (offset length : Nat) : Option (List UInt8) :=
  if offset + length ≤ buffer.length then some ((buffer.drop offset).take length) else none

/-- A buffer and the connection that its ranges are written to. -/
structure Transmitter where
  consumer : Consumer
  buffer : List UInt8
  usage : Usage := {}

namespace Transmitter

/-- Writes all of some bytes, calling the consumer until it has taken them. None when `calls` calls were not
enough. The contacts so far are kept last first. -/
def writeAll (c : Consumer) : (calls : Nat) → Usage → List Contact → List UInt8 → Nat →
    Option (Usage × List Contact × Attempt (Except String Unit))
  | _, usage, contacts, _, 0 => some (usage, contacts.reverse, .returned (.ok ()))
  | 0, _, _, _, _ + 1 => none
  | calls + 1, usage, contacts, bytes, offered + 1 =>
    let (usage, contact, result) := c.offer usage bytes (offered + 1)
    match result with
    | .returned (.ok (bytes, left)) => writeAll c calls usage (contact :: contacts) bytes left
    | .returned (.error reason) => some (usage, (contact :: contacts).reverse, .returned (.error reason))
    | .aborted => some (usage, (contact :: contacts).reverse, .aborted)

/-- Sends `length` bytes from `offset` on with at most `calls` calls. -/
def transmit (t : Transmitter) (calls offset length : Nat) :
    Option (Transmitter × List Contact × Attempt (Except TransmitError Unit)) :=
  match slice? t.buffer offset length with
  | none => some (t, [], .returned (.error (.outOfRange offset length t.buffer.length)))
  | some bytes =>
    (writeAll t.consumer calls t.usage [] bytes length).map fun (usage, contacts, result) =>
      ({ t with usage }, contacts,
        result.map fun
          | .ok () => .ok ()
          | .error reason => .error (.write offset length reason))

def finish (t : Transmitter) : List Contact × Attempt (Except TransmitError Unit) :=
  ([.flush], (t.consumer.flush t.usage.calls t.usage.taken).map fun
    | .ok () => .ok ()
    | .error reason => .error (.flush reason))

end Transmitter

def Consumer.connectTo (c : Consumer) (host : String) (port : Nat) (buffer : List UInt8) :
    List Contact × Attempt (Except TransmitError Transmitter) :=
  ([.connect host port], c.connect.map fun
    | .ok () => .ok { consumer := c, buffer }
    | .error reason => .error (.connect host port reason))

end PointStream
