import PointStream.Attempt

/-!
# Consumers

A consumer is the far end of a transmission. It decides how each call ends: whether it can be connected to,
how many bytes of an offer it takes, and whether what it took can be flushed. It decides by how often it was
called on this connection and how much it has taken, which covers every consumer over a fixed payload.
-/

namespace PointStream

/-- How a consumer meets an offer of bytes. -/
inductive Uptake where
  | took (n : Nat)
  | interrupted
  | failed (reason : String)
deriving DecidableEq, Inhabited

/-- The far end of a transmission. `calls` counts the write calls before this one, `taken` the bytes taken
by them, and `offered` is how many bytes are on offer. -/
structure Consumer where
  connect : Attempt (Except String Unit)
  write : (calls taken offered : Nat) → Attempt Uptake
  flush : (calls taken : Nat) → Attempt (Except String Unit)

/-- What a connection has been used for so far. -/
structure Usage where
  calls : Nat := 0
  taken : Nat := 0
deriving DecidableEq, Inhabited

/-- One call to a consumer, as seen from the far end. -/
inductive Contact where
  | connect (host : String) (port : Nat)
  | write (offered : Nat) (data : List UInt8)
  | interrupted (offered : Nat)
  | writeFailed (offered : Nat)
  | flush
deriving DecidableEq, Inhabited

/-- The bytes that a sequence of calls delivered. -/
def Contact.received (contacts : List Contact) : List UInt8 :=
  contacts.flatMap fun
    | .write _ data => data
    | _ => []

/-- How one write call ends: with what is still to be written and its length, or with a reason. -/
abbrev WriteResult := Attempt (Except String (List UInt8 × Nat))

/-- Offers bytes to a consumer once; `offered` is their number. An interrupted call leaves all of them to be
written again, and a call that takes nothing is a failure. -/
def Consumer.offer (c : Consumer) (usage : Usage) (bytes : List UInt8) (offered : Nat) :
    Usage × Contact × WriteResult :=
  let used := { usage with calls := usage.calls + 1 }
  match c.write usage.calls usage.taken offered with
  | .returned (.took n) =>
    let n := min n offered
    let result : Except String (List UInt8 × Nat) :=
      if n = 0 then .error "failed to write whole buffer" else .ok (bytes.drop n, offered - n)
    ({ used with taken := usage.taken + n }, .write offered (bytes.take n), .returned result)
  | .returned .interrupted => (used, .interrupted offered, .returned (.ok (bytes, offered)))
  | .returned (.failed reason) => (used, .writeFailed offered, .returned (.error reason))
  | .aborted => (used, .writeFailed offered, .aborted)

/-! ### Scripts -/

/-- A consumer that follows fixed limits. -/
structure ConsumerScript where
  /-- Connecting is aborted. -/
  abortsConnect : Bool := false
  refusal : Option String := none
  /-- Every so many calls one is interrupted. -/
  interruptEvery : Option Nat := none
  /-- Once so many bytes were taken, writing fails. -/
  capacity : Option Nat := none
  /-- Writing beyond the capacity is aborted instead. -/
  abortsWrite : Bool := false
  /-- A call takes at most so many bytes. -/
  maxWrite : Option Nat := none
  flushError : Option String := none

namespace ConsumerScript

def write (s : ConsumerScript) (calls taken offered : Nat) : Attempt Uptake :=
  if s.interruptEvery.any fun k => (calls + 1) % k == 0 then .returned .interrupted
  else if s.capacity.any fun limit => decide (limit ≤ taken) then
    if s.abortsWrite then .aborted else .returned (.failed "sink failed")
  else
    let room := s.capacity.elim offered fun limit => min offered (limit - taken)
    .returned (.took (s.maxWrite.elim room fun limit => min room limit))

def toConsumer (s : ConsumerScript) : Consumer where
  connect :=
    if s.abortsConnect then .aborted
    else .returned (match s.refusal with
      | some reason => .error reason
      | none => .ok ())
  write := s.write
  flush _ _ := .returned (match s.flushError with
    | some reason => .error reason
    | none => .ok ())

end ConsumerScript

end PointStream
