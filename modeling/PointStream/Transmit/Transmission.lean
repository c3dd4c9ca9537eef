import PointStream.Read.Command
import PointStream.Transmit.Transmitter

/-!
# Transmissions

The second half of a read as a machine of small steps, so that a cancellation can fall between any two of
them: connect, then for each chunk of the payload test for cancellation and write, then flush. A step calls
the consumer at most once.
-/

namespace PointStream

inductive Outcome where
  | completed (bytes : Nat)
  | cancelled (sent total : Nat)
  | failed (sent total : Nat) (error : String)
deriving DecidableEq, Inhabited

/-- How many bytes are written between two tests for cancellation. -/
def chunkSize : Nat := 64 * 1024

/-- Where a transmission stands. -/
inductive Transmission.Phase where
  | connecting
  /-- All before `offset` is written; the next chunk begins there. -/
  | testing (offset : Nat)
  /-- Of the chunk of `length` bytes at `offset`, the `left` bytes are still to be written. -/
  | writing (offset length : Nat) (bytes : List UInt8) (left : Nat)
  | flushing
deriving Inhabited

structure Transmission where
  phase : Transmission.Phase := .connecting
  usage : Usage := {}
deriving Inhabited

/-- What a step of a transmission leads to. -/
inductive Transmission.Next where
  | goesOn (t : Transmission)
  | ends (outcome : Attempt Outcome)

namespace Transmission

/-- The end by a failure after `sent` bytes. -/
def failure (c : ReadCommand) (sent : Nat) (e : TransmitError) : Next :=
  .ends (.returned (.failed sent c.numBytes e.message))

/-- Takes one step; `cancelled` tells whether the read has been cancelled by now. -/
def step (consumer : Consumer) (c : ReadCommand) (cancelled : Bool) (t : Transmission) :
    List Contact × Next :=
  match t.phase with
  | .connecting =>
    ([.connect c.host c.port],
      match consumer.connect with
      | .returned (.ok ()) => .goesOn { t with phase := .testing 0 }
      | .returned (.error reason) => failure c 0 (.connect c.host c.port reason)
      | .aborted => .ends .aborted)
  | .testing offset =>
    ([],
      if c.numBytes ≤ offset then .goesOn { t with phase := .flushing }
      else if cancelled then .ends (.returned (.cancelled offset c.numBytes))
      else
        let length := min chunkSize (c.numBytes - offset)
        let payload := c.payload
        match slice? payload offset length with
        | some bytes => .goesOn { t with phase := .writing offset length bytes length }
        | none => failure c offset (.outOfRange offset length payload.length))
  | .writing offset length bytes left =>
    let (usage, contact, result) := consumer.offer t.usage bytes left
    ([contact],
      match result with
      | .returned (.ok (bytes, left)) =>
        -- Between two chunks the cancellation is tested again.
        let phase := if left = 0 then .testing (offset + length) else .writing offset length bytes left
        .goesOn { phase, usage }
      | .returned (.error reason) => failure c offset (.write offset length reason)
      | .aborted => .ends .aborted)
  | .flushing =>
    ([.flush],
      match consumer.flush t.usage.calls t.usage.taken with
      | .returned (.ok ()) => .ends (.returned (.completed c.numBytes))
      | .returned (.error reason) => failure c c.numBytes (.flush reason)
      | .aborted => .ends .aborted)

def isWriting (t : Transmission) : Bool :=
  match t.phase with
  | .writing .. => true
  | _ => false

end Transmission

end PointStream
