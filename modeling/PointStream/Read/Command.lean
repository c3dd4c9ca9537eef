import PointStream.Read.Request
import PointStream.Source.Basic

/-!
# Read commands

A command is a decoded request bound to a source and to a buffer for every point of the source, because the
number of matches is not known before the query has run.
-/

namespace PointStream

inductive ReadError where
  | emptySchema
  /-- The buffer cannot be allocated. Its size is told where that is a word. -/
  | allocation {bytes : Option Nat}
  | source (e : SourceError)
  /-- The source reports more points than the buffer holds. -/
  | overrun (points capacity : Nat)
deriving DecidableEq, Inhabited

namespace ReadError

def message : ReadError → String
  | emptySchema => "Schema has no dimensions"
  | allocation => "Memory allocation failed in READ"
  | source e => e.message
  | overrun points capacity => s!"source wrote {points} points into a {capacity}-byte buffer"

end ReadError

inductive Rejection where
  | request (r : Refusal)
  | command (e : ReadError)
deriving DecidableEq, Inhabited

def Rejection.message : Rejection → String
  | request r => r.message
  | command e => e.message

/-- The size of the largest buffer that can be allocated. -/
def allocationLimit : Nat := 0x7FFFFFFFFFFFFFFF

/-- A read with its buffer, and how much of the buffer the query has filled. -/
structure ReadCommand where
  source : Source
  host : String
  port : Nat
  schema : Schema
  query : Query
  generation : Nat
  buffer : List UInt8
  numPoints : Nat
  numBytes : Nat

namespace ReadCommand

def stride (c : ReadCommand) : Nat := c.schema.stride

def capacity (c : ReadCommand) : Nat := c.buffer.length

/-- The filled part of the buffer. -/
def payload (c : ReadCommand) : List UInt8 := c.buffer.take c.numBytes

/-- Resolves the schema of a request against a source and allocates the buffer. -/
def make (source : Source) (request : ReadRequest) (generation : Nat) : Except ReadError ReadCommand :=
  let schema := request.schema.orNative source.dimensions
  let bytes := source.numPoints * schema.stride
  if schema.stride = 0 then .error .emptySchema
  else if allocationLimit < bytes then
    .error (@ReadError.allocation (if bytes < UInt64.size then some bytes else none))
  else .ok {
    source, schema, generation
    host := request.host
    port := request.port
    query := request.query
    buffer := List.replicate bytes 0
    numPoints := 0
    numBytes := 0 }

/-- Runs the query; its occasion is the generation of the read. The counts are recorded only when it succeeds
and fits the buffer. -/
def run (c : ReadCommand) : ReadCommand × Attempt (Except ReadError Unit) :=
  let filling := c.source.answer c.generation c.schema c.query c.buffer
  let filled := { c with buffer := filling.buffer }
  match filling.count with
  | .aborted => (filled, .aborted)
  | .returned (.error e) => (filled, .returned (.error (.source e)))
  | .returned (.ok points) =>
    let bytes := points * c.stride
    if bytes ≤ c.capacity then
      ({ filled with numPoints := points, numBytes := bytes }, .returned (.ok ()))
    else (filled, .returned (.error (.overrun points c.capacity)))

/-- The command of positional arguments. -/
def ofArguments (source : Source) (positional : List Argument) (generation : Nat) :
    Except Rejection ReadCommand :=
  match ReadRequest.decode source.numPoints positional with
  | .error refusal => .error (.request refusal)
  | .ok request => (make source request generation).mapError .command

end ReadCommand

end PointStream
