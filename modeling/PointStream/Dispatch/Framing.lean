/-!
# Request lines

A byte stream is cut into lines just after each line feed. A line of more than the limit, its line feed
counted, ends the cutting: nothing from that line on is ever handed out.
-/

namespace PointStream

/-- The largest line, its line feed counted. -/
def lineLimit : Nat := 1024 * 1024

def lineFeed : UInt8 := 0x0A

/-- The line that is being read: its bytes so far, last first, and their number. -/
structure Framing where
  line : List UInt8 := []
  size : Nat := 0
deriving DecidableEq, Inhabited

/-- What a byte completes. -/
inductive Frame where
  | line (bytes : List UInt8)
  /-- The line has reached this many bytes, which is too many. -/
  | tooLarge (size : Nat)
deriving DecidableEq, Inhabited

namespace Framing

def step (f : Framing) (b : UInt8) : Framing × Option Frame :=
  let line := b :: f.line
  let size := f.size + 1
  if lineLimit < size then ({}, some (.tooLarge size))
  else if b = lineFeed then ({}, some (.line line.reverse))
  else (⟨line, size⟩, none)

/-- What is left when the stream ends: an unterminated line, unless it is empty. -/
def remainder (f : Framing) : Option (List UInt8) := if f.size = 0 then none else some f.line.reverse

end Framing

end PointStream
