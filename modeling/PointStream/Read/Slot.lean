/-!
# Read slots

A session has one slot, which holds its one outstanding read. Each read that claims the slot is numbered with
a fresh generation; a late completion of an older read carries an older generation and cannot touch a newer
one.
-/

namespace PointStream

/-- Where the outstanding read of a session stands. -/
inductive ReadState where
  | idle
  | reading
  | streaming
deriving DecidableEq, Inhabited

namespace ReadState

def name : ReadState → String
  | idle => "idle"
  | reading => "reading"
  | streaming => "streaming"

end ReadState

structure ActiveRead where
  generation : Nat
  streaming : Bool
deriving DecidableEq, Inhabited

/-- A slot: its outstanding read, how many reads have claimed it so far, and which of them were cancelled. -/
structure ReadSlot where
  active : Option ActiveRead := none
  issued : Nat := 0
  cancelled : List Nat := []
deriving DecidableEq, Inhabited

namespace ReadSlot

/-- Claims the slot for a new read of a fresh generation, unless a read is outstanding. -/
def begin? (s : ReadSlot) : Option (Nat × ReadSlot) :=
  match s.active with
  | some _ => none
  | none =>
    let generation := s.issued + 1
    some (generation, { s with active := some ⟨generation, false⟩, issued := generation })

def isHeldBy (s : ReadSlot) (generation : Nat) : Bool :=
  s.active.any fun read => read.generation == generation

/-- Moves the read from reading to streaming, if it holds the slot. -/
def advance (s : ReadSlot) (generation : Nat) : Bool × ReadSlot :=
  if s.isHeldBy generation then (true, { s with active := some ⟨generation, true⟩ }) else (false, s)

/-- Frees the slot, if the read holds it. -/
def release (s : ReadSlot) (generation : Nat) : Bool × ReadSlot :=
  if s.isHeldBy generation then (true, { s with active := none }) else (false, s)

/-- Marks the outstanding read as cancelled, if there is one. -/
def cancel (s : ReadSlot) : Bool × ReadSlot :=
  match s.active with
  | some read => (true, { s with cancelled := read.generation :: s.cancelled })
  | none => (false, s)

/-- Whether the read of a generation was cancelled while it held the slot. -/
def isCancelled (s : ReadSlot) (generation : Nat) : Bool := s.cancelled.contains generation

def state (s : ReadSlot) : ReadState :=
  match s.active with
  | none => .idle
  | some read => if read.streaming then .streaming else .reading

def isActive (s : ReadSlot) : Bool := s.active.isSome

end ReadSlot

end PointStream
