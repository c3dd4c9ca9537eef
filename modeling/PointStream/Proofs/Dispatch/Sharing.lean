import Mathlib.Logic.Function.Basic
import Mathlib.Logic.Relation
import PointStream.Proofs.Dispatch.Responses

/-!
# Sharing a writer

Threads send messages over one writer. A thread takes the lock, writes its message in pieces of any size, and lets go
of the lock; so lines never mix, and a client gets every message on a line of its own, in the order in which the lock
was taken.
-/

namespace PointStream

/-- A writer that threads share: the messages that each thread is still to send, and the thread that holds the lock
with the pieces that it is still to write. -/
structure Sharing where
  writer : MessageWriter := {}
  outbox : Nat → List Message
  holder : Option (Nat × List (List UInt8)) := none
  /-- Who has taken the lock so far, for which message. -/
  taken : List (Nat × Message) := []

namespace Sharing

/-- A step of one of the threads. -/
inductive Step (s : Sharing) : Sharing → Prop where
  | lock {sender : Nat} {m : Message} {rest : List Message} {pieces : List (List UInt8)} (free : s.holder = none)
    (next : s.outbox sender = m :: rest) (whole : pieces.flatten = m.wire) :
    Step s { s with
      outbox := Function.update s.outbox sender rest
      holder := some (sender, pieces)
      taken := s.taken ++ [(sender, m)] }
  | write {sender : Nat} {piece : List UInt8} {pieces : List (List UInt8)}
    (held : s.holder = some (sender, piece :: pieces)) :
    Step s { s with writer := (s.writer.put piece).1, holder := some (sender, pieces) }
  | unlock {sender : Nat} (held : s.holder = some (sender, [])) : Step s { s with holder := none }

def Reaches : Sharing → Sharing → Prop := Relation.ReflTransGen Step

theorem put_of_open {w : MessageWriter} (isOpen : w.IsOpen) (bytes : List UInt8) :
    (w.put bytes).1 = { w with sent := w.sent ++ bytes } := by
  rw [MessageWriter.put, isOpen.room]

/-- The writer's own way of sending a message is what a thread does that is not disturbed: it writes the text and then
the line feed. -/
theorem reaches_send {s : Sharing} (sender : Nat) (isOpen : s.writer.IsOpen) (free : s.holder = none) {m : Message}
    {rest : List Message} (next : s.outbox sender = m :: rest) :
    s.Reaches { s with
      writer := (s.writer.send m).1
      outbox := Function.update s.outbox sender rest
      taken := s.taken ++ [(sender, m)] } := by
  have whole : [Text.Utf8.encode m.text, [lineFeed]].flatten = m.wire := by simp [Message.wire]
  have still_open : (s.writer.put (Text.Utf8.encode m.text)).1.IsOpen := by
    rw [put_of_open isOpen]
    exact ⟨isOpen.room, isOpen.flushes⟩
  have sent : (s.writer.send m).1 = ((s.writer.put (Text.Utf8.encode m.text)).1.put [lineFeed]).1 := by
    rw [isOpen.send, put_of_open still_open, put_of_open isOpen]
    simp [Message.wire]
  have locked : s.Reaches _ := .single (.lock free next whole)
  have written := ((locked.tail (.write rfl)).tail (.write rfl)).tail (.unlock rfl)
  simpa only [Reaches, sent, free] using written

/-- What every step keeps: the messages for which the lock was taken are what was written and what the holder is
still to write, and each thread's own come in its order. -/
structure Kept (outbox : Nat → List Message) (s : Sharing) : Prop where
  isOpen : s.writer.IsOpen
  sent : s.writer.sent ++ (s.holder.elim [] fun held => held.2.flatten)
    = (s.taken.map Prod.snd).flatMap Message.wire
  each : ∀ sender, (s.taken.filter (·.1 = sender)).map Prod.snd ++ s.outbox sender = outbox sender

variable {outbox : Nat → List Message} {s t : Sharing}

theorem kept_start (outbox : Nat → List Message) : Kept outbox { outbox } := ⟨⟨rfl, rfl⟩, rfl, fun _ => rfl⟩

theorem Kept.step (kept : Kept outbox s) (stepped : s.Step t) : Kept outbox t := by
  have sent := kept.sent
  cases stepped with
  | @lock sender m rest pieces free next whole =>
    -- The message moves from what the thread has to send to what the holder is still to write.
    rw [free] at sent
    refine ⟨kept.isOpen, ?_, fun other => ?_⟩
    · rw [List.map_append, List.flatMap_append, ← sent]
      simp [whole]
    · have each := kept.each other
      by_cases own : other = sender
      · subst own
        rw [next] at each
        simpa using each
      · simpa [Ne.symm own, Function.update_of_ne own] using each
  | write held =>
    rw [held] at sent
    rw [put_of_open kept.isOpen]
    refine ⟨⟨kept.isOpen.room, kept.isOpen.flushes⟩, ?_, kept.each⟩
    rw [← sent]
    simp
  | unlock held =>
    rw [held] at sent
    exact ⟨kept.isOpen, sent, kept.each⟩

theorem kept_of_reaches (reached : Reaches { outbox } s) : Kept outbox s := by
  induction reached with
  | refl => exact kept_start outbox
  | tail _ stepped ih => exact ih.step stepped

/-- One thread sends the outcome of a request, another an error with a quote and a line feed in it. -/
def twoSenders : Nat → List Message
  | 0 => [.accepted 3 24]
  | 1 => [.error "no \"such\"\nsource"]
  | _ => []

end Sharing

end PointStream
