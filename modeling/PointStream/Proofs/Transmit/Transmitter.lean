import PointStream.Proofs.Transmit.Accounting

/-!
# Transmissions as calls of a transmitter

A transmission makes the calls that a transmitter makes: it connects, transmits one range after another and
flushes. The steps from one test for cancellation to the next are one call of `Transmitter.transmit`, however
often the consumer is called for it.
-/

namespace PointStream.Transmission

variable {consumer : Consumer} {c : ReadCommand} {cancelled : Nat → Bool}

/-! ### What comes of a call -/

def afterConnect (c : ReadCommand) : Attempt (Except TransmitError Transmitter) → Next
  | .returned (.ok t) => .goesOn ⟨.testing 0, t.usage⟩
  | .returned (.error e) => failure c 0 e
  | .aborted => .ends .aborted

def afterTransmit (c : ReadCommand) (offset length : Nat) (usage : Usage) :
    Attempt (Except TransmitError Unit) → Next
  | .returned (.ok ()) => .goesOn ⟨.testing (offset + length), usage⟩
  | .returned (.error e) => failure c offset e
  | .aborted => .ends .aborted

def afterFinish (c : ReadCommand) : Attempt (Except TransmitError Unit) → Next
  | .returned (.ok ()) => .ends (.returned (.completed c.numBytes))
  | .returned (.error e) => failure c c.numBytes e
  | .aborted => .ends .aborted

/-- What comes of writing all of a range, before its errors say which range it was. -/
def afterWrite (c : ReadCommand) (offset length : Nat) (usage : Usage) : Attempt (Except String Unit) → Next
  | .returned (.ok ()) => .goesOn ⟨.testing (offset + length), usage⟩
  | .returned (.error reason) => failure c offset (.write offset length reason)
  | .aborted => .ends .aborted

def afterOffer (c : ReadCommand) (offset length : Nat) (usage : Usage) : WriteResult → Next
  | .returned (.ok (_, 0)) => afterWrite c offset length usage (.returned (.ok ()))
  | .returned (.ok (bytes, left + 1)) => .goesOn ⟨.writing offset length bytes (left + 1), usage⟩
  | .returned (.error reason) => afterWrite c offset length usage (.returned (.error reason))
  | .aborted => .ends .aborted

theorem connecting_eq_connectTo (stop : Bool) :
    (⟨.connecting, {}⟩ : Transmission).step consumer c stop
      = ((consumer.connectTo c.host c.port c.payload).1,
          afterConnect c (consumer.connectTo c.host c.port c.payload).2) := by
  simp only [step, Consumer.connectTo]
  cases consumer.connect with
  | aborted => rfl
  | returned answer => cases answer <;> rfl

theorem flushing_eq_finish (stop : Bool) (usage : Usage) :
    (⟨.flushing, usage⟩ : Transmission).step consumer c stop
      = ((Transmitter.finish ⟨consumer, c.payload, usage⟩).1,
          afterFinish c (Transmitter.finish ⟨consumer, c.payload, usage⟩).2) := by
  simp only [step, Transmitter.finish]
  cases consumer.flush usage.calls usage.taken with
  | aborted => rfl
  | returned answer => cases answer <;> rfl

/-! ### Ranges -/

theorem course_succ {k : Nat} {t : Transmission} (going : (course consumer c cancelled k).next = .goesOn t) :
    course consumer c cancelled (k + 1)
      = { contacts := (course consumer c cancelled k).contacts ++ (t.step consumer c (cancelled k)).1
          ranges := (course consumer c cancelled k).ranges
            ++ t.begun (t.step consumer c (cancelled k)).2
          next := (t.step consumer c (cancelled k)).2 } := by
  rw [course]
  dsimp only
  rw [going]

/-- A step inside a range makes one offer and begins no range. -/
theorem course_offer {k offset length left : Nat} {bytes : List UInt8} {usage used : Usage} {contact : Contact}
    {answer : WriteResult}
    (going : (course consumer c cancelled k).next = .goesOn ⟨.writing offset length bytes left, usage⟩)
    (offered : consumer.offer usage bytes left = (used, contact, answer)) :
    course consumer c cancelled (k + 1)
      = { contacts := (course consumer c cancelled k).contacts ++ [contact]
          ranges := (course consumer c cancelled k).ranges
          next := afterOffer c offset length used answer } := by
  rw [course_succ going]
  simp only [step, offered, begun, List.append_nil, Course.mk.injEq, true_and]
  cases answer with
  | aborted => rfl
  | returned taken =>
    cases taken with
    | error reason => rfl
    | ok rest =>
      obtain ⟨bytes, left⟩ := rest
      cases left <;> rfl

/-- While a range is not written to its end, the transmission calls the consumer as `writeAll` does. -/
theorem course_writeAll {offset length calls left : Nat} {usage after : Usage} {earlier all : List Contact}
    {bytes : List UInt8} {result : Attempt (Except String Unit)} {k : Nat}
    (going : (course consumer c cancelled k).next = .goesOn ⟨.writing offset length bytes left, usage⟩)
    (unfinished : 0 < left)
    (wrote : Transmitter.writeAll consumer calls usage earlier bytes left = some (after, all, result)) :
    ∃ n made, all = earlier.reverse ++ made ∧ course consumer c cancelled (k + n)
      = { contacts := (course consumer c cancelled k).contacts ++ made
          ranges := (course consumer c cancelled k).ranges
          next := afterWrite c offset length after result } := by
  induction calls generalizing usage earlier bytes left k with
  | zero =>
    obtain ⟨left, rfl⟩ := Nat.exists_eq_succ_of_ne_zero (Nat.ne_of_gt unfinished)
    cases wrote
  | succ calls ih =>
    obtain ⟨left, rfl⟩ := Nat.exists_eq_succ_of_ne_zero (Nat.ne_of_gt unfinished)
    rcases offered : consumer.offer usage bytes (left + 1) with ⟨used, contact, answer⟩
    have next := course_offer going offered
    simp only [Transmitter.writeAll, offered] at wrote
    cases answer with
    | aborted =>
      cases wrote
      exact ⟨1, [contact], List.reverse_cons, next⟩
    | returned taken =>
      cases taken with
      | error reason =>
        cases wrote
        exact ⟨1, [contact], List.reverse_cons, next⟩
      | ok remaining =>
        obtain ⟨bytes, left⟩ := remaining
        cases left with
        | zero =>
          simp only [Transmitter.writeAll] at wrote
          cases wrote
          exact ⟨1, [contact], List.reverse_cons, next⟩
        | succ left =>
          -- What was offered is not all taken, so both go on with the rest.
          have goes_on := congrArg Course.next next
          obtain ⟨n, made, all_made, later⟩ := ih goes_on (Nat.succ_pos left) wrote
          refine ⟨n + 1, contact :: made, ?_, ?_⟩
          · rw [all_made, List.reverse_cons, List.append_assoc, List.singleton_append]
          · rw [Nat.add_comm n 1, ← Nat.add_assoc, later, next]
            simp

/-- A range that is begun is one call of `transmit`, which tells what comes after it. -/
theorem course_transmit {k calls offset : Nat} {usage : Usage} {after : Transmitter} {contacts : List Contact}
    {result : Attempt (Except TransmitError Unit)}
    (going : (course consumer c cancelled k).next = .goesOn ⟨.testing offset, usage⟩)
    (rest : offset < c.numBytes) (wanted : cancelled k = false)
    (in_range : (slice? c.payload offset (min chunkSize (c.numBytes - offset))).isSome = true)
    (sent : Transmitter.transmit ⟨consumer, c.payload, usage⟩ calls offset
      (min chunkSize (c.numBytes - offset)) = some (after, contacts, result)) :
    ∃ n, course consumer c cancelled (k + n)
      = { contacts := (course consumer c cancelled k).contacts ++ contacts
          ranges := (course consumer c cancelled k).ranges
            ++ [(offset, min chunkSize (c.numBytes - offset))]
          next := afterTransmit c offset (min chunkSize (c.numBytes - offset)) after.usage result } := by
  obtain ⟨bytes, sliced⟩ := Option.isSome_iff_exists.mp in_range
  have unfinished : 0 < min chunkSize (c.numBytes - offset) := by
    have chunk := chunkSize_pos
    omega
  have begins := course_succ going
  simp only [step, Nat.not_le.mpr rest, if_false, wanted, Bool.false_eq_true, sliced, begun,
    List.append_nil] at begins
  simp only [Transmitter.transmit, sliced, Option.map_eq_some_iff] at sent
  obtain ⟨⟨used, all, written⟩, wrote, same⟩ := sent
  cases same
  obtain ⟨n, made, all_made, later⟩ := course_writeAll (congrArg Course.next begins) unfinished wrote
  rw [List.reverse_nil, List.nil_append] at all_made
  refine ⟨1 + n, ?_⟩
  rw [← Nat.add_assoc, later, begins, all_made]
  cases written with
  | aborted => rfl
  | returned answer => cases answer <;> rfl

end PointStream.Transmission
