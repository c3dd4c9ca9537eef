import PointStream.Proofs.Transmit.Cancelling
import PointStream.Proofs.Transmit.Transmitter

/-!
# Calls that break off

A connect or a write may fail, or be aborted. Either way the transmission ends with the call, and the consumer has got
what it got before. A failure tells where the chunk of the call begins, less than a chunk behind what was delivered; an
abort tells nothing.
-/

namespace PointStream

namespace Transmission

/-- The next call of a transmission breaks off: it fails with a reason, or is aborted. Until then the chunks before
`sent` have been written; `error` is what a failure is reported as. -/
inductive BreaksOff (consumer : Consumer) (c : ReadCommand) (breach : Attempt String) :
    Transmission → (sent : Nat) → (error : String → TransmitError) → Prop
  | connect (usage : Usage) (breaks : consumer.connect = breach.map .error) :
      BreaksOff consumer c breach ⟨.connecting, usage⟩ 0 (.connect c.host c.port)
  | write (usage : Usage) (offset length : Nat) (bytes : List UInt8) (left : Nat)
      (breaks : consumer.write usage.calls usage.taken left = breach.map .failed) :
      BreaksOff consumer c breach ⟨.writing offset length bytes left, usage⟩ offset (.write offset length)

/-- How a transmission ends with a call that breaks off. -/
def breakage (c : ReadCommand) (sent : Nat) (error : String → TransmitError) (breach : Attempt String) :
    Attempt Outcome :=
  breach.map fun reason => .failed sent c.numBytes (error reason).message

/-- How many of the bytes that were delivered are in whole chunks. -/
def wholeChunks (contacts : List Contact) : Nat := (Contact.received contacts).length / chunkSize * chunkSize

variable {consumer : Consumer} {c : ReadCommand} {breach : Attempt String} {t : Transmission} {sent : Nat}
  {error : String → TransmitError} {contacts : List Contact} {ranges : List (Nat × Nat)}

namespace BreaksOff

theorem ends (breaks : BreaksOff consumer c breach t sent error) (cancelled : Bool) :
    (t.step consumer c cancelled).2 = .ends (breakage c sent error breach) := by
  cases breaks with
  | connect usage breaks =>
    simp only [step, breaks]
    cases breach <;> rfl
  | write usage offset length bytes left breaks =>
    simp only [step, Consumer.offer, breaks]
    cases breach <;> rfl

/-- What has been delivered when a call breaks off tells the chunk to which the call belongs. -/
theorem sent_eq (filled : c.numBytes ≤ c.capacity) (breaks : BreaksOff consumer c breach t sent error)
    (standing : Standing c contacts ranges t.phase) :
    sent = wholeChunks contacts := by
  unfold wholeChunks
  cases breaks with
  | connect =>
    cases standing with
    | connecting chunked received => simp [received]
  | write =>
    cases standing with
    | writing m done left chunked unfinished length received =>
      have delivered : (Contact.received contacts).length = m * chunkSize + done := by
        rw [received, List.length_take, length_payload filled]
        omega
      have chunk : done < chunkSize := by omega
      rw [delivered, Nat.add_comm, Nat.add_mul_div_right _ _ chunkSize_pos, Nat.div_eq_of_lt chunk, Nat.zero_add]

theorem error_eq (breaks : BreaksOff consumer c breach t sent error) (standing : Standing c contacts ranges t.phase) :
    error = .connect c.host c.port ∨ error = .write sent (min chunkSize (c.numBytes - sent)) := by
  cases breaks with
  | connect => exact .inl rfl
  | write =>
    cases standing with
    | writing => exact .inr rfl

end BreaksOff

/-- Less than a chunk is delivered behind the whole ones. -/
theorem wholeChunks_spec (contacts : List Contact) :
    wholeChunks contacts ≤ (Contact.received contacts).length ∧
    (Contact.received contacts).length < wholeChunks contacts + chunkSize ∧
    (wholeChunks contacts = 0 ↔ (Contact.received contacts).length < chunkSize) := by
  unfold wholeChunks
  have split := Nat.div_add_mod' (Contact.received contacts).length chunkSize
  have rest := Nat.mod_lt (Contact.received contacts).length chunkSize_pos
  refine ⟨by omega, by omega, ?_⟩
  rw [Nat.mul_eq_zero, or_iff_left (Nat.ne_of_gt chunkSize_pos), Nat.div_eq_zero_iff_lt chunkSize_pos]

/-! ### A consumer of one chunk -/

/-- A consumer that takes one chunk. At the next offer it fails, or is aborted. -/
def oneChunk (aborts : Bool) : Consumer :=
  ConsumerScript.toConsumer { capacity := some chunkSize, abortsWrite := aborts }

def oneChunkBreach (aborts : Bool) : Attempt String := if aborts then .aborted else .returned "sink failed"

theorem received_of_one_write (host : String) (port offered : Nat) (data : List UInt8) :
    Contact.received [.connect host port, .write offered data] = data := by
  simp [Contact.received]

theorem oneChunk_takes (aborts : Bool) (calls : Nat) :
    (oneChunk aborts).write calls 0 chunkSize = .returned (.took chunkSize) := rfl

theorem oneChunk_breaks (aborts : Bool) (calls offered : Nat) :
    (oneChunk aborts).write calls chunkSize offered = (oneChunkBreach aborts).map .failed := by
  cases aborts <;> rfl

/-- A payload of more than a chunk breaks off at its second chunk. -/
theorem course_oneChunk (filled : c.numBytes ≤ c.capacity) (more : chunkSize < c.numBytes) (aborts : Bool) :
    ∃ t, (course (oneChunk aborts) c (fun _ => false) 4).next = .goesOn t ∧
      (course (oneChunk aborts) c (fun _ => false) 4).contacts
        = [.connect c.host c.port, .write chunkSize (c.payload.take chunkSize)] ∧
      BreaksOff (oneChunk aborts) c (oneChunkBreach aborts) t chunkSize
        (.write chunkSize (min chunkSize (c.numBytes - chunkSize))) := by
  have chunk : min chunkSize (c.numBytes - 0) = chunkSize := by omega
  have first := slice_chunk filled (Nat.zero_le c.numBytes)
  have second := slice_chunk filled (Nat.le_of_lt more)
  rw [chunk] at first
  have connects : (course (oneChunk aborts) c (fun _ => false) 1)
      = ⟨[.connect c.host c.port], [], .goesOn ⟨.testing 0, {}⟩⟩ := rfl
  have begins : (⟨.testing 0, {}⟩ : Transmission).step (oneChunk aborts) c false
      = ([], .goesOn ⟨.writing 0 chunkSize (c.payload.take chunkSize) chunkSize, {}⟩) := by
    have nonempty : ¬c.numBytes ≤ 0 := by omega
    simp only [step, if_neg nonempty, chunk, first, Bool.false_eq_true, if_false, List.drop_zero]
  have writes : (⟨.writing 0 chunkSize (c.payload.take chunkSize) chunkSize, {}⟩ : Transmission).step (oneChunk aborts)
      c false = ([.write chunkSize (c.payload.take chunkSize)], .goesOn ⟨.testing chunkSize, ⟨1, chunkSize⟩⟩) := by
    have some_taken : chunkSize ≠ 0 := Nat.ne_of_gt chunkSize_pos
    simp only [step, Consumer.offer, oneChunk_takes, Nat.min_self, if_neg some_taken, List.take_take, Nat.sub_self,
      if_true, Nat.zero_add]
  have begins_next : (⟨.testing chunkSize, ⟨1, chunkSize⟩⟩ : Transmission).step (oneChunk aborts) c false
      = ([], .goesOn ⟨.writing chunkSize (min chunkSize (c.numBytes - chunkSize))
          ((c.payload.drop chunkSize).take (min chunkSize (c.numBytes - chunkSize)))
          (min chunkSize (c.numBytes - chunkSize)), ⟨1, chunkSize⟩⟩) := by
    simp only [step, if_neg (Nat.not_le.mpr more), second, Bool.false_eq_true, if_false]
  have course_two := course_succ (congrArg Course.next connects)
  rw [begins, connects] at course_two
  have course_three := course_succ (congrArg Course.next course_two)
  rw [writes, course_two] at course_three
  have course_four := course_succ (congrArg Course.next course_three)
  rw [begins_next, course_three] at course_four
  rw [course_four]
  exact ⟨_, rfl, rfl, .write ⟨1, chunkSize⟩ _ _ _ _ (oneChunk_breaks aborts 1 _)⟩

end Transmission

end PointStream
