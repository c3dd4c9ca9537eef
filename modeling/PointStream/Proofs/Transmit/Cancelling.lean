import PointStream.Proofs.Transmit.Accounting

/-!
# Cancelled transmissions

A transmission tests before each chunk whether its read was cancelled, and nowhere else. So the tests that found it
not cancelled are as many as the chunks begun, they bound what the consumer gets, and unless the consumer fails they
decide how the transmission ends.
-/

namespace PointStream

namespace Transmission

/-- The next step tests whether the read was cancelled. -/
def tests (c : ReadCommand) (t : Transmission) : Bool :=
  match t.phase with
  | .testing offset => decide (offset < c.numBytes)
  | _ => false

/-- How a transmission ends when no call fails and it begins so many chunks. -/
def verdict (c : ReadCommand) (begun : Nat) : Outcome :=
  if begun * chunkSize < c.numBytes then .cancelled (begun * chunkSize) c.numBytes else .completed c.numBytes

/-- No call of the consumer fails. A write may be interrupted, and may take any number of the bytes on offer but
none. -/
structure Obliging (consumer : Consumer) : Prop where
  connect : consumer.connect = .returned (.ok ())
  write : ∀ calls taken offered, 0 < offered → consumer.write calls taken offered = .returned .interrupted ∨
    ∃ n, 0 < n ∧ consumer.write calls taken offered = .returned (.took n)
  flush : ∀ calls taken, consumer.flush calls taken = .returned (.ok ())

/-- A transmission of which so many chunks have been begun. Where no call fails its end is known from their
number. -/
def Metered (c : ReadCommand) (obliging : Prop) (contacts : List Contact) (begun : Nat) : Next → Prop
  | .goesOn t => ∃ ranges, ranges.length = begun ∧ Standing c contacts ranges t.phase ∧
      t.usage.taken = (Contact.received contacts).length
  | .ends result => (Contact.received contacts).length ≤ min (begun * chunkSize) c.numBytes ∧
      (obliging → result = .returned (verdict c begun))

variable {consumer : Consumer} {c : ReadCommand} {obliging : Prop} {contacts : List Contact}
  {ranges : List (Nat × Nat)}

theorem Chunked.length {m : Nat} (chunked : Chunked c ranges m) : ranges.length = m := by
  rw [chunked.called, chunks, List.length_map, List.length_range]

/-- As many chunks as a payload has are long enough for it. -/
theorem numBytes_le_chunks (c : ReadCommand) :
    c.numBytes ≤ (c.numBytes + chunkSize - 1) / chunkSize * chunkSize := by
  have chunk := chunkSize_pos
  have split := Nat.div_add_mod (c.numBytes + chunkSize - 1) chunkSize
  have rest := Nat.mod_lt (c.numBytes + chunkSize - 1) chunk
  rw [Nat.mul_comm] at split
  omega

/-- What is delivered lies inside the chunks that were begun. -/
theorem Standing.length_received_le (filled : c.numBytes ≤ c.capacity) {phase : Phase}
    (standing : Standing c contacts ranges phase) :
    (Contact.received contacts).length ≤ min (ranges.length * chunkSize) c.numBytes := by
  have payload := length_payload filled
  cases standing with
  | connecting chunked received => simp [received]
  | testing m chunked received =>
    apply Nat.le_of_eq
    rw [received, chunked.length, List.length_take, payload]
  | writing m done left chunked unfinished length received =>
    rw [received, chunked.length, List.length_take, payload, Nat.succ_mul]
    omega
  | flushing m chunked complete received =>
    rw [received, chunked.length, payload]
    omega

theorem Ending.length_received_le (filled : c.numBytes ≤ c.capacity) {cancelled : Bool} {result : Attempt Outcome}
    (ending : Ending consumer c cancelled contacts ranges result) :
    (Contact.received contacts).length ≤ min (ranges.length * chunkSize) c.numBytes := by
  have payload := length_payload filled
  have enough := numBytes_le_chunks c
  cases ending with
  | completed calls chunked received =>
    rw [received, chunked.length, payload]
    omega
  | cancelled m _ chunked rest received =>
    apply Nat.le_of_eq
    rw [received, chunked.length, List.length_take, payload]
  | refused reason chunked refuses received => simp [received]
  | writeFailed m calls left reason chunked front lower upper =>
    rw [chunked.length, Nat.succ_mul]
    exact Nat.le_of_lt upper
  | flushFailed calls reason chunked received =>
    rw [received, chunked.length, payload]
    omega
  | connectAborted chunked aborts received => simp [received]

/-- A call that aborts delivers nothing. -/
theorem received_of_aborted {t : Transmission} (aborts : ¬ReturnsNext consumer t) (cancelled : Bool) :
    (t.step consumer c cancelled).2 = .ends .aborted ∧
    Contact.received (t.step consumer c cancelled).1 = [] := by
  obtain ⟨phase, usage⟩ := t
  cases phase with
  | connecting => exact absurd ⟨by simp, by simp⟩ aborts
  | testing offset => exact absurd ⟨by simp, by simp⟩ aborts
  | writing offset length bytes left =>
    cases wrote : consumer.write usage.calls usage.taken left with
    | returned uptake =>
      refine absurd ⟨?_, by simp⟩ aborts
      rintro _ _ _ _ ⟨⟩
      simp [wrote]
    | aborted =>
      simp [step, Consumer.offer, wrote, Contact.received]
  | flushing =>
    cases flushed : consumer.flush usage.calls usage.taken with
    | returned answer => exact absurd ⟨by simp, fun _ => by simp [flushed]⟩ aborts
    | aborted =>
      simp [step, flushed, Contact.received]

/-- A chunk that begins inside the payload ends there. -/
theorem slice_chunk (filled : c.numBytes ≤ c.capacity) {offset : Nat} (inside : offset ≤ c.numBytes) :
    slice? c.payload offset (min chunkSize (c.numBytes - offset))
      = some ((c.payload.drop offset).take (min chunkSize (c.numBytes - offset))) := by
  have in_range : offset + min chunkSize (c.numBytes - offset) ≤ c.payload.length := by
    rw [length_payload filled]
    omega
  exact if_pos in_range

/-- A test that finds the read not cancelled begins a chunk, and nothing else does. -/
theorem length_begun (filled : c.numBytes ≤ c.capacity) {t : Transmission}
    (standing : Standing c contacts ranges t.phase) (cancelled : Bool) :
    (t.begun (t.step consumer c cancelled).2).length = (t.tests c && !cancelled).toNat := by
  obtain ⟨phase, usage⟩ := t
  cases standing with
  | connecting | writing | flushing => rfl
  | testing m chunked received =>
    simp only [step, begun, tests]
    by_cases complete : c.numBytes ≤ min (m * chunkSize) c.numBytes
    · rw [if_pos complete, decide_eq_false (Nat.not_lt.mpr complete)]
      rfl
    · rw [if_neg complete, decide_eq_true (Nat.lt_of_not_le complete)]
      cases cancelled with
      | true => rfl
      | false =>
        rw [if_neg Bool.false_ne_true, slice_chunk filled (Nat.min_le_right _ _)]
        rfl

/-- Where no call fails a transmission ends by the number of its chunks. -/
theorem eq_verdict (filled : c.numBytes ≤ c.capacity) (obliges : Obliging consumer) {t : Transmission}
    (standing : Standing c contacts ranges t.phase) {cancelled : Bool} {result : Attempt Outcome}
    (ends : (t.step consumer c cancelled).2 = .ends result) : result = .returned (verdict c ranges.length) := by
  obtain ⟨phase, usage⟩ := t
  cases standing with
  | connecting chunked received =>
    simp only [step, obliges.connect] at ends
    cases ends
  | testing m chunked received =>
    simp only [step] at ends
    split at ends
    next => cases ends
    next rest =>
      have inside : m * chunkSize < c.numBytes := by omega
      split at ends
      next =>
        cases ends
        rw [verdict, chunked.length, if_pos inside, Nat.min_eq_left (Nat.le_of_lt inside)]
      next =>
        rw [slice_chunk filled (Nat.min_le_right _ _)] at ends
        cases ends
  | writing m done left chunked unfinished length received =>
    -- An offer that is not empty is taken in part, or made again.
    rcases obliges.write usage.calls usage.taken left unfinished with interrupted | ⟨n, some_taken, took⟩
    · simp only [step, Consumer.offer, interrupted] at ends
      cases ends
    · have not_nothing : min n left ≠ 0 := by omega
      simp only [step, Consumer.offer, took, if_neg not_nothing] at ends
      cases ends
  | flushing m chunked complete received =>
    simp only [step, obliges.flush] at ends
    cases ends
    rw [verdict, chunked.length, if_neg (Nat.not_lt.mpr complete)]

theorem Metered.length_received_le (filled : c.numBytes ≤ c.capacity) {begun : Nat} {next : Next}
    (metered : Metered c obliging contacts begun next) :
    (Contact.received contacts).length ≤ min (begun * chunkSize) c.numBytes := by
  cases next with
  | goesOn t =>
    obtain ⟨ranges, rfl, standing, -⟩ := metered
    exact standing.length_received_le filled
  | ends result => exact metered.1

theorem metered_connecting (c : ReadCommand) (obliging : Prop) : Metered c obliging [] 0 (.goesOn {}) :=
  ⟨[], rfl, .connecting (chunked_zero c) rfl, rfl⟩

/-- Every step of a transmission begins a chunk exactly if it tests and finds its read not cancelled. -/
theorem step_metered (filled : c.numBytes ≤ c.capacity) (obliges : obliging → Obliging consumer) {begun : Nat}
    {t : Transmission} (metered : Metered c obliging contacts begun (.goesOn t)) (cancelled : Bool) :
    Metered c obliging (contacts ++ (t.step consumer c cancelled).1)
      (begun + (t.tests c && !cancelled).toNat) (t.step consumer c cancelled).2 := by
  obtain ⟨ranges, rfl, standing, taken⟩ := metered
  have more : (t.begun (t.step consumer c cancelled).2).length = (t.tests c && !cancelled).toNat :=
    length_begun filled standing cancelled
  -- The accounts cover calls that return; of one that aborts only what came before counts.
  by_cases returns : ReturnsNext consumer t
  · have so_far : Accounted consumer c false contacts ranges (.goesOn t) := ⟨standing, taken⟩
    have accounted := step_accounted filled cancelled returns so_far
    unfold StepAccounted at accounted
    rw [← more, ← List.length_append]
    cases stepped : (t.step consumer c cancelled).2 with
    | goesOn t' =>
      rw [stepped] at accounted
      exact ⟨_, rfl, accounted.1, accounted.2⟩
    | ends result =>
      rw [stepped] at accounted
      refine ⟨accounted.length_received_le filled, fun obliged => ?_⟩
      -- The last step begins no chunk.
      have none_begun : t.begun (.ends result) = [] := by
        unfold begun
        split <;> simp_all
      rw [none_begun, List.append_nil]
      exact eq_verdict filled (obliges obliged) standing stepped
  · obtain ⟨aborted, nothing⟩ := received_of_aborted (c := c) returns cancelled
    have so_far := standing.length_received_le filled
    rw [aborted]
    refine ⟨?_, fun obliged => ?_⟩
    · rw [Contact.received_append, nothing, List.append_nil]
      rw [Nat.add_mul]
      omega
    · refine absurd ⟨fun offset length bytes left writes aborts => ?_, fun _ aborts => ?_⟩ returns
      · rw [writes] at standing
        cases standing with
        | writing m done _ chunked unfinished =>
          rcases (obliges obliged).write t.usage.calls t.usage.taken left unfinished with interrupted | ⟨n, -, took⟩
          · simp [interrupted] at aborts
          · simp [took] at aborts
      · simp [(obliges obliged).flush] at aborts

end Transmission

end PointStream
