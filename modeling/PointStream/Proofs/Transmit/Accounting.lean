import Mathlib.Data.List.Basic
import PointStream.Proofs.Read.Command
import PointStream.Source.Fixed
import PointStream.Transmit.Transmission

/-!
# What a transmission delivers

A transmission is followed step by step, with every call it makes and every range it begins to write. Where it
stands tells exactly which bytes the consumer has got, and its end tells the same to whoever reads the report.
A consumer that does not interrupt forever brings every transmission to its end.
-/

namespace PointStream

@[simp] theorem Contact.received_append (early late : List Contact) :
    received (early ++ late) = received early ++ received late := List.flatMap_append

theorem Contact.received_snoc_of_nothing (contacts : List Contact) {contact : Contact}
    (nothing : received [contact] = []) : received (contacts ++ [contact]) = received contacts := by
  rw [received_append, nothing, List.append_nil]

namespace Transmission

/-! ### Courses -/

/-- A transmission so far: the calls made, the ranges begun, and what comes next. -/
structure Course where
  contacts : List Contact := []
  ranges : List (Nat × Nat) := []
  next : Next := .goesOn {}

/-- The range that a step begins to write. -/
def begun (t : Transmission) (next : Next) : List (Nat × Nat) :=
  match t.phase, next with
  | .testing _, .goesOn ⟨.writing offset length _ _, _⟩ => [(offset, length)]
  | _, _ => []

/-- A transmission after some steps; `cancelled` tells of each step whether the read was cancelled by then. -/
def course (consumer : Consumer) (c : ReadCommand) (cancelled : Nat → Bool) : (steps : Nat) → Course
  | 0 => {}
  | steps + 1 =>
    let so_far := course consumer c cancelled steps
    match so_far.next with
    | .goesOn t =>
      let (contacts, next) := t.step consumer c (cancelled steps)
      { contacts := so_far.contacts ++ contacts, ranges := so_far.ranges ++ t.begun next, next }
    | .ends _ => so_far

/-- The ranges of the first chunks of a payload. -/
def chunks (c : ReadCommand) (m : Nat) : List (Nat × Nat) :=
  (List.range m).map fun i => (i * chunkSize, min chunkSize (c.numBytes - i * chunkSize))

/-- The first `m` chunks have been begun, and each begins inside the payload. -/
structure Chunked (c : ReadCommand) (ranges : List (Nat × Nat)) (m : Nat) : Prop where
  called : ranges = chunks c m
  inside : ∀ i, i < m → i * chunkSize < c.numBytes

/-- Where a transmission stands: what is written of the payload, chunk by chunk. -/
inductive Standing (c : ReadCommand) (contacts : List Contact) (ranges : List (Nat × Nat)) : Phase → Prop
  | connecting (chunked : Chunked c ranges 0) (received : Contact.received contacts = []) :
      Standing c contacts ranges .connecting
  | testing (m : Nat) (chunked : Chunked c ranges m)
      (received : Contact.received contacts = c.payload.take (m * chunkSize)) :
      Standing c contacts ranges (.testing (min (m * chunkSize) c.numBytes))
  | writing (m done left : Nat) (chunked : Chunked c ranges (m + 1)) (unfinished : 0 < left)
      (length : done + left = min chunkSize (c.numBytes - m * chunkSize))
      (received : Contact.received contacts = c.payload.take (m * chunkSize + done)) :
      Standing c contacts ranges (.writing (m * chunkSize) (min chunkSize (c.numBytes - m * chunkSize))
        ((c.payload.drop (m * chunkSize + done)).take left) left)
  | flushing (m : Nat) (chunked : Chunked c ranges m) (complete : c.numBytes ≤ m * chunkSize)
      (received : Contact.received contacts = c.payload) : Standing c contacts ranges .flushing

/-- A call to write bytes fails for a reason. To take none of them is a failure as well. -/
def FailsToWrite (consumer : Consumer) (calls taken offered : Nat) (reason : String) : Prop :=
  consumer.write calls taken offered = .returned (.failed reason) ∨
    consumer.write calls taken offered = .returned (.took 0) ∧ reason = "failed to write whole buffer"

/-- How a transmission ends, and what was delivered by then; `cancelled` tells whether its read was cancelled by the
last step. -/
inductive Ending (consumer : Consumer) (c : ReadCommand) (cancelled : Bool) (contacts : List Contact)
    (ranges : List (Nat × Nat)) : Attempt Outcome → Prop
  | completed (calls : Nat) (chunked : Chunked c ranges ((c.numBytes + chunkSize - 1) / chunkSize))
      (received : Contact.received contacts = c.payload) (last : contacts.getLast? = some .flush)
      (flushed : consumer.flush calls c.numBytes = .returned (.ok ())) :
      Ending consumer c cancelled contacts ranges (.returned (.completed c.numBytes))
  | cancelled (m : Nat) (set : cancelled = true) (chunked : Chunked c ranges m) (rest : m * chunkSize < c.numBytes)
      (received : Contact.received contacts = c.payload.take (m * chunkSize)) :
      Ending consumer c cancelled contacts ranges (.returned (.cancelled (m * chunkSize) c.numBytes))
  | refused (reason : String) (chunked : Chunked c ranges 0)
      (refuses : consumer.connect = .returned (.error reason)) (received : Contact.received contacts = []) :
      Ending consumer c cancelled contacts ranges
        (.returned (.failed 0 c.numBytes (TransmitError.connect c.host c.port reason).message))
  | writeFailed (m calls left : Nat) (reason : String) (chunked : Chunked c ranges (m + 1))
      (front : Contact.received contacts <+: c.payload)
      (lower : m * chunkSize ≤ (Contact.received contacts).length)
      (upper : (Contact.received contacts).length < min (m * chunkSize + chunkSize) c.numBytes)
      (rest : (Contact.received contacts).length + left = min (m * chunkSize + chunkSize) c.numBytes)
      (fails : FailsToWrite consumer calls (Contact.received contacts).length left reason) :
      Ending consumer c cancelled contacts ranges (.returned (.failed (m * chunkSize) c.numBytes
        (TransmitError.write (m * chunkSize) (min chunkSize (c.numBytes - m * chunkSize)) reason).message))
  | flushFailed (calls : Nat) (reason : String)
      (chunked : Chunked c ranges ((c.numBytes + chunkSize - 1) / chunkSize))
      (received : Contact.received contacts = c.payload)
      (fails : consumer.flush calls c.numBytes = .returned (.error reason)) :
      Ending consumer c cancelled contacts ranges
        (.returned (.failed c.numBytes c.numBytes (TransmitError.flush reason).message))
  | connectAborted (chunked : Chunked c ranges 0) (aborts : consumer.connect = .aborted)
      (received : Contact.received contacts = []) : Ending consumer c cancelled contacts ranges .aborted

/-- A course that goes on stands somewhere, and knows how much the consumer has taken; one that is over has
ended as it should. -/
def Accounted (consumer : Consumer) (c : ReadCommand) (cancelled : Bool) (contacts : List Contact)
    (ranges : List (Nat × Nat)) : Next → Prop
  | .goesOn t => Standing c contacts ranges t.phase ∧ t.usage.taken = (Contact.received contacts).length
  | .ends result => Ending consumer c cancelled contacts ranges result

/-- A sink whose calls all return. -/
structure Returns (consumer : Consumer) : Prop where
  write : ∀ calls taken offered, consumer.write calls taken offered ≠ .aborted
  flush : ∀ calls taken, consumer.flush calls taken ≠ .aborted

/-- The call that a transmission makes to its sink next returns. -/
structure ReturnsNext (consumer : Consumer) (t : Transmission) : Prop where
  write : ∀ offset length bytes left, t.phase = .writing offset length bytes left →
    consumer.write t.usage.calls t.usage.taken left ≠ .aborted
  flush : t.phase = .flushing → consumer.flush t.usage.calls t.usage.taken ≠ .aborted

theorem Returns.next {consumer : Consumer} (returns : Returns consumer) (t : Transmission) :
    ReturnsNext consumer t :=
  ⟨fun _ _ _ _ _ => returns.write _ _ _, fun _ => returns.flush _ _⟩

theorem length_payload {c : ReadCommand} (filled : c.numBytes ≤ c.capacity) :
    c.payload.length = c.numBytes := by
  rw [ReadCommand.payload, List.length_take]
  exact Nat.min_eq_left filled

theorem chunkSize_pos : 0 < chunkSize := by decide

theorem chunked_zero (c : ReadCommand) : Chunked c [] 0 := ⟨rfl, by simp⟩

theorem Chunked.next {c : ReadCommand} {ranges : List (Nat × Nat)} {m : Nat} (chunked : Chunked c ranges m)
    (rest : m * chunkSize < c.numBytes) :
    Chunked c (ranges ++ [(m * chunkSize, min chunkSize (c.numBytes - m * chunkSize))]) (m + 1) := by
  constructor
  · rw [chunked.called, chunks, chunks, List.range_succ, List.map_append, List.map_singleton]
  · intro i below
    rcases Nat.lt_succ_iff_lt_or_eq.mp below with earlier | rfl
    · exact chunked.inside i earlier
    · exact rest

/-- Once the whole payload is written, there have been as many chunks as it takes. -/
theorem Chunked.count {c : ReadCommand} {ranges : List (Nat × Nat)} {m : Nat} (chunked : Chunked c ranges m)
    (complete : c.numBytes ≤ m * chunkSize) : m = (c.numBytes + chunkSize - 1) / chunkSize := by
  have chunk := chunkSize_pos
  refine (Nat.div_eq_of_lt_le ?_ ?_).symm
  · cases m with
    | zero => omega
    | succ m =>
      have last := chunked.inside m (Nat.lt_succ_self m)
      rw [Nat.succ_mul]
      omega
  · rw [Nat.succ_mul]
    omega

/-! ### Steps -/

theorem chunk_end {m size : Nat} (inside : m * chunkSize < size) :
    m * chunkSize + min chunkSize (size - m * chunkSize) = min ((m + 1) * chunkSize) size := by
  rw [Nat.succ_mul]
  omega

theorem chunk_within {m size done left k : Nat} (inside : m * chunkSize < size)
    (length : done + left = min chunkSize (size - m * chunkSize)) (moved : k ≤ left) :
    m * chunkSize + (done + k) ≤ size := by
  omega

theorem chunk_done {done left k chunk : Nat} (length : done + left = chunk) (moved : k ≤ left)
    (finished : left - k = 0) : done + k = chunk := by
  omega

variable {consumer : Consumer} {c : ReadCommand} {contacts : List Contact} {ranges : List (Nat × Nat)}

def StepAccounted (consumer : Consumer) (c : ReadCommand) (cancelled : Bool) (contacts : List Contact)
    (ranges : List (Nat × Nat)) (t : Transmission) : Prop :=
  Accounted consumer c cancelled (contacts ++ (t.step consumer c cancelled).1)
    (ranges ++ t.begun (t.step consumer c cancelled).2) (t.step consumer c cancelled).2

theorem connecting_accounted (cancelled : Bool) {usage : Usage} (chunked : Chunked c ranges 0)
    (received : Contact.received contacts = [])
    (taken : usage.taken = (Contact.received contacts).length) :
    StepAccounted consumer c cancelled contacts ranges ⟨.connecting, usage⟩ := by
  have nothing : Contact.received (contacts ++ [.connect c.host c.port]) = [] := by
    rw [Contact.received_snoc_of_nothing contacts rfl, received]
  unfold StepAccounted
  simp only [step, begun, List.append_nil]
  split
  next connects =>
    refine ⟨?_, ?_⟩
    · have start : Standing c (contacts ++ [.connect c.host c.port]) ranges _ :=
        .testing 0 chunked (by simp [nothing])
      simpa using start
    · rw [nothing]
      rw [received] at taken
      exact taken
  next reason refuses => exact .refused reason chunked refuses nothing
  next aborts => exact .connectAborted chunked aborts nothing

theorem Chunked.starts {m : Nat} (chunked : Chunked c ranges m) (inside : m * chunkSize < c.numBytes)
    (received : Contact.received contacts = c.payload.take (m * chunkSize)) :
    Standing c contacts (ranges ++ [(m * chunkSize, min chunkSize (c.numBytes - m * chunkSize))])
      (.writing (m * chunkSize) (min chunkSize (c.numBytes - m * chunkSize))
        ((c.payload.drop (m * chunkSize)).take (min chunkSize (c.numBytes - m * chunkSize)))
        (min chunkSize (c.numBytes - m * chunkSize))) := by
  have some_bytes : 0 < min chunkSize (c.numBytes - m * chunkSize) := by
    have chunk := chunkSize_pos
    omega
  have start := Standing.writing m 0 (min chunkSize (c.numBytes - m * chunkSize)) (chunked.next inside)
    some_bytes (Nat.zero_add _) (by rwa [Nat.add_zero])
  rwa [Nat.add_zero] at start

theorem testing_accounted (filled : c.numBytes ≤ c.capacity) (cancelled : Bool) {usage : Usage} {m : Nat}
    (chunked : Chunked c ranges m)
    (received : Contact.received contacts = c.payload.take (m * chunkSize))
    (taken : usage.taken = (Contact.received contacts).length) :
    StepAccounted consumer c cancelled contacts ranges
      ⟨.testing (min (m * chunkSize) c.numBytes), usage⟩ := by
  unfold StepAccounted
  simp only [step, List.append_nil]
  split
  next complete =>
    have all : c.numBytes ≤ m * chunkSize := by omega
    refine ⟨?_, taken⟩
    simp only [begun, List.append_nil]
    refine .flushing m chunked all ?_
    rw [received, List.take_of_length_le]
    rw [length_payload filled]
    exact all
  next rest =>
    have inside : m * chunkSize < c.numBytes := by omega
    rw [Nat.min_eq_left (Nat.le_of_lt inside)]
    split
    next set =>
      simp only [begun, List.append_nil]
      exact .cancelled m set chunked inside received
    next =>
      have in_range : m * chunkSize + min chunkSize (c.numBytes - m * chunkSize) ≤ c.payload.length := by
        rw [length_payload filled, chunk_end inside]
        exact Nat.min_le_right _ _
      have sliced : slice? c.payload (m * chunkSize) (min chunkSize (c.numBytes - m * chunkSize))
          = some ((c.payload.drop (m * chunkSize)).take (min chunkSize (c.numBytes - m * chunkSize))) :=
        if_pos in_range
      rw [sliced]
      exact ⟨chunked.starts inside received, taken⟩

/-- A call that fails leaves what is delivered inside the chunk. -/
theorem Ending.of_failed_write (filled : c.numBytes ≤ c.capacity) (cancelled : Bool) {usage : Usage} {m done left : Nat}
    (chunked : Chunked c ranges (m + 1)) (unfinished : 0 < left)
    (length : done + left = min chunkSize (c.numBytes - m * chunkSize))
    (received : Contact.received contacts = c.payload.take (m * chunkSize + done))
    (taken : usage.taken = (Contact.received contacts).length) {contact : Contact}
    (nothing : Contact.received [contact] = []) {reason : String}
    (fails : FailsToWrite consumer usage.calls usage.taken left reason) :
    Ending consumer c cancelled (contacts ++ [contact]) ranges (.returned (.failed (m * chunkSize) c.numBytes
      (TransmitError.write (m * chunkSize) (min chunkSize (c.numBytes - m * chunkSize)) reason).message)) := by
  have inside := chunked.inside m (Nat.lt_succ_self m)
  have same := Contact.received_snoc_of_nothing contacts nothing
  have delivered : (Contact.received contacts).length = m * chunkSize + done := by
    rw [received, List.length_take, length_payload filled]
    omega
  refine .writeFailed m usage.calls left reason chunked ?_ ?_ ?_ ?_ ?_
  · rw [same, received]
    exact List.take_prefix _ _
  · rw [same, delivered]
    omega
  · rw [same, delivered]
    omega
  · rw [same, delivered]
    omega
  · rw [same, ← taken]
    exact fails

theorem received_of_written {m done left k : Nat} (moved : k ≤ left)
    (received : Contact.received contacts = c.payload.take (m * chunkSize + done)) :
    Contact.received (contacts ++ [.write left (((c.payload.drop (m * chunkSize + done)).take left).take k)])
      = c.payload.take (m * chunkSize + (done + k)) := by
  have more : c.payload.take (m * chunkSize + done + k)
      = c.payload.take (m * chunkSize + done) ++ (c.payload.drop (m * chunkSize + done)).take k := List.take_add
  rw [Contact.received_append, received, List.take_take, Nat.min_eq_left moved, ← Nat.add_assoc, more]
  simp [Contact.received]

theorem Standing.of_written (filled : c.numBytes ≤ c.capacity) {m done left k : Nat}
    (chunked : Chunked c ranges (m + 1))
    (length : done + left = min chunkSize (c.numBytes - m * chunkSize)) (moved : k ≤ left)
    (received : Contact.received contacts = c.payload.take (m * chunkSize + (done + k))) :
    Standing c contacts ranges
      (if left - k = 0 then .testing (m * chunkSize + min chunkSize (c.numBytes - m * chunkSize))
        else .writing (m * chunkSize) (min chunkSize (c.numBytes - m * chunkSize))
          (((c.payload.drop (m * chunkSize + done)).take left).drop k) (left - k)) := by
  have inside := chunked.inside m (Nat.lt_succ_self m)
  split
  next finished =>
    -- The chunk is done, so the next one begins where it ends.
    have whole := chunk_done length moved finished
    rw [chunk_end inside]
    refine .testing (m + 1) chunked ?_
    rw [received, whole, chunk_end inside, ← length_payload filled, ← List.take_eq_take_min]
  next unfinished =>
    have rest : ((c.payload.drop (m * chunkSize + done)).take left).drop k
        = (c.payload.drop (m * chunkSize + (done + k))).take (left - k) := by
      rw [List.drop_take, List.drop_drop, Nat.add_assoc]
    rw [rest]
    exact .writing m (done + k) (left - k) chunked (Nat.pos_of_ne_zero unfinished) (by omega) received

theorem writing_accounted (filled : c.numBytes ≤ c.capacity) (cancelled : Bool) {usage : Usage}
    {m done left : Nat} (returns : consumer.write usage.calls usage.taken left ≠ .aborted)
    (chunked : Chunked c ranges (m + 1)) (unfinished : 0 < left)
    (length : done + left = min chunkSize (c.numBytes - m * chunkSize))
    (received : Contact.received contacts = c.payload.take (m * chunkSize + done))
    (taken : usage.taken = (Contact.received contacts).length) :
    StepAccounted consumer c cancelled contacts ranges ⟨.writing (m * chunkSize)
      (min chunkSize (c.numBytes - m * chunkSize))
      ((c.payload.drop (m * chunkSize + done)).take left) left, usage⟩ := by
  unfold StepAccounted
  simp only [step, begun, List.append_nil]
  unfold Consumer.offer
  split
  next n took =>
    dsimp only
    by_cases nothing : min n left = 0
    · obtain rfl : n = 0 := by omega
      rw [nothing, if_pos rfl, List.take_zero]
      exact .of_failed_write filled cancelled chunked unfinished length received taken rfl (.inr ⟨took, rfl⟩)
    · rw [if_neg nothing]
      dsimp only
      have moved : min n left ≤ left := Nat.min_le_right n left
      generalize min n left = k at moved
      have bytes := received_of_written moved received
      refine ⟨.of_written filled chunked length moved bytes, ?_⟩
      have inside := chunked.inside m (Nat.lt_succ_self m)
      have before : m * chunkSize + done ≤ c.numBytes := chunk_within inside length (Nat.zero_le left)
      have after : m * chunkSize + (done + k) ≤ c.numBytes := chunk_within inside length moved
      rw [bytes, taken, received, List.length_take, List.length_take, length_payload filled,
        Nat.min_eq_left before, Nat.min_eq_left after, Nat.add_assoc]
  next interrupted =>
    dsimp only
    rw [if_neg (Nat.ne_of_gt unfinished)]
    have same : Contact.received (contacts ++ [.interrupted left]) = Contact.received contacts :=
      Contact.received_snoc_of_nothing contacts rfl
    refine ⟨.writing m done left chunked unfinished length (same.trans received), ?_⟩
    rw [same]
    exact taken
  next reason fails =>
    exact .of_failed_write filled cancelled chunked unfinished length received taken rfl (.inl fails)
  next aborts => exact absurd aborts returns

theorem flushing_accounted (filled : c.numBytes ≤ c.capacity) (cancelled : Bool) {usage : Usage} {m : Nat}
    (returns : consumer.flush usage.calls usage.taken ≠ .aborted) (chunked : Chunked c ranges m)
    (complete : c.numBytes ≤ m * chunkSize) (received : Contact.received contacts = c.payload)
    (taken : usage.taken = (Contact.received contacts).length) :
    StepAccounted consumer c cancelled contacts ranges ⟨.flushing, usage⟩ := by
  have all : Contact.received (contacts ++ [.flush]) = c.payload := by
    rw [Contact.received_snoc_of_nothing contacts rfl, received]
  have all_taken : usage.taken = c.numBytes := by rw [taken, received, length_payload filled]
  unfold StepAccounted
  simp only [step, begun, List.append_nil, all_taken]
  split
  next flushes => exact .completed usage.calls (chunked.count complete ▸ chunked) all (by simp) flushes
  next reason fails => exact .flushFailed usage.calls reason (chunked.count complete ▸ chunked) all fails
  next aborts =>
    rw [← all_taken] at aborts
    exact absurd aborts returns

theorem step_accounted (filled : c.numBytes ≤ c.capacity) (cancelled : Bool) {before : Bool} {t : Transmission}
    (returns : ReturnsNext consumer t) (accounted : Accounted consumer c before contacts ranges (.goesOn t)) :
    StepAccounted consumer c cancelled contacts ranges t := by
  obtain ⟨phase, usage⟩ := t
  obtain ⟨standing, taken⟩ := accounted
  cases standing with
  | connecting chunked received => exact connecting_accounted cancelled chunked received taken
  | testing m chunked received => exact testing_accounted filled cancelled chunked received taken
  | writing m done left chunked unfinished length received =>
    exact writing_accounted filled cancelled (returns.write _ _ _ _ rfl) chunked unfinished length received taken
  | flushing m chunked complete received =>
    exact flushing_accounted filled cancelled (returns.flush rfl) chunked complete received taken

/-! ### Courses -/

theorem course_accounted (filled : c.numBytes ≤ c.capacity) (returns : Returns consumer)
    (cancelled : Nat → Bool) (steps : Nat) :
    ∃ last, Accounted consumer c last (course consumer c cancelled steps).contacts
      (course consumer c cancelled steps).ranges (course consumer c cancelled steps).next := by
  induction steps with
  | zero => exact ⟨false, .connecting (chunked_zero c) rfl, rfl⟩
  | succ steps ih =>
    unfold course
    dsimp only
    split
    next t going =>
      rw [going] at ih
      obtain ⟨_, accounted⟩ := ih
      exact ⟨cancelled steps, step_accounted filled (cancelled steps) (returns.next t) accounted⟩
    next => exact ih

/-- The step that ends a course decides by what it finds cancelled. -/
theorem course_ended (filled : c.numBytes ≤ c.capacity) (returns : Returns consumer) {cancelled : Nat → Bool}
    {last : Nat} {t : Transmission} (going : (course consumer c cancelled last).next = .goesOn t)
    {result : Attempt Outcome} (ends : (course consumer c cancelled (last + 1)).next = .ends result) :
    Ending consumer c (cancelled last) (course consumer c cancelled (last + 1)).contacts
      (course consumer c cancelled (last + 1)).ranges result := by
  obtain ⟨_, accounted⟩ := course_accounted filled returns cancelled last
  rw [going] at accounted
  have stepped := step_accounted filled (cancelled last) (returns.next t) accounted
  simp only [course, going] at ends ⊢
  unfold StepAccounted at stepped
  rwa [ends] at stepped ⊢

theorem exists_last_step {cancelled : Nat → Bool} {steps : Nat} {result : Attempt Outcome}
    (ends : (course consumer c cancelled steps).next = .ends result) :
    ∃ last t, (course consumer c cancelled last).next = .goesOn t ∧
      (course consumer c cancelled (last + 1)).next = .ends result := by
  induction steps with
  | zero => cases ends
  | succ steps ih =>
    cases so_far : (course consumer c cancelled steps).next with
    | goesOn t => exact ⟨steps, t, so_far, ends⟩
    | ends earlier =>
      -- A course that is over stays as it is.
      simp only [course, so_far] at ends
      exact ih (so_far.trans ends)

/-- What is delivered at any moment is the front of the payload, and the ranges begun are the first chunks. -/
theorem Accounted.delivered {cancelled : Bool} {next : Next}
    (accounted : Accounted consumer c cancelled contacts ranges next) :
    Contact.received contacts <+: c.payload ∧ ∃ m, Chunked c ranges m := by
  cases next with
  | goesOn t =>
    obtain ⟨standing, _⟩ := accounted
    generalize t.phase = phase at standing
    cases standing with
    | connecting chunked received => exact ⟨received ▸ List.nil_prefix, 0, chunked⟩
    | testing m chunked received => exact ⟨received ▸ List.take_prefix _ _, m, chunked⟩
    | writing m done left chunked _ _ received => exact ⟨received ▸ List.take_prefix _ _, m + 1, chunked⟩
    | flushing m chunked _ received => exact ⟨received ▸ List.prefix_refl _, m, chunked⟩
  | ends result =>
    cases accounted with
    | completed _ chunked received => exact ⟨received ▸ List.prefix_refl _, _, chunked⟩
    | cancelled m _ chunked _ received => exact ⟨received ▸ List.take_prefix _ _, m, chunked⟩
    | refused _ chunked _ received => exact ⟨received ▸ List.nil_prefix, 0, chunked⟩
    | writeFailed m _ _ _ chunked front => exact ⟨front, m + 1, chunked⟩
    | flushFailed _ _ chunked received => exact ⟨received ▸ List.prefix_refl _, _, chunked⟩
    | connectAborted chunked _ received => exact ⟨received ▸ List.nil_prefix, 0, chunked⟩

/-! ### Ends -/

/-- How much is left to do: fewer steps than this can be made that are not interrupted writes. -/
def effort (c : ReadCommand) : Phase → Nat
  | .connecting => 2 * c.numBytes + 3
  | .testing offset => 2 * (c.numBytes - offset) + 2
  | .writing offset length _ left => 2 * (c.numBytes - (offset + length - left)) + 1
  | .flushing => 1

/-- The consumer interrupts a write call, which will be made again. -/
def Interrupted (consumer : Consumer) (t t' : Transmission) : Prop :=
  ∃ offset length bytes left, t.phase = .writing offset length bytes left ∧
    consumer.write t.usage.calls t.usage.taken left = .returned .interrupted ∧
    t' = { t with usage.calls := t.usage.calls + 1 }

/-- Every step that is not an interrupted write lowers the effort, or is the last. -/
theorem step_effort (returns : Returns consumer) (cancelled : Bool) {before : Bool} {t t' : Transmission}
    (accounted : Accounted consumer c before contacts ranges (.goesOn t))
    (goes_on : (t.step consumer c cancelled).2 = .goesOn t') :
    effort c t'.phase < effort c t.phase ∨ Interrupted consumer t t' := by
  obtain ⟨phase, usage⟩ := t
  obtain ⟨standing, taken⟩ := accounted
  cases standing with
  | connecting chunked received =>
    simp only [step] at goes_on
    split at goes_on <;> cases goes_on
    exact .inl (by simp [effort])
  | testing m chunked received =>
    simp only [step] at goes_on
    split at goes_on
    next =>
      cases goes_on
      exact .inl (by simp [effort])
    next rest =>
      split at goes_on
      next => cases goes_on
      next =>
        split at goes_on <;> cases goes_on
        -- A chunk is begun with nothing of it written, one step nearer to the end.
        refine .inl ?_
        simp only [effort]
        omega
  | writing m done left chunked unfinished length received =>
    have inside := chunked.inside m (Nat.lt_succ_self m)
    cases wrote : consumer.write usage.calls usage.taken left with
    | aborted => exact absurd wrote (returns.write _ _ _)
    | returned uptake =>
      cases uptake with
      | took n =>
        simp only [step, Consumer.offer, wrote] at goes_on
        by_cases nothing : min n left = 0
        · rw [if_pos nothing] at goes_on
          cases goes_on
        · rw [if_neg nothing] at goes_on
          cases goes_on
          refine .inl ?_
          dsimp only
          split
          next =>
            simp only [effort]
            omega
          next =>
            simp only [effort]
            omega
      | interrupted =>
        simp only [step, Consumer.offer, wrote, if_neg (Nat.ne_of_gt unfinished)] at goes_on
        cases goes_on
        exact .inr ⟨_, _, _, _, rfl, wrote, rfl⟩
      | failed reason =>
        simp only [step, Consumer.offer, wrote] at goes_on
        cases goes_on
  | flushing m chunked complete received =>
    simp only [step] at goes_on
    split at goes_on <;> cases goes_on

theorem course_step (filled : c.numBytes ≤ c.capacity) (returns : Returns consumer)
    {cancelled : Nat → Bool} {steps : Nat} {t : Transmission}
    (going : (course consumer c cancelled steps).next = .goesOn t) :
    (∃ result, (course consumer c cancelled (steps + 1)).next = .ends result) ∨
    ∃ t', (course consumer c cancelled (steps + 1)).next = .goesOn t' ∧
      (effort c t'.phase < effort c t.phase ∨ Interrupted consumer t t') := by
  obtain ⟨_, accounted⟩ := course_accounted filled returns cancelled steps
  rw [going] at accounted
  have next : (course consumer c cancelled (steps + 1)).next = (t.step consumer c (cancelled steps)).2 := by
    simp [course, going]
  rw [next]
  cases stepped : (t.step consumer c (cancelled steps)).2 with
  | ends result => exact .inl ⟨result, rfl⟩
  | goesOn t' => exact .inr ⟨t', rfl, step_effort returns (cancelled steps) accounted stepped⟩

/-- The consumer does not interrupt the same offer forever. -/
def Relents (consumer : Consumer) : Prop :=
  ∀ calls taken offered, ∃ later, calls ≤ later ∧ consumer.write later taken offered ≠ .returned .interrupted

/-- A transmission ends after a write call that is not interrupted, if all that come later do. -/
theorem ends_of_relenting (filled : c.numBytes ≤ c.capacity) (returns : Returns consumer)
    {cancelled : Nat → Bool} {bound : Nat}
    (lower_ends : ∀ steps t, (course consumer c cancelled steps).next = .goesOn t →
      effort c t.phase < bound → ∃ later result, (course consumer c cancelled later).next = .ends result)
    (wait : Nat) : ∀ steps t, (course consumer c cancelled steps).next = .goesOn t →
      effort c t.phase ≤ bound →
      (∀ offset length bytes left, t.phase = .writing offset length bytes left →
        consumer.write (t.usage.calls + wait) t.usage.taken left ≠ .returned .interrupted) →
      ∃ later result, (course consumer c cancelled later).next = .ends result := by
  induction wait with
  | zero =>
    intro steps t going within relents
    rcases course_step filled returns going with ⟨result, ends⟩ | ⟨t', goes_on, lower | interrupted⟩
    · exact ⟨steps + 1, result, ends⟩
    · exact lower_ends (steps + 1) t' goes_on (by omega)
    · obtain ⟨offset, length, bytes, left, writes, held, -⟩ := interrupted
      exact absurd held (relents offset length bytes left writes)
  | succ wait ih =>
    intro steps t going within relents
    rcases course_step filled returns going with ⟨result, ends⟩ | ⟨t', goes_on, lower | interrupted⟩
    · exact ⟨steps + 1, result, ends⟩
    · exact lower_ends (steps + 1) t' goes_on (by omega)
    · -- The call that is not interrupted is one nearer now, and the offer is the same.
      obtain ⟨_, _, _, _, -, -, rfl⟩ := interrupted
      refine ih (steps + 1) _ goes_on within fun offset length bytes left same => ?_
      rw [Nat.add_right_comm, Nat.add_assoc]
      exact relents offset length bytes left same

theorem course_ends (filled : c.numBytes ≤ c.capacity) (returns : Returns consumer)
    (relents : Relents consumer) (cancelled : Nat → Bool) :
    ∃ steps result, (course consumer c cancelled steps).next = .ends result := by
  have all_end (bound : Nat) : ∀ steps t, (course consumer c cancelled steps).next = .goesOn t →
      effort c t.phase < bound → ∃ later result, (course consumer c cancelled later).next = .ends result := by
    induction bound with
    | zero => intro steps t _ below; omega
    | succ bound ih =>
      intro steps t going below
      -- How long to wait for the call that is not interrupted, where the transmission writes.
      obtain ⟨wait, relenting⟩ : ∃ wait, ∀ offset length bytes left,
          t.phase = .writing offset length bytes left →
          consumer.write (t.usage.calls + wait) t.usage.taken left ≠ .returned .interrupted := by
        cases phase : t.phase with
        | writing offset length bytes left =>
          obtain ⟨later, after, taken⟩ := relents t.usage.calls t.usage.taken left
          refine ⟨later - t.usage.calls, ?_⟩
          rintro _ _ _ _ ⟨⟩
          rwa [Nat.add_sub_cancel' after]
        | connecting => exact ⟨0, by rintro _ _ _ _ ⟨⟩⟩
        | testing offset => exact ⟨0, by rintro _ _ _ _ ⟨⟩⟩
        | flushing => exact ⟨0, by rintro _ _ _ _ ⟨⟩⟩
      exact ends_of_relenting filled returns ih wait steps t going (by omega) relenting
  exact all_end (effort c .connecting + 1) 0 {} rfl (Nat.lt_succ_self _)

/-- No range that a transmission begins leaves the payload. -/
theorem Accounted.in_range (filled : c.numBytes ≤ c.capacity) {cancelled : Bool} {t : Transmission} {offset : Nat}
    (accounted : Accounted consumer c cancelled contacts ranges (.goesOn t)) (tests : t.phase = .testing offset) :
    (slice? c.payload offset (min chunkSize (c.numBytes - offset))).isSome = true := by
  obtain ⟨standing, _⟩ := accounted
  rw [tests] at standing
  cases standing with
  | testing m chunked received =>
    have payload := length_payload filled
    unfold slice?
    rw [if_pos]
    · rfl
    · omega

/-- The consumer of a filled payload has always got its front, chunk by chunk, and no chunk leaves the payload.
A consumer that returns and does not interrupt forever brings the transmission to a last step, and its end tells
exactly what was delivered and why there is no more: that the read was cancelled by then, or which call failed. -/
theorem transmission_accounted {command : ReadCommand} (ran : command.run = (c, .returned (.ok ())))
    (returns : Returns consumer) (relents : Relents consumer) (cancelled : Nat → Bool) :
    c.payload.length = c.numBytes ∧
    (∀ steps, Contact.received (course consumer c cancelled steps).contacts <+: c.payload ∧
      (∃ m, Chunked c (course consumer c cancelled steps).ranges m) ∧
      ∀ t offset, (course consumer c cancelled steps).next = .goesOn t → t.phase = .testing offset →
        (slice? c.payload offset (min chunkSize (c.numBytes - offset))).isSome = true) ∧
    ∃ last t result, (course consumer c cancelled last).next = .goesOn t ∧
      (course consumer c cancelled (last + 1)).next = .ends result ∧
      Ending consumer c (cancelled last) (course consumer c cancelled (last + 1)).contacts
        (course consumer c cancelled (last + 1)).ranges result := by
  have filled := ReadCommand.numBytes_le_of_run ran
  refine ⟨length_payload filled, fun steps => ?_, ?_⟩
  · obtain ⟨_, accounted⟩ := course_accounted filled returns cancelled steps
    obtain ⟨front, chunked⟩ := accounted.delivered
    refine ⟨front, chunked, fun t offset going tests => ?_⟩
    rw [going] at accounted
    exact accounted.in_range filled tests
  · obtain ⟨steps, result, ends⟩ := course_ends filled returns relents cancelled
    obtain ⟨last, t, going, ends⟩ := exists_last_step ends
    exact ⟨last, t, result, going, ends, course_ended filled returns going ends⟩

/-- A consumer that takes one byte at a time. -/
def byteByByte : Consumer := ConsumerScript.toConsumer { maxWrite := some 1 }

/-- A command for both bytes of a source of two points. -/
def bothBytes : ReadCommand where
  source := (FixedAnswer.counts 2).toSource 2 [⟨"Intensity", .unsigned, 1⟩] ""
  host := "consumer"
  port := 7000
  schema := ⟨[⟨"Intensity", .unsigned, 1⟩]⟩
  query := .range 0 2
  generation := 1
  buffer := [0, 0]
  numPoints := 0
  numBytes := 0

theorem bothBytes_accounted :
    ∃ last t result, (course byteByByte bothBytes.run.1 (fun _ => false) last).next = .goesOn t ∧
      (course byteByByte bothBytes.run.1 (fun _ => false) (last + 1)).next = .ends result ∧
      Ending byteByByte bothBytes.run.1 false (course byteByByte bothBytes.run.1 (fun _ => false) (last + 1)).contacts
        (course byteByByte bothBytes.run.1 (fun _ => false) (last + 1)).ranges result := by
  have ran : bothBytes.run = (bothBytes.run.1, .returned (.ok ())) := rfl
  have returns : Returns byteByByte := by
    constructor
    · rintro calls taken offered ⟨⟩
    · rintro calls taken ⟨⟩
  have relents : Relents byteByByte := by
    intro calls taken offered
    exact ⟨calls, Nat.le_refl calls, by rintro ⟨⟩⟩
  exact (transmission_accounted ran returns relents fun _ => false).2.2

end Transmission

end PointStream
