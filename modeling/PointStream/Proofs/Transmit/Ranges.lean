import PointStream.Proofs.Number.Words
import PointStream.Proofs.Transmit.Accounting

/-!
# Ranges of a buffer, one after another

A transmitter is asked for any ranges in any order, some of which leave its buffer. Each call is judged by itself:
it is refused without a call to the consumer, or it delivers its range up to where the consumer fails. What the
consumer gets from all of them is what they deliver, put together, and a refused call might as well not have been
made.

## Main result

`ranges_delivered`, assembled from `writeAll_wrote` (one range), `delivery_of_transmitEach` (all of them),
`transmitEach_skips` (refusals) and `exists_transmitEach` (consumers that do not interrupt forever).
-/

namespace PointStream

/-! ### Ranges in words -/

/-- The bytes of a range whose end is computed as a word: a sum that is no word leaves every buffer. -/
def sliceInWords? (buffer : List UInt8) (offset length : Nat) : Option (List UInt8) := do
  let ends ← Word.add? offset length
  if ends ≤ buffer.length then some ((buffer.drop offset).take (ends - offset)) else none

theorem sliceInWords?_eq {buffer : List UInt8} (word : buffer.length ≤ Depth.wordMax) (offset length : Nat) :
    sliceInWords? buffer offset length = slice? buffer offset length := by
  unfold sliceInWords? slice?
  by_cases fits : offset + length ≤ Depth.wordMax
  · rw [Word.add?_of_le fits, Option.bind_eq_bind, Option.bind_some, Nat.add_sub_cancel_left]
  · -- A buffer has no more bytes than there are words, so the exact sum leaves it as well.
    rw [Word.add?, if_neg fits, if_neg (by omega)]
    rfl

theorem slice?_eq_none_iff {buffer : List UInt8} {offset length : Nat} :
    slice? buffer offset length = none ↔ buffer.length < offset + length := by
  rw [slice?, ite_eq_right_iff]
  simp

theorem slice?_eq_some_iff {buffer slice : List UInt8} {offset length : Nat} :
    slice? buffer offset length = some slice ↔
      offset + length ≤ buffer.length ∧ slice = (buffer.drop offset).take length := by
  rw [slice?, Option.ite_none_right_eq_some, Option.some.injEq]
  exact and_congr_right fun _ => eq_comm

theorem length_of_inside {buffer : List UInt8} {offset length : Nat} (inside : offset + length ≤ buffer.length) :
    ((buffer.drop offset).take length).length = length := by
  rw [List.length_take, List.length_drop]
  omega

/-! ### One call to the consumer -/

/-- What an offer of bytes led to: some of them are taken, or all are still to be written, or there is an end. -/
inductive Consumer.Offered (c : Consumer) (usage : Usage) (bytes : List UInt8) : Usage × Contact × WriteResult → Prop
  | took (n : Nat) (some_taken : 0 < n) (used : Usage) :
      Offered c usage bytes
        (used, .write bytes.length (bytes.take n), .returned (.ok (bytes.drop n, bytes.length - n)))
  | interrupted (held : c.write usage.calls usage.taken bytes.length = .returned .interrupted) :
      Offered c usage bytes
        ({ usage with calls := usage.calls + 1 }, .interrupted bytes.length, .returned (.ok (bytes, bytes.length)))
  | failed {contact : Contact} (nothing : Contact.received [contact] = []) (used : Usage) (reason : String) :
      Offered c usage bytes (used, contact, .returned (.error reason))
  | aborted {contact : Contact} (nothing : Contact.received [contact] = []) (used : Usage) :
      Offered c usage bytes (used, contact, .aborted)

theorem Consumer.offered_offer (c : Consumer) (usage : Usage) (bytes : List UInt8) :
    c.Offered usage bytes (c.offer usage bytes bytes.length) := by
  unfold offer
  split
  next n _ =>
    dsimp only
    split
    next nothing =>
      -- A consumer that takes nothing of an offer has failed.
      rw [nothing]
      exact .failed rfl _ _
    next some_taken => exact .took _ (Nat.pos_of_ne_zero some_taken) _
  next held => exact .interrupted held
  next reason _ => exact .failed rfl _ reason
  next => exact .aborted rfl _

namespace Transmitter

/-! ### One range -/

/-- What the calls for some bytes delivered of them: all of them, or less if the last call failed. -/
inductive Wrote (bytes : List UInt8) (made : List Contact) : Attempt (Except String Unit) → Prop
  | whole (received : Contact.received made = bytes) : Wrote bytes made (.returned (.ok ()))
  | broken {result : Attempt (Except String Unit)} (failed : result ≠ .returned (.ok ()))
      (front : Contact.received made <+: bytes) (shorter : (Contact.received made).length < bytes.length) :
      Wrote bytes made result

/-- A first call that took `n` bytes, and what the calls after it made of the rest. -/
theorem Wrote.after_took {bytes : List UInt8} {made : List Contact} {result : Attempt (Except String Unit)} {n : Nat}
    (wrote : Wrote (bytes.drop n) made result) (offered : Nat) :
    Wrote bytes (.write offered (bytes.take n) :: made) result := by
  have received : Contact.received (.write offered (bytes.take n) :: made)
      = bytes.take n ++ Contact.received made := rfl
  cases wrote with
  | whole rest =>
    apply Wrote.whole
    rw [received, rest, List.take_append_drop]
  | broken failed front shorter =>
    have longer : bytes.take n ++ Contact.received made <+: bytes.take n ++ bytes.drop n :=
      (List.prefix_append_right_inj _).mpr front
    rw [List.take_append_drop, ← received] at longer
    apply Wrote.broken failed longer
    rw [List.length_drop] at shorter
    rw [received, List.length_append, List.length_take]
    omega

theorem Wrote.after_interrupted {bytes : List UInt8} {made : List Contact} {result : Attempt (Except String Unit)}
    (wrote : Wrote bytes made result) (offered : Nat) : Wrote bytes (.interrupted offered :: made) result := by
  have received : Contact.received (.interrupted offered :: made) = Contact.received made := rfl
  cases wrote with
  | whole rest => exact .whole (received.trans rest)
  | broken failed front shorter => exact .broken failed (received ▸ front) (received ▸ shorter)

/-- A call that takes nothing is the last one. -/
theorem Wrote.of_nothing {b : UInt8} {rest : List UInt8} {contact : Contact} {result : Attempt (Except String Unit)}
    (nothing : Contact.received [contact] = []) (failed : result ≠ .returned (.ok ())) :
    Wrote (b :: rest) [contact] result := by
  apply Wrote.broken failed
  · rw [nothing]
    exact List.nil_prefix
  · rw [nothing]
    exact Nat.succ_pos _

/-- What is made of the answer to a call, when `calls` more can be made. -/
def goOn (c : Consumer) (calls : Nat) (before : List Contact) :
    Usage × Contact × WriteResult → Option (Usage × List Contact × Attempt (Except String Unit))
  | (used, contact, .returned (.ok (bytes, left))) => writeAll c calls used (contact :: before) bytes left
  | (used, contact, .returned (.error reason)) => some (used, (contact :: before).reverse, .returned (.error reason))
  | (used, contact, .aborted) => some (used, (contact :: before).reverse, .aborted)

theorem writeAll_succ (c : Consumer) (calls : Nat) (usage : Usage) (before : List Contact) (bytes : List UInt8)
    (offered : Nat) : writeAll c (calls + 1) usage before bytes (offered + 1)
      = goOn c calls before (c.offer usage bytes (offered + 1)) := by
  rw [writeAll]
  rcases c.offer usage bytes (offered + 1) with ⟨used, contact, (reason | ⟨bytes, left⟩) | _⟩ <;> rfl

/-- However often the consumer is called for some bytes, it has got all of them when `writeAll` succeeds, and a
strict front of them when it fails. -/
theorem writeAll_wrote {c : Consumer} {calls : Nat} {usage after : Usage} {before all : List Contact}
    {bytes : List UInt8} {result : Attempt (Except String Unit)}
    (wrote : writeAll c calls usage before bytes bytes.length = some (after, all, result)) :
    ∃ made, all = before.reverse ++ made ∧ Wrote bytes made result := by
  -- The induction is on the calls that may still be made; what is left to write changes with each of them.
  induction calls generalizing usage before bytes with
  | zero =>
    cases bytes with
    | nil =>
      cases wrote
      exact ⟨[], (List.append_nil _).symm, .whole rfl⟩
    | cons b rest => cases wrote
  | succ calls ih =>
    cases bytes with
    | nil =>
      cases wrote
      exact ⟨[], (List.append_nil _).symm, .whole rfl⟩
    | cons b rest =>
      have call := c.offered_offer usage (b :: rest)
      rw [List.length_cons, writeAll_succ, ← List.length_cons (a := b)] at wrote
      have order (contact : Contact) (made : List Contact) :
          (contact :: before).reverse ++ made = before.reverse ++ contact :: made := by simp
      generalize c.offer usage (b :: rest) (b :: rest).length = answer at call wrote
      cases call with
      | took n some_taken =>
        rw [goOn, ← List.length_drop] at wrote
        obtain ⟨made, rfl, delivered⟩ := ih wrote
        exact ⟨_, order _ made, delivered.after_took _⟩
      | interrupted held =>
        obtain ⟨made, rfl, delivered⟩ := ih wrote
        exact ⟨_, order _ made, delivered.after_interrupted _⟩
      | failed nothing _ reason =>
        cases wrote
        exact ⟨[_], List.reverse_cons, .of_nothing nothing nofun⟩
      | aborted nothing =>
        cases wrote
        exact ⟨[_], List.reverse_cons, .of_nothing nothing nofun⟩

/-- More calls than are needed change nothing. -/
theorem writeAll_mono {c : Consumer} {calls more : Nat} (enough : calls ≤ more) {usage : Usage} {before : List Contact}
    {bytes : List UInt8} {offered : Nat} {done : Usage × List Contact × Attempt (Except String Unit)}
    (wrote : writeAll c calls usage before bytes offered = some done) :
    writeAll c more usage before bytes offered = some done := by
  induction calls generalizing more usage before bytes offered with
  | zero =>
    cases offered with
    | zero =>
      rw [writeAll] at wrote ⊢
      exact wrote
    | succ offered => cases wrote
  | succ calls ih =>
    obtain ⟨more, rfl⟩ := Nat.exists_eq_add_of_le' (Nat.lt_of_lt_of_le (Nat.succ_pos calls) enough)
    cases offered with
    | zero => exact wrote
    | succ offered =>
      rw [writeAll_succ] at wrote ⊢
      generalize c.offer usage bytes (offered + 1) = answer at wrote ⊢
      rcases answer with ⟨used, contact, (reason | ⟨bytes, left⟩) | _⟩
      · exact wrote
      · exact ih (Nat.le_of_succ_le_succ enough) wrote
      · exact wrote

/-- Some number of calls is enough for some bytes. -/
def Suffices (c : Consumer) (usage : Usage) (before : List Contact) (bytes : List UInt8) : Prop :=
  ∃ calls done, writeAll c calls usage before bytes bytes.length = some done

/-- One call is enough, unless it leaves some of the bytes or is interrupted. -/
theorem suffices_of_call {c : Consumer} {usage : Usage} {before : List Contact} {bytes : List UInt8}
    (shorter : ∀ rest : List UInt8, rest.length < bytes.length → ∀ usage before, Suffices c usage before rest)
    (again : c.write usage.calls usage.taken bytes.length = .returned .interrupted →
      Suffices c { usage with calls := usage.calls + 1 } (.interrupted bytes.length :: before) bytes) :
    Suffices c usage before bytes := by
  cases bytes with
  | nil => exact ⟨0, _, rfl⟩
  | cons b rest =>
    have call := c.offered_offer usage (b :: rest)
    have unfolded (calls : Nat) : writeAll c (calls + 1) usage before (b :: rest) (b :: rest).length
        = goOn c calls before (c.offer usage (b :: rest) (b :: rest).length) := writeAll_succ ..
    generalize c.offer usage (b :: rest) (b :: rest).length = answer at call unfolded
    cases call with
    | took n some_taken used =>
      have fewer : ((b :: rest).drop n).length < (b :: rest).length := by
        rw [List.length_drop]
        exact Nat.sub_lt (Nat.succ_pos _) some_taken
      obtain ⟨calls, done, wrote⟩ := shorter _ fewer used _
      refine ⟨calls + 1, done, ?_⟩
      rw [unfolded, goOn, ← List.length_drop]
      exact wrote
    | interrupted held =>
      obtain ⟨calls, done, wrote⟩ := again held
      exact ⟨calls + 1, done, (unfolded calls).trans wrote⟩
    | failed nothing _ reason => exact ⟨1, _, unfolded 0⟩
    | aborted nothing => exact ⟨1, _, unfolded 0⟩

theorem suffices_of_waiting {c : Consumer} {bytes : List UInt8}
    (shorter : ∀ rest : List UInt8, rest.length < bytes.length → ∀ usage before, Suffices c usage before rest)
    (wait : Nat) (usage : Usage) (before : List Contact)
    (relents : c.write (usage.calls + wait) usage.taken bytes.length ≠ .returned .interrupted) :
    Suffices c usage before bytes := by
  induction wait generalizing usage before with
  | zero =>
    apply suffices_of_call shorter
    intro held
    exact absurd held relents
  | succ wait ih =>
    apply suffices_of_call shorter
    intro held
    -- After an interruption the call that is none is one nearer, and the offer is the same.
    apply ih
    rwa [Nat.add_right_comm, Nat.add_assoc]

/-- A consumer that does not interrupt the same offer forever lets every range end. -/
theorem suffices_of_relents {c : Consumer} (relents : Transmission.Relents c) (bytes : List UInt8) (usage : Usage)
    (before : List Contact) : Suffices c usage before bytes := by
  obtain ⟨size, same⟩ : ∃ size, size = bytes.length := ⟨_, rfl⟩
  induction size using Nat.strongRecOn generalizing bytes usage before with
  | ind size ih =>
    obtain ⟨later, after, taken⟩ := relents usage.calls usage.taken bytes.length
    apply suffices_of_waiting _ (later - usage.calls)
    · rwa [Nat.add_sub_cancel' after]
    · intro rest fewer usage before
      exact ih rest.length (same ▸ fewer) rest usage before rfl

/-! ### One call -/

/-- A call on a range and what it led to. -/
structure Reply where
  contacts : List Contact
  result : Attempt (Except TransmitError Unit)
deriving Inhabited

/-- The reply to a range that leaves the buffer. -/
def refusal (buffer : List UInt8) (offset length : Nat) : Reply :=
  ⟨[], .returned (.error (.outOfRange offset length buffer.length))⟩

/-- The judgement on one call. Only a range that leaves the buffer is refused, and then the consumer is not called.
Any other range is delivered whole if the call succeeds, and up to a place inside it if the consumer fails. -/
inductive Answers (buffer : List UInt8) (offset length : Nat) : Reply → (delivered : List UInt8) → Prop
  | refused (outside : buffer.length < offset + length) :
      Answers buffer offset length (refusal buffer offset length) []
  | sent {contacts : List Contact} (inside : offset + length ≤ buffer.length)
      (received : Contact.received contacts = (buffer.drop offset).take length) :
      Answers buffer offset length ⟨contacts, .returned (.ok ())⟩ ((buffer.drop offset).take length)
  | failed {contacts : List Contact} (inside : offset + length ≤ buffer.length)
      (front : Contact.received contacts <+: (buffer.drop offset).take length)
      (shorter : (Contact.received contacts).length < length) (reason : String) :
      Answers buffer offset length ⟨contacts, .returned (.error (.write offset length reason))⟩
        (Contact.received contacts)
  | aborted {contacts : List Contact} (inside : offset + length ≤ buffer.length)
      (front : Contact.received contacts <+: (buffer.drop offset).take length)
      (shorter : (Contact.received contacts).length < length) :
      Answers buffer offset length ⟨contacts, .aborted⟩ (Contact.received contacts)

/-- What a call delivers is what the consumer has received by it. -/
theorem Answers.received {buffer delivered : List UInt8} {offset length : Nat} {reply : Reply}
    (answers : Answers buffer offset length reply delivered) : Contact.received reply.contacts = delivered := by
  cases answers with
  | refused => rfl
  | sent _ received => exact received
  | failed | aborted => rfl

theorem transmit_of_outside {t : Transmitter} {offset length : Nat} (outside : t.buffer.length < offset + length)
    (calls : Nat) : t.transmit calls offset length
      = some (t, [], .returned (.error (.outOfRange offset length t.buffer.length))) := by
  rw [transmit, slice?_eq_none_iff.mpr outside]

theorem transmit_of_inside {t : Transmitter} {offset length : Nat} (inside : offset + length ≤ t.buffer.length)
    (calls : Nat) : t.transmit calls offset length
      = (writeAll t.consumer calls t.usage [] ((t.buffer.drop offset).take length) length).map
          fun (usage, contacts, result) => ({ t with usage }, contacts, result.map fun
            | .ok () => .ok ()
            | .error reason => .error (.write offset length reason)) := by
  have slice := slice?_eq_some_iff.mpr ⟨inside, rfl⟩
  unfold transmit
  split
  next nothing =>
    rw [slice] at nothing
    cases nothing
  next bytes taken =>
    rw [slice] at taken
    cases taken
    rfl

/-- Whatever a call leads to, it is answered as the judgement says, and the buffer stays as it is. -/
theorem answers_of_transmit {t after : Transmitter} {calls offset length : Nat} {contacts : List Contact}
    {result : Attempt (Except TransmitError Unit)}
    (sent : t.transmit calls offset length = some (after, contacts, result)) :
    after.consumer = t.consumer ∧ after.buffer = t.buffer ∧
      ∃ delivered, Answers t.buffer offset length ⟨contacts, result⟩ delivered := by
  by_cases inside : offset + length ≤ t.buffer.length
  · rw [transmit_of_inside inside, Option.map_eq_some_iff] at sent
    obtain ⟨⟨used, all, written⟩, wrote, same⟩ := sent
    cases same
    have whole := length_of_inside inside
    nth_rewrite 2 [← whole] at wrote
    obtain ⟨made, rfl, delivered⟩ := writeAll_wrote wrote
    refine ⟨rfl, rfl, ?_⟩
    cases delivered with
    | whole received => exact ⟨_, .sent inside received⟩
    | broken failed front shorter =>
      rw [whole] at shorter
      rcases written with (reason | _) | _
      · exact ⟨_, .failed inside front shorter reason⟩
      · exact absurd rfl failed
      · exact ⟨_, .aborted inside front shorter⟩
  · have outside : t.buffer.length < offset + length := Nat.not_le.mp inside
    rw [transmit_of_outside outside] at sent
    cases sent
    exact ⟨rfl, rfl, _, .refused outside⟩

theorem exists_transmit {t : Transmitter} (relents : Transmission.Relents t.consumer) (offset length : Nat) :
    ∃ calls sent, t.transmit calls offset length = some sent := by
  by_cases inside : offset + length ≤ t.buffer.length
  · obtain ⟨calls, done, wrote⟩ := suffices_of_relents relents ((t.buffer.drop offset).take length) t.usage []
    rw [length_of_inside inside] at wrote
    exact ⟨calls, _, by rw [transmit_of_inside inside, wrote, Option.map_some]⟩
  · exact ⟨0, _, transmit_of_outside (Nat.not_le.mp inside) 0⟩

theorem transmit_mono {t : Transmitter} {calls more offset length : Nat} (enough : calls ≤ more)
    {sent : Transmitter × List Contact × Attempt (Except TransmitError Unit)}
    (transmitted : t.transmit calls offset length = some sent) : t.transmit more offset length = some sent := by
  by_cases inside : offset + length ≤ t.buffer.length
  · rw [transmit_of_inside inside, Option.map_eq_some_iff] at transmitted ⊢
    obtain ⟨done, wrote, same⟩ := transmitted
    exact ⟨done, writeAll_mono enough wrote, same⟩
  · have outside : t.buffer.length < offset + length := Nat.not_le.mp inside
    rw [transmit_of_outside outside] at transmitted ⊢
    exact transmitted

/-- Only a range that leaves the buffer is called out of range. -/
theorem Answers.outOfRange_iff {buffer delivered : List UInt8} {offset length : Nat} {reply : Reply}
    (answers : Answers buffer offset length reply delivered) :
    (∃ o l available, reply.result = .returned (.error (.outOfRange o l available))) ↔
      buffer.length < offset + length := by
  cases answers with
  | refused outside => exact ⟨fun _ => outside, fun _ => ⟨_, _, _, rfl⟩⟩
  | sent inside | failed inside | aborted inside =>
    constructor
    · rintro ⟨_, _, _, ⟨⟩⟩
    · intro outside
      omega

/-! ### Many calls -/

/-- Makes one call for each range, with at most `calls` calls to the consumer for each. -/
def transmitEach (t : Transmitter) (calls : Nat) : List (Nat × Nat) → Option (Transmitter × List Reply)
  | [] => some (t, [])
  | (offset, length) :: ranges => do
    let (t, contacts, result) ← t.transmit calls offset length
    let (t, replies) ← t.transmitEach calls ranges
    return (t, ⟨contacts, result⟩ :: replies)

/-- What calls on ranges deliver: what each of them does, one after the other. -/
inductive Delivery (buffer : List UInt8) : List (Nat × Nat) → List Reply → List UInt8 → Prop
  | nil : Delivery buffer [] [] []
  | cons {offset length : Nat} {ranges : List (Nat × Nat)} {reply : Reply} {replies : List Reply}
      {first others : List UInt8} (answers : Answers buffer offset length reply first)
      (rest : Delivery buffer ranges replies others) :
      Delivery buffer ((offset, length) :: ranges) (reply :: replies) (first ++ others)

theorem transmitEach_cons_eq_some_iff {t after : Transmitter} {calls offset length : Nat} {ranges : List (Nat × Nat)}
    {replies : List Reply} :
    t.transmitEach calls ((offset, length) :: ranges) = some (after, replies) ↔
      ∃ next contacts result others, t.transmit calls offset length = some (next, contacts, result) ∧
        next.transmitEach calls ranges = some (after, others) ∧ replies = ⟨contacts, result⟩ :: others := by
  rw [transmitEach]
  constructor
  · intro made
    obtain ⟨⟨next, contacts, result⟩, first, made⟩ := Option.bind_eq_some_iff.mp made
    obtain ⟨⟨last, others⟩, rest, same⟩ := Option.bind_eq_some_iff.mp made
    cases same
    exact ⟨next, contacts, result, others, first, rest, rfl⟩
  · rintro ⟨next, contacts, result, others, first, rest, rfl⟩
    simp [first, rest]

/-- The consumer gets what each of the calls delivers, in the order of the calls. -/
theorem delivery_of_transmitEach {t after : Transmitter} {calls : Nat} {ranges : List (Nat × Nat)}
    {replies : List Reply} (made : t.transmitEach calls ranges = some (after, replies)) :
    Delivery t.buffer ranges replies (Contact.received (replies.flatMap (·.contacts))) := by
  induction ranges generalizing t replies with
  | nil =>
    cases made
    exact .nil
  | cons range ranges ih =>
    obtain ⟨next, contacts, result, others, first, rest, rfl⟩ := transmitEach_cons_eq_some_iff.mp made
    obtain ⟨-, buffer, delivered, answers⟩ := answers_of_transmit first
    have later := ih rest
    rw [buffer] at later
    rw [List.flatMap_cons, Contact.received_append, answers.received]
    exact .cons answers later

/-- A refused call adds its refusal to the replies and changes nothing else. -/
theorem transmitEach_skips {t : Transmitter} {offset length : Nat} (outside : t.buffer.length < offset + length)
    (calls : Nat) (front back : List (Nat × Nat)) :
    t.transmitEach calls (front ++ (offset, length) :: back)
      = (t.transmitEach calls (front ++ back)).map fun (after, replies) =>
          (after, replies.insertIdx front.length (refusal t.buffer offset length)) := by
  induction front generalizing t with
  | nil =>
    rw [List.nil_append, List.nil_append, transmitEach, transmit_of_outside outside, Option.bind_eq_bind,
      Option.bind_some]
    dsimp only
    cases t.transmitEach calls back <;> rfl
  | cons range front ih =>
    obtain ⟨o, l⟩ := range
    rw [List.cons_append, List.cons_append, transmitEach, transmitEach]
    cases first : t.transmit calls o l with
    | none => rfl
    | some sent =>
      obtain ⟨next, contacts, result⟩ := sent
      obtain ⟨-, buffer, -⟩ := answers_of_transmit first
      have later := ih (t := next) (by rwa [buffer])
      simp only [Option.bind_eq_bind, Option.bind_some, later, buffer]
      cases next.transmitEach calls (front ++ back) <;> rfl

theorem transmitEach_mono {t : Transmitter} {calls more : Nat} (enough : calls ≤ more) {ranges : List (Nat × Nat)}
    {done : Transmitter × List Reply} (made : t.transmitEach calls ranges = some done) :
    t.transmitEach more ranges = some done := by
  induction ranges generalizing t done with
  | nil => exact made
  | cons range ranges ih =>
    obtain ⟨after, replies⟩ := done
    obtain ⟨next, contacts, result, others, first, rest, rfl⟩ := transmitEach_cons_eq_some_iff.mp made
    exact transmitEach_cons_eq_some_iff.mpr
      ⟨next, contacts, result, others, transmit_mono enough first, ih rest, rfl⟩

/-- With a consumer that does not interrupt the same offer forever, every call comes to an end. -/
theorem exists_transmitEach {t : Transmitter} (relents : Transmission.Relents t.consumer) (ranges : List (Nat × Nat)) :
    ∃ calls done, t.transmitEach calls ranges = some done := by
  induction ranges generalizing t with
  | nil => exact ⟨0, _, rfl⟩
  | cons range ranges ih =>
    obtain ⟨offset, length⟩ := range
    obtain ⟨calls, ⟨next, contacts, result⟩, first⟩ := exists_transmit relents offset length
    obtain ⟨same, -⟩ := answers_of_transmit first
    obtain ⟨more, ⟨after, others⟩, rest⟩ := ih (t := next) (by rwa [same])
    refine ⟨max calls more, (after, ⟨contacts, result⟩ :: others), ?_⟩
    apply transmitEach_cons_eq_some_iff.mpr
    exact ⟨next, contacts, result, others, transmit_mono (Nat.le_max_left ..) first,
      transmitEach_mono (Nat.le_max_right ..) rest, rfl⟩

/-! ### The result -/

/-- A call that computes the end of its range as a word. -/
def transmitInWords (t : Transmitter) (calls offset length : Nat) :
    Option (Transmitter × List Contact × Attempt (Except TransmitError Unit)) :=
  match sliceInWords? t.buffer offset length with
  | none => some (t, [], .returned (.error (.outOfRange offset length t.buffer.length)))
  | some bytes =>
    (writeAll t.consumer calls t.usage [] bytes length).map fun (usage, contacts, result) =>
      ({ t with usage }, contacts,
        result.map fun
          | .ok () => .ok ()
          | .error reason => .error (.write offset length reason))

theorem transmitInWords_eq {t : Transmitter} (word : t.buffer.length ≤ Depth.wordMax) (calls offset length : Nat) :
    t.transmitInWords calls offset length = t.transmit calls offset length := by
  rw [transmitInWords, sliceInWords?_eq word]
  rfl

/-- However a consumer meets the calls, and whatever ranges they are for: ends of ranges do not wrap around; a call is
out of range exactly when its range leaves the buffer; the consumer gets exactly the ranges that are sent and strict
fronts of those that fail, in the order of the calls; the other calls go as they would without the refused ones; and if
the consumer does not interrupt forever, every call comes to an end. -/
theorem ranges_delivered (t : Transmitter) (word : t.buffer.length ≤ Depth.wordMax) (ranges : List (Nat × Nat)) :
    (∀ calls offset length, t.transmitInWords calls offset length = t.transmit calls offset length) ∧
    (∀ calls offset length after contacts result,
      t.transmit calls offset length = some (after, contacts, result) →
      ((∃ o l available, result = .returned (.error (.outOfRange o l available))) ↔
        t.buffer.length < offset + length)) ∧
    (∀ calls after replies, t.transmitEach calls ranges = some (after, replies) →
      Delivery t.buffer ranges replies (Contact.received (replies.flatMap (·.contacts)))) ∧
    (∀ calls front back offset length, ranges = front ++ (offset, length) :: back →
      t.buffer.length < offset + length →
      t.transmitEach calls ranges = (t.transmitEach calls (front ++ back)).map fun (after, replies) =>
        (after, replies.insertIdx front.length (refusal t.buffer offset length))) ∧
    (Transmission.Relents t.consumer → ∃ enough after replies, ∀ calls, enough ≤ calls →
      t.transmitEach calls ranges = some (after, replies)) := by
  refine ⟨transmitInWords_eq word, ?_, fun _ _ _ => delivery_of_transmitEach, ?_, ?_⟩
  · intro calls offset length after contacts result sent
    obtain ⟨-, -, delivered, answers⟩ := answers_of_transmit sent
    exact answers.outOfRange_iff
  · rintro calls front back offset length rfl outside
    exact transmitEach_skips outside calls front back
  · intro relents
    obtain ⟨enough, ⟨after, replies⟩, made⟩ := exists_transmitEach relents ranges
    exact ⟨enough, after, replies, fun _ more => transmitEach_mono more made⟩

/-- Four bytes for a consumer that takes one at a time and interrupts every second call. -/
def fourBytes : Transmitter where
  consumer := ConsumerScript.toConsumer { maxWrite := some 1, interruptEvery := some 2 }
  buffer := [10, 11, 12, 13]

/-- The end of the second range would be the place of the second byte in words that wrap around. -/
theorem fourBytes_delivered :
    ∃ calls after replies,
      fourBytes.transmitEach calls [(1, 2), (0xFFFFFFFFFFFFFFFF, 2), (4, 0)] = some (after, replies) ∧
      Delivery [10, 11, 12, 13] [(1, 2), (0xFFFFFFFFFFFFFFFF, 2), (4, 0)] replies
        (Contact.received (replies.flatMap (·.contacts))) := by
  have relents : Transmission.Relents fourBytes.consumer := by
    intro calls taken offered
    refine ⟨2 * calls, by omega, ?_⟩
    simp [fourBytes, ConsumerScript.toConsumer, ConsumerScript.write]
  obtain ⟨-, -, delivery, -, ends⟩ :=
    ranges_delivered fourBytes (by decide) [(1, 2), (0xFFFFFFFFFFFFFFFF, 2), (4, 0)]
  obtain ⟨enough, after, replies, made⟩ := ends relents
  exact ⟨enough, after, replies, made enough (Nat.le_refl _), delivery _ _ _ (made enough (Nat.le_refl _))⟩

end Transmitter

end PointStream
