import PointStream.Dispatch.Writer
import PointStream.Proofs.Json.Printer

/-!
# Lines

Requests come in lines and answers go out in lines. Framing hands out the lines of the stream as long as none is
too long, and a message is one line whatever it says, so the lines that a client gets are the messages. A transport
that fails takes a part of a line from its front on.
-/

namespace PointStream

/-- The lines of a byte stream. A line ends just after its line feed; what follows the last line feed is a line
too, unless it is empty. -/
def linesOf : List UInt8 → List (List UInt8)
  | [] => []
  | b :: rest =>
    if b = lineFeed then [b] :: linesOf rest
    else match linesOf rest with
      | [] => [[b]]
      | line :: lines => (b :: line) :: lines

theorem linesOf_append_lineFeed {front : List UInt8} (unfinished : lineFeed ∉ front) (rest : List UInt8) :
    linesOf (front ++ lineFeed :: rest) = (front ++ [lineFeed]) :: linesOf rest := by
  induction front with
  | nil => simp [linesOf]
  | cons b front ih =>
    obtain ⟨apart, inside⟩ := List.ne_and_not_mem_of_not_mem_cons unfinished
    simp [linesOf, Ne.symm apart, ih inside]

theorem linesOf_unfinished {front : List UInt8} (some : front ≠ []) (unfinished : lineFeed ∉ front) :
    linesOf front = [front] := by
  induction front with
  | nil => exact absurd rfl some
  | cons b front ih =>
    obtain ⟨apart, inside⟩ := List.ne_and_not_mem_of_not_mem_cons unfinished
    rw [linesOf, if_neg (Ne.symm apart)]
    cases front with
    | nil => rfl
    | cons next front => rw [ih (List.cons_ne_nil next front) inside]

/-- No byte is lost between lines. -/
theorem flatten_linesOf (bytes : List UInt8) : (linesOf bytes).flatten = bytes := by
  fun_induction linesOf bytes <;> simp_all

/-- The line that goes on with a byte is longer than what came before. -/
theorem first_line_longer {front : List UInt8} (unfinished : lineFeed ∉ front) (b : UInt8) (rest : List UInt8) :
    ∃ line lines, linesOf (front ++ b :: rest) = line :: lines ∧ front.length < line.length := by
  induction front with
  | nil =>
    rw [List.nil_append, linesOf]
    split
    next => exact ⟨_, _, rfl, Nat.zero_lt_one⟩
    next =>
      split
      next => exact ⟨_, _, rfl, Nat.zero_lt_one⟩
      next line lines _ => exact ⟨_, _, rfl, Nat.zero_lt_succ _⟩
  | cons first front ih =>
    obtain ⟨apart, inside⟩ := List.ne_and_not_mem_of_not_mem_cons unfinished
    obtain ⟨line, lines, same, longer⟩ := ih inside
    refine ⟨first :: line, lines, ?_, Nat.succ_lt_succ longer⟩
    rw [List.cons_append, linesOf, if_neg (Ne.symm apart), same]

/-! ### Requests -/

namespace Framing

/-- What the framing has of a line that is not finished yet. -/
structure Within (f : Framing) (front : List UInt8) : Prop where
  line : f.line.reverse = front
  size : f.size = front.length
  unfinished : lineFeed ∉ front

theorem within_start : ({} : Framing).Within [] := ⟨rfl, rfl, List.not_mem_nil⟩

variable {f : Framing} {front rest : List UInt8}

/-- A line feed finishes a line that has room for it. -/
theorem Within.step_finishing (within : f.Within front) (room : front.length < lineLimit) :
    f.step lineFeed = ({}, some (.line (front ++ [lineFeed]))) := by
  rw [← within.size] at room
  simp [step, Nat.not_lt.mpr room, within.line]

/-- Any other byte makes a line longer that has room for it. -/
theorem Within.step_continuing (within : f.Within front) {b : UInt8} (inside : b ≠ lineFeed)
    (room : front.length < lineLimit) : (f.step b).2 = none ∧ (f.step b).1.Within (front ++ [b]) := by
  rw [← within.size] at room
  rw [step]
  simp only [if_neg (Nat.not_lt.mpr (Nat.succ_le_of_lt room)), if_neg inside, true_and]
  constructor
  · simp [within.line]
  · simp [within.size]
  · simp [within.unfinished, Ne.symm inside]

/-- A line that is as long as it may be has room for no byte. -/
theorem Within.step_full (within : f.Within front) (full : front.length = lineLimit) (b : UInt8) :
    f.step b = ({}, some (.tooLarge (lineLimit + 1))) := by
  simp only [step, within.size, full, if_pos (Nat.lt_succ_self lineLimit)]

/-- The line that goes on with a byte has room for it, if no line is too long. -/
theorem Within.room_of_short (within : f.Within front) {b : UInt8}
    (short : ∀ line ∈ linesOf (front ++ b :: rest), line.length ≤ lineLimit) : front.length < lineLimit := by
  obtain ⟨line, lines, first, longer⟩ := first_line_longer within.unfinished b rest
  exact Nat.lt_of_lt_of_le longer (short line (first ▸ List.mem_cons_self))

/-- A line feed finishes the line, if that is not too long. -/
theorem Within.step_lineFeed (within : f.Within front)
    (short : ∀ line ∈ linesOf (front ++ lineFeed :: rest), line.length ≤ lineLimit) :
    f.step lineFeed = ({}, some (.line (front ++ [lineFeed]))) :=
  within.step_finishing (within.room_of_short short)

/-- Any other byte makes the line longer. -/
theorem Within.step_inside (within : f.Within front) {b : UInt8} (inside : b ≠ lineFeed)
    (short : ∀ line ∈ linesOf (front ++ b :: rest), line.length ≤ lineLimit) :
    (f.step b).2 = none ∧ (f.step b).1.Within (front ++ [b]) :=
  within.step_continuing inside (within.room_of_short short)

theorem Within.remainder (within : f.Within front) : f.remainder = if front = [] then none else some front := by
  simp [Framing.remainder, within.size, within.line]

end Framing

/-! ### Encoded text -/

theorem toList_loop (bytes : ByteArray) (i : Nat) (taken : List UInt8) :
    ByteArray.toList.loop bytes i taken = taken.reverse ++ bytes.data.toList.drop i := by
  fun_induction ByteArray.toList.loop bytes i taken with
  | case1 i taken inside ih =>
    have next : bytes.data.toList.drop i = bytes.get! i :: bytes.data.toList.drop (i + 1) := by
      have bound : i < bytes.data.toList.length := inside
      rw [List.drop_eq_getElem_cons bound]
      have same : bytes.get! i = bytes.data[i]! := rfl
      rw [same, getElem!_pos bytes.data i inside]
      rfl
    rw [ih, next, List.reverse_cons, List.append_assoc, List.singleton_append]
  | case2 i taken outside =>
    have done : bytes.data.toList.length ≤ i := Nat.le_of_not_lt outside
    rw [List.drop_eq_nil_of_le done, List.append_nil]

theorem encode_eq (s : String) : Text.Utf8.encode s = s.toList.flatMap String.utf8EncodeChar := by
  have bytes : s.toUTF8 = (s.toList.flatMap String.utf8EncodeChar).toByteArray := String.utf8Encode_toList.symm
  rw [Text.Utf8.encode, ByteArray.toList, toList_loop, bytes, List.toList_data_toByteArray]
  rfl

/-- Only the line feed is encoded with the byte of the line feed: other characters below 128 stand for themselves,
and of all others every byte is above it. -/
theorem lineFeed_not_mem_utf8EncodeChar {c : Char} (apart : c ≠ '\n') : lineFeed ∉ String.utf8EncodeChar c := by
  have not_ten : c.val.toNat ≠ 10 := fun same => apart (Char.ext (UInt32.toNat_inj.mp same))
  have other {b : Nat} (below : b < 256) (not_ten : b ≠ 10) : lineFeed ≠ UInt8.ofNat b := by
    intro same
    have ten : 10 = (UInt8.ofNat b).toNat := congrArg UInt8.toNat same
    rw [UInt8.toNat_ofNat', Nat.mod_eq_of_lt below] at ten
    exact not_ten ten.symm
  have continues (k : Nat) : lineFeed ≠ UInt8.ofNat (k % 64 + 128) := other (by omega) (by omega)
  unfold String.utf8EncodeChar
  dsimp only
  split
  next =>
    rw [List.mem_singleton]
    exact other (by omega) not_ten
  next =>
    split
    next =>
      simp only [List.mem_cons, List.not_mem_nil, or_false, not_or]
      exact ⟨other (by omega) (by omega), continues _⟩
    next =>
      split <;> simp only [List.mem_cons, List.not_mem_nil, or_false, not_or]
      · exact ⟨other (by omega) (by omega), continues _, continues _⟩
      · exact ⟨other (by omega) (by omega), continues _, continues _, continues _⟩

theorem lineFeed_not_mem_encode {s : String} (single : '\n' ∉ s.toList) : lineFeed ∉ Text.Utf8.encode s := by
  rw [encode_eq, List.mem_flatMap]
  rintro ⟨c, member, encoded⟩
  refine lineFeed_not_mem_utf8EncodeChar ?_ encoded
  rintro rfl
  exact single member

/-! ### Messages -/

namespace Message

/-- A message as it is sent. -/
def wire (m : Message) : List UInt8 := Text.Utf8.encode m.text ++ [lineFeed]

theorem newline_not_mem_text (m : Message) : '\n' ∉ m.text.toList := Json.newline_not_mem_recordText _

theorem encode_text_ne_nil (m : Message) : Text.Utf8.encode m.text ≠ [] := by
  intro nothing
  have brace : '{' ∈ m.text.toList := by simp [text, Json.recordText]
  have encoded : String.utf8EncodeChar '{' ≠ [] := by decide
  rw [encode_eq, List.flatMap_eq_nil_iff] at nothing
  exact encoded (nothing _ brace)

end Message

/-- A client gets its messages one on each line. -/
theorem linesOf_wires (messages : List Message) :
    linesOf (messages.flatMap Message.wire) = messages.map Message.wire := by
  induction messages with
  | nil => rfl
  | cons m messages ih =>
    have single := lineFeed_not_mem_encode m.newline_not_mem_text
    rw [List.flatMap_cons, Message.wire, List.append_assoc, List.singleton_append, linesOf_append_lineFeed single, ih]
    rfl

namespace MessageWriter

/-- The bytes that the transport takes of those that are written. -/
def accepted (w : MessageWriter) (bytes : List UInt8) : List UInt8 := w.room.elim bytes bytes.take

/-- The writer after bytes that the transport took. -/
def wrote (w : MessageWriter) (bytes : List UInt8) : MessageWriter :=
  { w with sent := w.sent ++ bytes, room := w.room.map (· - bytes.length) }

variable {w : MessageWriter} {m : Message} {bytes : List UInt8}

theorem accepted_isPrefix (w : MessageWriter) (bytes : List UInt8) : w.accepted bytes <+: bytes := by
  unfold accepted
  cases w.room with
  | none => exact List.prefix_refl _
  | some room => exact List.take_prefix ..

theorem accepted_append (w : MessageWriter) (front bytes : List UInt8) :
    w.accepted (front ++ bytes) = w.accepted front ++ (w.wrote (w.accepted front)).accepted bytes := by
  unfold accepted wrote
  cases w.room with
  | none => rfl
  | some room =>
    have left : room - min room front.length = room - front.length := by omega
    simp [List.take_append, left]

theorem put_eq (w : MessageWriter) (bytes : List UInt8) :
    w.put bytes = (w.wrote (w.accepted bytes), decide ((w.accepted bytes).length = bytes.length)) := by
  unfold put accepted wrote
  cases w.room with
  | none => simp
  | some room =>
    have whole : min room bytes.length = bytes.length ↔ bytes.length ≤ room := by omega
    simp [whole, ← List.take_eq_take_min]

theorem wrote_nil (w : MessageWriter) : w.wrote [] = w := by simp [wrote]

theorem wrote_wrote (w : MessageWriter) (front bytes : List UInt8) :
    (w.wrote front).wrote bytes = w.wrote (front ++ bytes) := by
  simp [wrote, Nat.sub_sub, Function.comp_def]

theorem accepted_of_no_room (no_room : w.room = some 0) (bytes : List UInt8) : w.accepted bytes = [] := by
  simp [accepted, no_room]

/-- A transport that has not taken all bytes takes no more. -/
theorem room_of_stopped (stopped : (w.accepted bytes).length < bytes.length) :
    (w.wrote (w.accepted bytes)).room = some 0 := by
  unfold accepted at stopped ⊢
  unfold wrote
  cases left : w.room with
  | none => simp [left] at stopped
  | some room =>
    rw [left, Option.elim_some, List.length_take] at stopped
    have used_up : room - min room bytes.length = 0 := by omega
    simp [used_up]

/-- The text is written first, then the line feed, and then both are flushed. A failure counts as one of serialising
the message as long as its text has not been taken. -/
theorem send_eq (w : MessageWriter) (m : Message) :
    let taken := w.accepted m.wire
    w.send m = (w.wrote taken,
      if taken.length < (Text.Utf8.encode m.text).length then .error (.serializeResponse failureText)
      else if taken.length < m.wire.length ∨ w.flushFails = true then .error (.io failureText) else .ok ()) := by
  intro taken
  let text := Text.Utf8.encode m.text
  have parts : taken = w.accepted text ++ (w.wrote (w.accepted text)).accepted [lineFeed] := w.accepted_append ..
  have some_text : (w.accepted text).length ≤ text.length := (w.accepted_isPrefix text).length_le
  rcases Nat.lt_or_eq_of_le some_text with stopped | whole
  · have taken_eq : taken = w.accepted text := by
      rw [parts, accepted_of_no_room (room_of_stopped stopped), List.append_nil]
    rw [send, put_eq, decide_eq_false (Nat.ne_of_lt stopped), taken_eq, if_pos stopped]
  · have line_length : m.wire.length = text.length + 1 := List.length_append
    have taken_length : taken.length = text.length + ((w.wrote (w.accepted text)).accepted [lineFeed]).length := by
      rw [parts, List.length_append, whole]
    rw [send, put_eq, decide_eq_true whole]
    dsimp only
    rw [put_eq, wrote_wrote, ← parts, if_neg (Nat.not_lt.mpr (taken_length ▸ Nat.le_add_right ..))]
    have one_byte := ((w.wrote (w.accepted text)).accepted_isPrefix [lineFeed]).length_le
    rcases Nat.lt_or_eq_of_le one_byte with stopped | all
    · rw [decide_eq_false (Nat.ne_of_lt stopped), if_pos]
      rw [List.length_singleton] at stopped
      omega
    · rw [decide_eq_true all]
      rw [List.length_singleton] at all
      have not_short : ¬ taken.length < m.wire.length := by omega
      cases flush : w.flushFails <;> simp [not_short, wrote, flush]

/-- A transport that takes nothing fails in the text, because every text has a first byte. -/
theorem send_of_no_room (no_room : w.room = some 0) (m : Message) :
    w.send m = (w, .error (.serializeResponse failureText)) := by
  have some_text : 0 < (Text.Utf8.encode m.text).length := List.length_pos_iff.mpr m.encode_text_ne_nil
  rw [send_eq, accepted_of_no_room no_room, wrote_nil, List.length_nil, if_pos some_text]

/-- The transport takes whatever it is given. -/
structure IsOpen (w : MessageWriter) : Prop where
  room : w.room = none
  flushes : w.flushFails = false

theorem IsOpen.send {w : MessageWriter} (isOpen : w.IsOpen) (m : Message) :
    w.send m = ({ w with sent := w.sent ++ m.wire }, .ok ()) := by
  obtain ⟨sent, room, flushFails⟩ := w
  obtain ⟨rfl, rfl⟩ : room = none ∧ flushFails = false := ⟨isOpen.room, isOpen.flushes⟩
  simp [MessageWriter.send, put, Message.wire]

end MessageWriter

end PointStream
