import PointStream.Proofs.Dispatch.Stream

/-!
# Responses that cannot be written

The transport may fail inside the JSON text of a message, at the line feed behind it, or at the flush. Only the last
two are told as failures of the transport. A connection whose response is torn is closed all the same as long as the
transport goes on failing, because its error cannot be sent either.
-/

namespace PointStream

namespace Message

theorem length_text_lt_length_wire (m : Message) : (Text.Utf8.encode m.text).length < m.wire.length := by
  rw [wire, List.length_append]
  exact Nat.lt_succ_self _

/-- What was taken of a line that is torn in its text becomes the beginning of the next line. -/
theorem linesOf_torn {m : Message} {taken : List UInt8} (torn : taken <+: m.wire)
    (short : taken.length < (Text.Utf8.encode m.text).length) (next : Message) :
    linesOf (taken ++ next.wire) = [taken ++ next.wire] := by
  have inside : taken <+: Text.Utf8.encode m.text :=
    List.prefix_of_prefix_length_le torn (List.prefix_append ..) short.le
  have unfinished : lineFeed ∉ taken ++ Text.Utf8.encode next.text := by
    rw [List.mem_append, not_or]
    exact ⟨fun member => lineFeed_not_mem_encode m.newline_not_mem_text (inside.mem member),
      lineFeed_not_mem_encode next.newline_not_mem_text⟩
  rw [wire, ← List.append_assoc, linesOf_append_lineFeed unfinished]
  rfl

end Message

namespace MessageWriter

variable {w : MessageWriter} {m : Message} {e : DispatchError}

/-- Sending a message fails, and whether its text was taken decides with which error. -/
structure BreaksOff (w : MessageWriter) (m : Message) (e : DispatchError) : Prop where
  sent : w.send m = (w.wrote (w.accepted m.wire), .error e)
  torn : (w.accepted m.wire).length < (Text.Utf8.encode m.text).length →
    e = .serializeResponse failureText ∧ e.isFatal = false
  whole : (Text.Utf8.encode m.text).length ≤ (w.accepted m.wire).length → e = .io failureText ∧ e.isFatal = true

/-- Sending fails inside the line when the transport takes no more, and behind it when the flush fails. -/
theorem exists_breaksOff (fails : (∃ k < m.wire.length, w.room = some k) ∨ w.flushFails = true) :
    ∃ e, w.BreaksOff m e := by
  have stops : (w.accepted m.wire).length < m.wire.length ∨ w.flushFails = true := by
    refine fails.imp_left ?_
    rintro ⟨k, inside, left⟩
    simp [accepted, left, inside]
  rcases Nat.lt_or_ge (w.accepted m.wire).length (Text.Utf8.encode m.text).length with torn | whole
  · refine ⟨.serializeResponse failureText, ?_, fun _ => ⟨rfl, rfl⟩, fun whole => absurd torn (Nat.not_lt.mpr whole)⟩
    rw [send_eq, if_pos torn]
  · refine ⟨.io failureText, ?_, fun torn => absurd torn (Nat.not_lt.mpr whole), fun _ => ⟨rfl, rfl⟩⟩
    rw [send_eq, if_neg (Nat.not_lt.mpr whole), if_pos stops]

/-- After a torn line the transport takes nothing. -/
theorem BreaksOff.no_room (breaks : w.BreaksOff m e) (torn : w.accepted m.wire ≠ m.wire) :
    (w.send m).1.room = some 0 := by
  have taken : w.accepted m.wire <+: m.wire := w.accepted_isPrefix m.wire
  rw [breaks.sent]
  exact room_of_stopped (Nat.lt_of_le_of_ne taken.length_le fun same => torn (taken.eq_of_length same))

theorem BreaksOff.no_room_of_survives (breaks : w.BreaksOff m e) (survives : e.isFatal = false) :
    (w.send m).1.room = some 0 := by
  apply breaks.no_room
  intro all
  -- The text is a part of the line.
  have text_taken : (Text.Utf8.encode m.text).length ≤ (w.accepted m.wire).length := by
    rw [all]
    exact m.length_text_lt_length_wire.le
  rw [(breaks.whole text_taken).2] at survives
  cases survives

theorem shut_of_shut (shut : w.room = some 0) : w.shut = w := by
  obtain ⟨sent, room, flushFails⟩ := w
  obtain rfl : room = some 0 := shut
  rfl

end MessageWriter

namespace Connection

variable {c : Connection} {e failure : DispatchError} {m : Message} {result : Except DispatchError (Option Message)}

/-- The connection is closed when its writer has got as far as this one. -/
def closedAt (c : Connection) (writer : MessageWriter) : Connection :=
  { c with serving := false, writer := writer.shut }

theorem reject_of_fatal (fatal : e.isFatal = true) :
    c.reject e = (c.closedAt (c.writer.send (.ofError e)).1, [.closing e]) := by
  simp [reject, fatal, close, closedAt]

/-- An error that cannot be told is the end, too. -/
theorem reject_of_failed (survives : e.isFatal = false) (failed : (c.writer.send (.ofError e)).2 = .error failure) :
    c.reject e = (c.closedAt (c.writer.send (.ofError e)).1, [.requestFailed e, .closing failure]) := by
  simp [reject, survives, failed, close, closedAt]

/-- Over a transport that takes nothing no error can be told. -/
theorem reject_of_no_room (no_room : c.writer.room = some 0) : (c.reject e).1 = { c with serving := false } := by
  have failed := MessageWriter.send_of_no_room no_room (.ofError e)
  have kept : c.closedAt c.writer = { c with serving := false } := by
    rw [closedAt, MessageWriter.shut_of_shut no_room]
  cases fatal : e.isFatal with
  | true => rw [reject_of_fatal fatal, failed, kept]
  | false => rw [reject_of_failed fatal (congrArg Prod.snd failed), failed, kept]

theorem reject_of_open (isOpen : c.writer.IsOpen) (survives : e.isFatal = false) :
    (c.reject e).1 = { c with writer := { c.writer with sent := c.writer.sent ++ (Message.ofError e).wire } } := by
  simp [reject, survives, isOpen.send]

theorem say_of_no_room (no_room : c.writer.room = some 0) :
    (c.say result).1 = if (spoken result).isSome then { c with serving := false } else c := by
  cases result with
  | error e => rw [say, reject_of_no_room no_room]; rfl
  | ok said =>
    cases said with
    | none => rfl
    | some m =>
      simp only [say, MessageWriter.send_of_no_room no_room m]
      rw [reject_of_no_room no_room]
      rfl

/-- A response that cannot be sent closes the connection, and if its line was torn nothing follows it. -/
theorem say_of_breaksOff (told : spoken result = some m) (breaks : c.writer.BreaksOff m e) :
    ∃ writer, (c.say result).1 = { c with serving := false, writer } ∧ writer.room = some 0 ∧
      ((c.writer.send m).1.room = some 0 → writer = (c.writer.send m).1) := by
  have failed : (c.writer.send m).2 = .error e := congrArg Prod.snd breaks.sent
  cases result with
  | error e' =>
    cases told
    refine ⟨(c.writer.send (.ofError e')).1.shut, ?_, rfl, fun no_room => MessageWriter.shut_of_shut no_room⟩
    cases fatal : e'.isFatal with
    | true => rw [say, reject_of_fatal fatal]; rfl
    | false => rw [say, reject_of_failed fatal failed]; rfl
  | ok said =>
    obtain rfl : said = some m := told
    simp only [say, failed]
    cases fatal : e.isFatal with
    | true =>
      rw [reject_of_fatal fatal]
      refine ⟨_, rfl, rfl, fun no_room => ?_⟩
      dsimp only
      rw [MessageWriter.send_of_no_room no_room]
      exact MessageWriter.shut_of_shut no_room
    | false =>
      have no_room := breaks.no_room_of_survives fatal
      refine ⟨_, ?_, no_room, fun _ => rfl⟩
      rw [reject_of_no_room no_room]

/-- A failure of the transport closes the connection by itself. An error that does not is noted, and then it cannot
be told either, for the same reason. -/
theorem notices_of_breaksOff (breaks : c.writer.BreaksOff m e) :
    (c.say (.ok (some m))).2
      = if (Text.Utf8.encode m.text).length ≤ (c.writer.accepted m.wire).length then [.closing e]
        else [.requestFailed e, .closing e] := by
  have failed : (c.writer.send m).2 = .error e := congrArg Prod.snd breaks.sent
  simp only [say, failed]
  split
  next all => rw [reject_of_fatal (breaks.whole all).2]
  next short =>
    obtain ⟨rfl, survives⟩ := breaks.torn (Nat.not_le.mp short)
    have untold := MessageWriter.send_of_no_room (breaks.no_room_of_survives survives)
    rw [reject_of_failed survives (congrArg Prod.snd (untold _))]

end Connection

namespace Service

variable {v w : Service}

theorem Touches.silent {c c' : Connection} (touches : Touches c c') (no_room : c.writer.room = some 0) :
    c'.writer = c.writer ∧ (c.serving = false → c'.serving = false) := by
  cases touches with
  | @reads framing serving still =>
    refine ⟨rfl, fun gone => ?_⟩
    by_contra serves
    rw [still (Bool.eq_true_of_not_eq_false serves)] at gone
    cases gone
  | tells result =>
    rw [Connection.say_of_no_room no_room]
    split
    next => exact ⟨rfl, fun _ => rfl⟩
    next => exact ⟨rfl, id⟩
  | delivers a =>
    rw [Connection.deliver, MessageWriter.send_of_no_room no_room]
    exact ⟨rfl, id⟩

/-- Once the transport takes nothing more, nothing is sent, whoever wants to say something. -/
theorem silent_of_no_room (no_room : v.connection.writer.room = some 0) (reached : v.Reaches w) :
    w.connection.writer = v.connection.writer ∧ (v.connection.serving = false → w.connection.serving = false) := by
  induction reached with
  | refl => exact ⟨rfl, id⟩
  | @tail u w _ stepped ih =>
    obtain ⟨step, stepped⟩ := stepped
    obtain ⟨same, gone⟩ := ih
    obtain ⟨same', gone'⟩ := (touches_of_step stepped).silent (same ▸ no_room)
    exact ⟨same'.trans same, gone' ∘ gone⟩

/-- When a response cannot be written, its error ends the connection exactly if the JSON text was taken whole; a
failure inside the text counts as one of serialising the message, and the error is told to the client. The connection
is closed all the same if the transport goes on failing, and then nothing is sent after what was taken, neither by
this thread nor by others. If the transport recovers, a connection whose response was torn in its text goes on, and
what was taken of the response becomes the beginning of the line that tells its error. -/
theorem failed_response_closes (c : Connection) (result : Except DispatchError (Option Message)) (m : Message)
    (told : spoken result = some m)
    (fails : (∃ k < m.wire.length, c.writer.room = some k) ∨ c.writer.flushFails = true) :
    let text := Text.Utf8.encode m.text
    let taken := c.writer.accepted m.wire
    let after := c.say result
    ∃ e, c.writer.send m = (c.writer.wrote taken, .error e) ∧ taken <+: m.wire ∧
      (∀ k, c.writer.room = some k → taken = m.wire.take k) ∧
      (taken.length < text.length → e = .serializeResponse MessageWriter.failureText ∧ e.isFatal = false) ∧
      (text.length ≤ taken.length → e = .io MessageWriter.failureText ∧ e.isFatal = true) ∧
      (result = .ok (some m) →
        after.2 = if text.length ≤ taken.length then [.closing e] else [.requestFailed e, .closing e]) ∧
      (taken ≠ m.wire → after.1.writer.sent = c.writer.sent ++ taken ∧
        ∀ v w : Service, v.connection.writer = (c.writer.send m).1 → v.Reaches w →
          w.connection.writer.sent = c.writer.sent ++ taken) ∧
      (∀ v w : Service, v.connection = after.1 → v.Reaches w →
        w.connection.serving = false ∧ w.connection.writer.sent = after.1.writer.sent) ∧
      ∀ recovered : MessageWriter, recovered.IsOpen → recovered.sent = c.writer.sent ++ taken →
        let later := ({ c with writer := recovered }.reject e).1
        (text.length ≤ taken.length → later.serving = false) ∧
        (taken.length < text.length → later.serving = c.serving ∧
          later.writer.sent = c.writer.sent ++ (taken ++ (Message.ofError e).wire) ∧
          linesOf (taken ++ (Message.ofError e).wire) = [taken ++ (Message.ofError e).wire]) := by
  intro text taken after
  obtain ⟨e, breaks⟩ := MessageWriter.exists_breaksOff fails
  obtain ⟨writer, closed, shut, torn_last⟩ := Connection.say_of_breaksOff told breaks
  have torn_prefix : taken <+: m.wire := c.writer.accepted_isPrefix m.wire
  refine ⟨e, breaks.sent, torn_prefix, ?_, breaks.torn, breaks.whole, ?_, ?_, ?_, ?_⟩
  · intro k left
    simp [taken, MessageWriter.accepted, left]
  · rintro rfl
    exact Connection.notices_of_breaksOff breaks
  · intro torn_line
    have no_room := breaks.no_room torn_line
    have last := torn_last no_room
    rw [breaks.sent] at last no_room
    constructor
    · simp only [after, closed, last]
      rfl
    · intro v w same reached
      rw [breaks.sent] at same
      rw [(silent_of_no_room (same ▸ no_room) reached).1, same]
      rfl
  · intro v w said reached
    have no_room : v.connection.writer.room = some 0 := by
      rw [said]
      simp only [after, closed, shut]
    obtain ⟨same, gone⟩ := silent_of_no_room no_room reached
    refine ⟨gone ?_, ?_⟩
    · rw [said]
      simp only [after, closed]
    · rw [same, said]
  · intro recovered isOpen caught_up later
    constructor
    · intro all
      simp only [later, Connection.reject_of_fatal (breaks.whole all).2]
      rfl
    · intro short
      have later_eq : later = _ := Connection.reject_of_open isOpen (breaks.torn short).2
      rw [later_eq]
      refine ⟨rfl, ?_, Message.linesOf_torn torn_prefix short _⟩
      dsimp only
      rw [caught_up, List.append_assoc]

/-- A writer whose transport takes five more bytes. -/
def fiveBytesLeft : Connection := { session := 0, writer := { room := some 5 } }

/-- After five bytes of a response the failure counts as one of serialising it. The connection is closed, but if its
transport recovers it goes on, and the five bytes stand in front of the error. -/
theorem five_bytes_of_response :
    ∃ e, (fiveBytesLeft.writer.send (.cancelled false)).2 = .error e ∧ e.isFatal = false ∧
      (fiveBytesLeft.say (.ok (some (.cancelled false)))).1.writer.sent = (Message.cancelled false).wire.take 5 ∧
      ∀ recovered : MessageWriter, recovered.IsOpen → recovered.sent = (Message.cancelled false).wire.take 5 →
        ({ fiveBytesLeft with writer := recovered }.reject e).1.serving = true := by
  have short : 5 < (Message.cancelled false).wire.length := by decide +kernel
  obtain ⟨e, sent, -, accepted, torn, -, -, last, -, recovers⟩ :=
    failed_response_closes fiveBytesLeft (.ok (some (.cancelled false))) (.cancelled false) rfl (.inl ⟨5, short, rfl⟩)
  rw [accepted 5 rfl] at sent torn last recovers
  have torn_text : ((Message.cancelled false).wire.take 5).length
      < (Text.Utf8.encode (Message.cancelled false).text).length := by decide +kernel
  have not_whole : (Message.cancelled false).wire.take 5 ≠ (Message.cancelled false).wire := by decide +kernel
  refine ⟨e, congrArg Prod.snd sent, (torn torn_text).2, (last not_whole).1, ?_⟩
  intro recovered isOpen caught_up
  exact ((recovers recovered isOpen caught_up).2 torn_text).1

/-- Not every failure to write a response ends the connection by itself. -/
theorem torn_response_not_fatal : ¬ ∀ (w : MessageWriter) (m : Message) (k : Nat), w.room = some k →
    k < m.wire.length → ∃ e, (w.send m).2 = .error e ∧ e.isFatal = true := by
  intro every
  have short : 5 < (Message.cancelled false).wire.length := by decide +kernel
  obtain ⟨e, failed, fatal⟩ := every fiveBytesLeft.writer (.cancelled false) 5 rfl short
  obtain ⟨e', breaks⟩ : ∃ e', fiveBytesLeft.writer.BreaksOff (.cancelled false) e' :=
    MessageWriter.exists_breaksOff (.inl ⟨5, short, rfl⟩)
  have same : e' = e := by
    rw [breaks.sent] at failed
    cases failed
    rfl
  have torn_text : (fiveBytesLeft.writer.accepted (Message.cancelled false).wire).length
      < (Text.Utf8.encode (Message.cancelled false).text).length := by decide +kernel
  rw [← same, (breaks.torn torn_text).2] at fatal
  cases fatal

end Service

end PointStream
