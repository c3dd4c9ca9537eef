import PointStream.Proofs.Number.Words
import PointStream.Proofs.Source.Memory
import PointStream.Read.Command

/-!
# Records in a buffer

A source in memory writes records field by field, at offsets that are words. The fields tile a record and the records
tile the front of the buffer, so what is written is one record after the other, as many as fit; no offset leaves the
words, because the records before it were written into a buffer that a machine can hold.
-/

namespace PointStream

open Depth (wordMax)

namespace MemorySource

/-! ### Writing with words -/

/-- A buffer whose bytes from a position on are replaced by others. -/
def overlay (buffer : List UInt8) (start : Nat) (bytes : List UInt8) : List UInt8 :=
  buffer.take start ++ bytes ++ buffer.drop (start + bytes.length)

/-- Writes the fields of a row into a record from an offset on, field by field; a field that reaches out of the
record is left out. None if an offset is no word. -/
def writeFields? (row : List Binary64) :
    (offset : Nat) → (bytes : List UInt8) → List (Dimension × Option Nat) → Option (List UInt8)
  | _, bytes, [] => some bytes
  | offset, bytes, column :: columns => do
    let last ← Word.add? offset column.1.size
    let written := if last ≤ bytes.length then overlay bytes offset (field row column) else bytes
    writeFields? row last written columns

/-- Writes records into a buffer whose front holds those that are written. None if an offset is no word. -/
def writeRecords? (columns : List (Dimension × Option Nat)) (stride : Nat) :
    (written : Nat) → (buffer : List UInt8) → List (List Binary64) → Option Filling
  | written, buffer, [] => some ⟨buffer, .returned (.ok written)⟩
  | written, buffer, row :: rows => do
    let offset ← Word.mul? written stride
    let last ← Word.add? offset stride
    if last ≤ buffer.length then
      let bytes ← writeFields? row 0 ((buffer.drop offset).take stride) columns
      let next ← Word.add? written 1
      writeRecords? columns stride next (overlay buffer offset bytes) rows
    else some ⟨buffer, .returned (.error (.bufferTooSmall last buffer.length))⟩

/-- Answers a query as a machine does: sizes, offsets and counts are words. None if one of them is not. -/
def readInWords? (m : MemorySource) (schema : Schema) (query : Query) (buffer : List UInt8) : Option Filling :=
  match m.select query with
  | .ok rows => do
    let stride ← Word.sum? (schema.dimensions.map (·.size))
    writeRecords? (m.columns schema) stride 0 buffer rows
  | .error e => some ⟨buffer, .returned (.error e)⟩

theorem record_cons (column : Dimension × Option Nat) (columns : List (Dimension × Option Nat))
    (row : List Binary64) : record (column :: columns) row = field row column ++ record columns row :=
  List.flatMap_cons

theorem overlay_append (front rest bytes : List UInt8) :
    overlay (front ++ rest) front.length bytes = front ++ bytes ++ rest.drop bytes.length := by
  rw [overlay, List.take_left, List.drop_append, List.drop_of_length_le (Nat.le_add_right ..), List.nil_append,
    Nat.add_sub_cancel_left]

/-- The fields tile the record: each is written where the fields before it end. -/
theorem writeFields?_eq {row : List Binary64} {columns : List (Dimension × Option Nat)} (front rest : List UInt8)
    (tiled : rest.length = (record columns row).length)
    (small : front.length + rest.length ≤ wordMax) :
    writeFields? row front.length (front ++ rest) columns = some (front ++ record columns row) := by
  induction columns generalizing front rest with
  | nil =>
    obtain rfl := List.eq_nil_of_length_eq_zero tiled
    rfl
  | cons column columns ih =>
    have width : (field row column).length = column.1.size := length_field row column
    rw [record_cons, List.length_append, width] at tiled
    have inside : front.length + column.1.size ≤ (front ++ rest).length := by
      rw [List.length_append]
      omega
    -- The next field begins where this one ends.
    have last : Word.add? front.length column.1.size = some (front ++ field row column).length := by
      rw [Word.add?_of_le (by omega), List.length_append, width]
    have behind : (rest.drop column.1.size).length = rest.length - column.1.size := List.length_drop
    have written := ih (front ++ field row column) (rest.drop column.1.size)
      (by rw [behind, tiled, Nat.add_sub_cancel_left]) (by rw [List.length_append, behind, width]; omega)
    rw [writeFields?, last, Option.bind_eq_bind, Option.bind_some]
    dsimp only
    rw [if_pos (by rwa [List.length_append, width]), overlay_append, width, written, record_cons,
      List.append_assoc]

/-- No offset leaves the words, for where a record was written the buffer has room for it. -/
theorem writeRecords?_eq {columns : List (Dimension × Option Nat)} {stride : Nat} (written : Nat)
    {rows : List (List Binary64)} (front rest : List UInt8)
    (records : ∀ row, (record columns row).length = stride) (words : stride ≤ wordMax)
    (filled : front.length = written * stride) (held : front.length + rest.length ≤ allocationLimit)
    (counted : written + rows.length ≤ wordMax) :
    writeRecords? columns stride written (front ++ rest) rows
      = some (fillFrom (record columns) stride (front.length + rest.length) written front.reverse rest.length rest
          rows) := by
  have half : allocationLimit + allocationLimit ≤ wordMax := by decide
  induction rows generalizing written front rest with
  | nil => simp [writeRecords?, fillFrom]
  | cons row rows ih =>
    rw [List.length_cons] at counted
    have offset : Word.mul? written stride = some front.length := by
      rw [Word.mul?_of_le (by omega), filled]
    -- A first record begins at zero, and any other is not longer than the front.
    have no_overflow : front.length + stride ≤ wordMax := by
      cases written with
      | zero => omega
      | succ earlier =>
        rw [Nat.succ_mul] at filled
        omega
    rw [writeRecords?, offset, Option.bind_eq_bind, Option.bind_some, Word.add?_of_le no_overflow,
      Option.bind_some, List.length_append, fillFrom]
    by_cases fits : stride ≤ rest.length
    · have slice : ((front ++ rest).drop front.length).take stride = rest.take stride := by rw [List.drop_left]
      have slice_length : (rest.take stride).length = stride := by rw [List.length_take, Nat.min_eq_left fits]
      have fields : writeFields? row 0 (rest.take stride) columns = some (record columns row) := by
        apply writeFields?_eq [] (rest.take stride)
        · rw [slice_length, records]
        · rwa [List.length_nil, Nat.zero_add, slice_length]
      -- With this record the front is longer, and together with the rest it is still the whole buffer.
      have longer : (front ++ record columns row).length = front.length + stride := by
        rw [List.length_append, records]
      have behind : (rest.drop stride).length = rest.length - stride := List.length_drop
      have same_length : front.length + stride + (rest.length - stride) = front.length + rest.length := by omega
      have continued := ih (written + 1) (front ++ record columns row) (rest.drop stride)
        (by rw [longer, filled, Nat.succ_mul]) (by rwa [longer, behind, same_length]) (by omega)
      rw [longer, behind, same_length, List.reverse_append] at continued
      rw [if_pos (by omega), if_pos fits, slice, fields, Option.bind_eq_bind, Option.bind_some,
        Word.add?_of_le (by omega), Option.bind_some, overlay_append, records, continued]
    · have required : front.length + stride = (written + 1) * stride := by rw [Nat.succ_mul, filled]
      rw [if_neg (by omega), if_neg fits, required, List.reverse_reverse]

theorem readInWords?_eq {m : MemorySource} {schema : Schema} (query : Query) {buffer : List UInt8}
    (small : m.rows.length ≤ wordMax) (words : schema.stride ≤ wordMax) (held : buffer.length ≤ allocationLimit) :
    m.readInWords? schema query buffer = some (m.read schema query buffer) := by
  unfold readInWords? read
  cases missing : m.missingAxis? query with
  | some axis => rw [select_of_missing missing]
  | none =>
    obtain ⟨indices, selection, selected⟩ := select_of_axes small missing
    have counted : (indices.map m.rowAt).length ≤ wordMax := by
      rw [List.length_map]
      exact selection.length_le.trans small
    have written := writeRecords?_eq 0 [] buffer (m.length_record schema) words
      (Nat.zero_mul _).symm (by rwa [List.length_nil, Nat.zero_add]) (by rwa [Nat.zero_add])
    rw [selected]
    dsimp only
    rw [Word.sum?_of_le (by rwa [← Schema.stride_eq_sum]), Option.bind_eq_bind, Option.bind_some,
      ← Schema.stride_eq_sum]
    simpa [fill] using written

/-! ### The filled part -/

/-- How many records there is room for. -/
theorem exists_room (stride records available : Nat) : ∃ fitting ≤ records,
    fitting * stride ≤ available ∧ (fitting < records ↔ available < records * stride) ∧
    (fitting < records → available < (fitting + 1) * stride) ∧
    (0 < stride → fitting = min records (available / stride)) ∧ (stride = 0 → fitting = records) := by
  rcases Nat.eq_zero_or_pos stride with rfl | some_bytes
  · exact ⟨records, Nat.le_refl _, by simp⟩
  · refine ⟨min records (available / stride), Nat.min_le_left .., ?_, ?_, ?_, fun _ => rfl, fun none_ => ?_⟩
    · exact (Nat.mul_le_mul_right _ (Nat.min_le_right ..)).trans (Nat.div_mul_le_self ..)
    · rw [← Nat.div_lt_iff_lt_mul some_bytes]
      omega
    · intro others
      have all_room : min records (available / stride) = available / stride := by omega
      rw [all_room, Nat.mul_comm]
      exact Nat.lt_mul_div_succ _ some_bytes
    · exact absurd none_ some_bytes.ne'

/-- Records of the same length stand one after the other. -/
theorem take_drop_records {m : MemorySource} {schema : Schema} {indices : List Nat} {j i : Nat}
    (at_j : indices[j]? = some i) (behind : List UInt8) :
    ((indices.flatMap (m.recordAt schema) ++ behind).drop (j * schema.stride)).take schema.stride
      = m.recordAt schema i := by
  induction indices generalizing j with
  | nil => cases at_j
  | cons first indices ih =>
    have width (i : Nat) : (m.recordAt schema i).length = schema.stride := m.length_recordAt schema i
    cases j with
    | zero =>
      obtain rfl : first = i := by simpa using at_j
      rw [Nat.zero_mul, List.drop_zero, List.flatMap_cons, List.append_assoc, ← width first, List.take_left]
    | succ j =>
      rw [List.getElem?_cons_succ] at at_j
      rw [Nat.succ_mul, Nat.add_comm, List.flatMap_cons, List.append_assoc, ← List.drop_drop, ← width first,
        List.drop_left, width first]
      exact ih at_j

/-- The records that fit fill the front of a buffer and nothing else is touched. Of the selected points as many are
written as there is room for, each where the one before it ends; what is written does not depend on what the buffer
held, and no size, offset or count on the way leaves the words. If not all records fit, the error tells how many
bytes the first that does not would have needed. Records without bytes leave the buffer as it is. -/
theorem records_fill_prefix (m : MemorySource) (schema : Schema) (query : Query)
    (small : m.rows.length ≤ wordMax) (present : m.missingAxis? query = none) (words : schema.stride ≤ wordMax) :
    ∃ indices, m.Selection query indices ∧ ∀ buffer : List UInt8, buffer.length ≤ allocationLimit →
      let filling := m.read schema query buffer
      let fitting := min indices.length (buffer.length / schema.stride)
      m.readInWords? schema query buffer = some filling ∧ filling.buffer.length = buffer.length ∧
      (filling.count = .returned (.ok indices.length) ↔ indices.length * schema.stride ≤ buffer.length) ∧
      (0 < schema.stride →
        (∀ j i, j < fitting → indices[j]? = some i →
          (filling.buffer.drop (j * schema.stride)).take schema.stride = m.recordAt schema i) ∧
        filling.buffer.drop (fitting * schema.stride) = buffer.drop (fitting * schema.stride) ∧
        (buffer.length < indices.length * schema.stride → filling.count
          = .returned (.error (.bufferTooSmall ((fitting + 1) * schema.stride) buffer.length))) ∧
        ∀ other : List UInt8, other.length = buffer.length →
          (m.read schema query other).count = filling.count ∧
          (m.read schema query other).buffer.take (fitting * schema.stride)
            = filling.buffer.take (fitting * schema.stride)) ∧
      (schema.stride = 0 → filling = ⟨buffer, .returned (.ok indices.length)⟩) := by
  obtain ⟨indices, selection, selected⟩ := select_of_axes small present
  refine ⟨indices, selection, ?_⟩
  intro buffer held filling fitting
  obtain ⟨written, listed, fits, refused_iff, short, as_fit, all⟩ :=
    exists_room schema.stride indices.length buffer.length
  -- What is written is the same for all buffers of a length.
  let records : List UInt8 := (indices.take written).flatMap (m.recordAt schema)
  have length_records : records.length = written * schema.stride := by
    rw [m.length_records, List.length_take, Nat.min_eq_left listed]
  have filled (other : List UInt8) (same : other.length = buffer.length) :
      m.read schema query other = ⟨records ++ other.drop (written * schema.stride),
        .returned (if written < indices.length then
          .error (.bufferTooSmall ((written + 1) * schema.stride) buffer.length) else .ok indices.length)⟩ := by
    rw [← same] at fits short
    rw [read_eq selected listed other fits short, same]
  have filling_eq : filling = _ := filled buffer rfl
  refine ⟨readInWords?_eq query small words held, m.length_read schema query buffer, ?_, ?_, ?_⟩
  · rw [filling_eq, ← Nat.not_lt, ← refused_iff]
    by_cases others : written < indices.length
    · simp [others]
    · simp [others]
  · intro some_bytes
    have fitting_eq : fitting = written := (as_fit some_bytes).symm
    rw [fitting_eq, filling_eq]
    refine ⟨?_, ?_, ?_, ?_⟩
    · intro j i before at_j
      apply take_drop_records
      rw [List.getElem?_take_of_lt before, at_j]
    · rw [← length_records, List.drop_left]
    · intro too_many
      rw [if_pos (refused_iff.mpr too_many)]
    · intro other same
      rw [filled other same, ← length_records, List.take_left, List.take_left]
      exact ⟨rfl, rfl⟩
  · intro no_bytes
    have no_records : records = [] := by
      apply List.eq_nil_of_length_eq_zero
      rw [length_records, no_bytes, Nat.mul_zero]
    rw [filling_eq, no_records, no_bytes, all no_bytes, if_neg (Nat.lt_irrefl _)]
    rfl

/-- Three points of one byte each. -/
def threeHeights : MemorySource where
  dimensions := [⟨"Z", .signed, 1⟩]
  rows := [[⟨0x3FF0000000000000⟩], [⟨0x4000000000000000⟩], [⟨0xC008000000000000⟩]]

/-- The height in one byte and once more in three bytes, which no kind has. -/
def heightTwice : Schema := ⟨[⟨"Z", .signed, 1⟩, ⟨"Z", .signed, 3⟩]⟩

/-- A buffer for two records and a byte takes two records, and the byte stays. -/
theorem two_heights_fit :
    let filling := threeHeights.read heightTwice (.range 0 3) (List.replicate 9 0xFF)
    ∃ indices, threeHeights.Selection (.range 0 3) indices ∧
      filling.count = .returned (.error (.bufferTooSmall 12 9)) ∧
      (∀ j i, j < 2 → indices[j]? = some i →
        (filling.buffer.drop (j * 4)).take 4 = threeHeights.recordAt heightTwice i) ∧
      filling.buffer.drop 8 = [0xFF] := by
  intro filling
  obtain ⟨indices, selection, fills⟩ := records_fill_prefix threeHeights heightTwice (.range 0 3)
    (by decide) rfl (by decide)
  obtain ⟨-, -, all_fit, some_bytes, -⟩ := fills (List.replicate 9 0xFF) (by decide)
  obtain ⟨records, behind, refused, -⟩ := some_bytes (by decide)
  have stride : heightTwice.stride = 4 := rfl
  have too_many : 9 < indices.length * heightTwice.stride := by
    by_contra fits
    have counted := all_fit.mpr (Nat.not_lt.mp fits)
    have short : filling.count = .returned (.error (.bufferTooSmall 12 9)) := rfl
    cases short.symm.trans counted
  have fitting : min indices.length ((List.replicate 9 (0xFF : UInt8)).length / heightTwice.stride) = 2 := by
    rw [stride] at too_many ⊢
    rw [List.length_replicate]
    omega
  rw [fitting] at records behind refused
  exact ⟨indices, selection, refused too_many, records, behind⟩

end MemorySource

end PointStream
