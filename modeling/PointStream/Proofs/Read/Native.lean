import PointStream.Proofs.Read.Inline
import PointStream.Proofs.Source.Splitting
import PointStream.Proofs.Source.Writing

/-!
# Native reads

A read that asks for no field gets all fields of its source, each once and in the order of the source. What stands in a
field is looked up by its name, though, and a name finds the first dimension that has it, the case of letters aside. So
every field holds its own number where no two names agree; of namesakes all hold the number of the first.
-/

namespace PointStream

/-! ### Fields of a record -/

/-- The bytes of the field at a place of a record. -/
def Schema.fieldAt (s : Schema) (place : Nat) (record : List UInt8) : List UInt8 :=
  (record.drop (stride ⟨s.dimensions.take place⟩)).take (s.dimensions[place]?.elim 0 (·.size))

/-- The record at a place of the payload. -/
def ReadCommand.recordAt (c : ReadCommand) (place : Nat) : List UInt8 :=
  (c.payload.drop (place * c.stride)).take c.stride

namespace MemorySource

variable {m : MemorySource}

/-- Each field of a record stands where the fields before it end. -/
theorem fieldAt_recordAt {schema : Schema} {place : Nat} {d : Dimension} (declared : schema.dimensions[place]? = some d)
    (i : Nat) : schema.fieldAt place (m.recordAt schema i) = m.fieldBytes i d := by
  obtain ⟨dimensions⟩ := schema
  rw [Schema.fieldAt, declared, Option.elim_some, recordAt]
  induction dimensions generalizing place with
  | nil => cases declared
  | cons first dimensions ih =>
    have width : (m.fieldBytes i first).length = first.size := m.length_fieldBytes i first
    cases place with
    | zero =>
      obtain rfl : first = d := by simpa using declared
      have front : Schema.stride ⟨(first :: dimensions).take 0⟩ = 0 := rfl
      rw [front, List.drop_zero, List.flatMap_cons, ← width, List.take_left]
    | succ place =>
      have skipped : Schema.stride ⟨(first :: dimensions).take (place + 1)⟩
          = first.size + Schema.stride ⟨dimensions.take place⟩ := rfl
      rw [List.getElem?_cons_succ] at declared
      rw [skipped, List.flatMap_cons, ← List.drop_drop, ← width, List.drop_left]
      exact ih declared

/-- A number of a point in a declared dimension is that in the first dimension of its name. -/
theorem fieldBytes_of_firstNamed (sound : m.IsSound) {i column : Nat} {row : List Binary64} {d : Dimension}
    (at_i : m.rows[i]? = some row) (first : m.IsFirstNamed d.name column) :
    ∃ x, row[column]? = some x ∧ m.fieldBytes i d = d.encode x d.size := by
  obtain ⟨other, declared, -⟩ := first.named
  obtain ⟨inside, -⟩ := List.getElem?_eq_some_iff.mp declared
  have full : row.length = m.dimensions.length := sound.full row (List.mem_of_getElem? at_i)
  have within : column < row.length := full ▸ inside
  have at_column : row[column]? = some (row.get ⟨column, within⟩) := List.getElem?_eq_getElem within
  refine ⟨_, at_column, ?_⟩
  rw [fieldBytes, number?_eq_some_iff.mpr ⟨row, column, at_i, first, at_column⟩]

end MemorySource

/-! ### Commands -/

theorem ReadCommand.schema_run (command : ReadCommand) : command.run.1.schema = command.schema := by
  unfold run
  dsimp only
  split
  · rfl
  · rfl
  · split <;> rfl

/-- A read that asks for no field is answered with a record of all fields for each selected point. A field is written
from the first column of its name, the case of letters aside, which is not behind its own; so where no two dimensions
share a name every field is written from its own column. -/
theorem native_fields {text : String} {m : MemorySource} (loaded : Pipeline.load text = .ok m)
    {positional : List Argument} {request : ReadRequest}
    (decoded : ReadRequest.decode m.rows.length positional = .ok request) (native : request.schema.isEmpty = true)
    (allocated : m.rows.length * Schema.stride ⟨m.dimensions⟩ ≤ allocationLimit)
    (present : m.missingAxis? request.query = none) (generation : Nat) :
    ∃ command filled indices, ReadCommand.make m.toSource request generation = .ok command ∧
      command.run = (filled, .returned (.ok ())) ∧ filled.schema = ⟨m.dimensions⟩ ∧
      m.Selection request.query indices ∧ filled.numPoints = indices.length ∧
      ∀ j i, indices[j]? = some i → ∃ row, m.rows[i]? = some row ∧
        ∀ k d, m.dimensions[k]? = some d →
          (∃ column x, column ≤ k ∧ m.IsFirstNamed d.name column ∧ row[column]? = some x ∧
            filled.schema.fieldAt k (filled.recordAt j) = d.encode x d.size) ∧
          (m.HasDistinctNames →
            ∃ x, row[k]? = some x ∧ filled.schema.fieldAt k (filled.recordAt j) = d.encode x d.size) := by
  have sound := Pipeline.isSound_of_load loaded
  have supported := ReadRequest.isSupported_of_decode decoded
  have all_fields : request.schema.orNative m.dimensions = ⟨m.dimensions⟩ := if_pos native
  have fits : ¬allocationLimit < m.rows.length * (request.schema.orNative m.dimensions).stride := by
    rw [all_fields]
    exact Nat.not_lt.mpr allocated
  have small := ReadCommand.length_le_wordMax (Schema.stride_orNative_pos supported sound) fits
  have made := (ReadCommand.make_eq sound supported generation).trans (if_neg fits)
  obtain ⟨filled, indices, ran, selection, points, -, -, -, payload⟩ :=
    ReadCommand.run_of_axes small present generation
  rw [all_fields] at payload
  have schema : filled.schema = ⟨m.dimensions⟩ := by
    have kept := (ReadCommand.fresh m request generation).schema_run
    rw [ran] at kept
    exact kept.trans all_fields
  refine ⟨_, filled, indices, made, ran, schema, selection, points, ?_⟩
  intro j i at_j
  have inside : i < m.rows.length := ((selection.members i).mp (List.mem_of_getElem? at_j)).1
  have at_i : m.rows[i]? = some m.rows[i] := List.getElem?_eq_getElem inside
  refine ⟨m.rows[i], at_i, ?_⟩
  intro k d declared
  -- The records have one width, so that of the point stands at its place in the payload.
  have record : filled.recordAt j = m.recordAt ⟨m.dimensions⟩ i := by
    rw [ReadCommand.recordAt, ReadCommand.stride, payload, schema]
    simpa using MemorySource.take_drop_records at_j []
  rw [schema, record, MemorySource.fieldAt_recordAt declared]
  obtain ⟨column, before, first⟩ := MemorySource.exists_firstNamed declared (Text.alike_self d.name)
  obtain ⟨x, at_column, written⟩ := MemorySource.fieldBytes_of_firstNamed sound at_i first
  constructor
  · exact ⟨column, x, before, first, at_column, written⟩
  · intro distinct
    obtain rfl := first.eq_of_distinct distinct declared before
    exact ⟨x, at_column, written⟩

/-- Arguments that ask for every field of the first point. -/
def firstPoint : List Argument := [.value (.string "consumer"), .value (.ofNat 9000), .value (.object []),
  .value (.ofNat 0), .value (.ofNat 1)]

/-- One point with a byte for each of two axes. -/
def onePoint : MemorySource where
  dimensions := [⟨"X", .unsigned, 1⟩, ⟨"Y", .unsigned, 1⟩]
  rows := [[⟨0x4000000000000000⟩, ⟨0x4008000000000000⟩]]

/-- Both fields of the point hold their own numbers. -/
theorem onePoint_fields :
    ∃ command filled indices,
      ReadCommand.make onePoint.toSource ⟨"consumer", 9000, .empty, .range 0 1⟩ 1 = .ok command ∧
      command.run = (filled, .returned (.ok ())) ∧ onePoint.Selection (.range 0 1) indices ∧
      ∀ j i, indices[j]? = some i → filled.schema.fieldAt 0 (filled.recordAt j) = [2] ∧
        filled.schema.fieldAt 1 (filled.recordAt j) = [3] := by
  have loaded :
      Pipeline.load "\x7b\"dimensions\":[[\"X\",\"unsigned\",1],[\"Y\",\"unsigned\",1]],\"points\":[[2,3]]\x7d"
        = .ok onePoint := rfl
  have decoded : ReadRequest.decode 1 firstPoint = .ok ⟨"consumer", 9000, .empty, .range 0 1⟩ := by decide +kernel
  have distinct : onePoint.HasDistinctNames := by
    unfold MemorySource.HasDistinctNames
    decide +kernel
  obtain ⟨command, filled, indices, made, ran, -, selection, -, fields⟩ :=
    native_fields loaded decoded rfl (by decide) rfl 1
  refine ⟨command, filled, indices, made, ran, selection, ?_⟩
  intro j i at_j
  obtain ⟨row, at_i, written⟩ := fields j i at_j
  obtain rfl : i = 0 := by
    have inside := ((selection.members i).mp (List.mem_of_getElem? at_j)).1
    exact Nat.lt_one_iff.mp inside
  cases at_i
  obtain ⟨x, at_x, first⟩ := (written 0 _ rfl).2 distinct
  obtain ⟨y, at_y, second⟩ := (written 1 _ rfl).2 distinct
  cases at_x
  cases at_y
  rw [first, second]
  decide +kernel

/-- One point with two columns of a name, of which the second cannot be read. -/
def namesakes : MemorySource where
  dimensions := [⟨"X", .unsigned, 1⟩, ⟨"x", .unsigned, 1⟩]
  rows := [[⟨0x4000000000000000⟩, ⟨0x4008000000000000⟩]]

/-- A document may declare a name twice; then a read of all fields gives the number of the first column for both. -/
theorem second_namesake_lost :
    ∃ request command filled,
      Pipeline.load "\x7b\"dimensions\":[[\"X\",\"unsigned\",1],[\"x\",\"unsigned\",1]],\"points\":[[2,3]]\x7d"
        = .ok namesakes ∧
      ReadRequest.decode namesakes.rows.length firstPoint = .ok request ∧ request.schema.isEmpty = true ∧
      ReadCommand.make namesakes.toSource request 1 = .ok command ∧
      command.run = (filled, .returned (.ok ())) ∧ filled.payload = [2, 2] ∧
      filled.schema.fieldAt 1 (filled.recordAt 0) ≠ Dimension.encode ⟨"x", .unsigned, 1⟩ ⟨0x4008000000000000⟩ 1 := by
  have loaded :
      Pipeline.load "\x7b\"dimensions\":[[\"X\",\"unsigned\",1],[\"x\",\"unsigned\",1]],\"points\":[[2,3]]\x7d"
        = .ok namesakes := rfl
  let request : ReadRequest := ⟨"consumer", 9000, .empty, .range 0 1⟩
  have decoded : ReadRequest.decode 1 firstPoint = .ok request := by decide +kernel
  have made : ReadCommand.make namesakes.toSource request 1 = .ok (.fresh namesakes request 1) := rfl
  obtain ⟨filled, indices, ran, selection, -, -, -, -, payload⟩ :=
    @ReadCommand.run_of_axes namesakes request (by decide) rfl 1
  have first_only : namesakes.Selection (.range 0 1) [0] :=
    ⟨by simp, fun i => by simp [MemorySource.Selects, namesakes]⟩
  obtain rfl := selection.unique first_only
  -- Both names find the first column.
  have field (d : Dimension) (named : Text.Alike "X" d.name) :
      namesakes.fieldBytes 0 d = d.encode ⟨0x4000000000000000⟩ d.size := by
    have first : namesakes.IsFirstNamed d.name 0 :=
      ⟨⟨_, rfl, named⟩, fun earlier _ before => absurd before (Nat.not_lt_zero earlier)⟩
    rw [MemorySource.fieldBytes, MemorySource.number?_eq_some_iff.mpr ⟨_, 0, rfl, first, rfl⟩]
  have bytes : filled.payload = [2, 2] := by
    have fields : (request.schema.orNative namesakes.dimensions).dimensions
        = [⟨"X", .unsigned, 1⟩, ⟨"x", .unsigned, 1⟩] := rfl
    rw [payload, List.flatMap_singleton, MemorySource.recordAt, fields, List.flatMap_cons, List.flatMap_singleton,
      field _ (Text.alike_self "X"), field _ (by decide)]
    decide
  refine ⟨request, _, filled, loaded, decoded, rfl, made, ran, bytes, ?_⟩
  have schema : filled.schema = ⟨namesakes.dimensions⟩ := by
    have kept := (ReadCommand.fresh namesakes request 1).schema_run
    rw [ran] at kept
    exact kept
  rw [ReadCommand.recordAt, ReadCommand.stride, bytes, schema]
  decide

end PointStream
