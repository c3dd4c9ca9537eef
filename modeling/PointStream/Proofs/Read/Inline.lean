import PointStream.Proofs.Read.Command
import PointStream.Proofs.Source.Memory
import PointStream.Source.Pipeline

/-!
# Reads of inline sources

A source that carries its points inline is sound, and what is decoded of a request asks only for supported
fields. So every record has some bytes, the buffer of a command holds one record for every point, and a read
can fail only because that buffer is too large or the query needs an axis that the source lacks.
-/

namespace PointStream

/-! ### Sound sources and sound schemas -/

theorem Dimension.size_pos {d : Dimension} (supported : d.isSupported = true) : 0 < d.size := by
  obtain ⟨name, kind, size⟩ := d
  have listed : size ∈ kind.sizes := by
    simpa [isSupported, DimensionKind.supportsSize] using supported
  cases kind <;> simp [DimensionKind.sizes] at listed <;> dsimp only <;> omega

/-- Every field has values in its size. -/
def Schema.IsSupported (s : Schema) : Prop := ∀ d ∈ s.dimensions, d.isSupported = true

theorem Schema.stride_pos {s : Schema} (supported : s.IsSupported) (fields : s.dimensions ≠ []) :
    0 < s.stride := by
  unfold stride
  cases dimensions : s.dimensions with
  | nil => exact absurd dimensions fields
  | cons d rest =>
    have first : d ∈ s.dimensions := by simp [dimensions]
    have field := Dimension.size_pos (supported d first)
    rw [List.foldr_cons]
    omega

theorem Pipeline.isSound_of_flawless {p : Pipeline} (flawless : p.flaw? = none) :
    MemorySource.IsSound ⟨p.dimensions, p.points⟩ := by
  unfold Pipeline.flaw? at flawless
  split at flawless
  next => cases flawless
  next all_supported =>
    dsimp only at flawless
    split at flawless
    next => cases flawless
    next some_declared =>
      rw [Option.map_eq_none_iff] at flawless
      refine ⟨fun none_declared => some_declared (congrArg List.length none_declared), ?_, ?_⟩
      · intro d member
        have fine := List.find?_eq_none.mp all_supported d member
        simpa using fine
      · intro row member
        -- The rows are searched together with their positions, which the message of a flaw tells.
        obtain ⟨position, at_position⟩ := List.mem_iff_getElem?.mp member
        have listed := List.mk_mem_zipIdx_iff_getElem?.mpr at_position
        have fine := List.find?_eq_none.mp flawless _ listed
        simpa using fine

theorem Pipeline.isSound_of_load {text : String} {m : MemorySource} (loaded : Pipeline.load text = .ok m) :
    m.IsSound := by
  unfold Pipeline.load at loaded
  split at loaded
  next => cases loaded
  next p _ =>
    split at loaded
    next => cases loaded
    next flawless =>
      cases loaded
      exact isSound_of_flawless flawless

theorem ReadRequest.isSupported_of_dimension? {entry : Json} {d : Dimension}
    (asked : dimension? entry = some d) : d.isSupported = true := by
  unfold dimension? at asked
  split at asked
  next members =>
    simp only [Option.bind_eq_bind, Option.bind_eq_some_iff] at asked
    obtain ⟨_, _, _, _, _, _, asked⟩ := asked
    split at asked
    next type _ =>
      obtain ⟨kind, _, asked⟩ := Option.bind_eq_some_iff.mp asked
      split at asked
      next supported =>
        cases asked
        exact supported
      next => cases asked
    next => cases asked
  next => cases asked

theorem ReadRequest.isSupported_of_decode {total : Nat} {positional : List Argument} {request : ReadRequest}
    (decoded : ReadRequest.decode total positional = .ok request) : request.schema.IsSupported := by
  unfold ReadRequest.decode at decoded
  split at decoded
  next host port schema rest _ =>
    cases query : queryOf total rest with
    | error refusal => simp [query, Except.map] at decoded
    | ok query' =>
      obtain rfl : _ = request := by simpa [query, Except.map] using decoded
      intro d member
      obtain ⟨entry, _, asked⟩ := List.mem_filterMap.mp member
      exact isSupported_of_dimension? asked
  next => cases decoded

/-- A schema that asks for no field stands for all fields. -/
theorem Schema.orNative_eq (s : Schema) (native : List Dimension) :
    s.orNative native = if s.dimensions = [] then ⟨native⟩ else s := by
  unfold orNative isEmpty
  simp only [List.isEmpty_iff]

theorem Schema.stride_orNative_pos {s : Schema} (supported : s.IsSupported) {m : MemorySource}
    (sound : m.IsSound) : 0 < (s.orNative m.dimensions).stride := by
  unfold Schema.orNative
  split
  next => exact Schema.stride_pos sound.supported sound.declared
  next asked =>
    refine Schema.stride_pos supported fun none_asked => asked ?_
    simp [Schema.isEmpty, none_asked]

/-! ### Commands -/

namespace ReadCommand

/-- The command that a request is made into, if its buffer can be allocated. -/
def fresh (m : MemorySource) (request : ReadRequest) (generation : Nat) : ReadCommand where
  source := m.toSource
  host := request.host
  port := request.port
  schema := request.schema.orNative m.dimensions
  query := request.query
  generation := generation
  buffer := List.replicate (m.rows.length * (request.schema.orNative m.dimensions).stride) 0
  numPoints := 0
  numBytes := 0

theorem make_eq {m : MemorySource} (sound : m.IsSound) {request : ReadRequest}
    (supported : request.schema.IsSupported) (generation : Nat) :
    let bytes := m.rows.length * (request.schema.orNative m.dimensions).stride
    make m.toSource request generation
      = if allocationLimit < bytes then
          .error (@ReadError.allocation (if bytes < UInt64.size then some bytes else none))
        else .ok (fresh m request generation) := by
  intro bytes
  have some_bytes : (request.schema.orNative m.dimensions).stride ≠ 0 :=
    (Schema.stride_orNative_pos supported sound).ne'
  unfold make
  dsimp only [MemorySource.toSource]
  rw [if_neg some_bytes]
  rfl

/-- So many points can be allocated only if there are fewer than words. -/
theorem length_le_wordMax {m : MemorySource} {stride : Nat} (some_bytes : 0 < stride)
    (allocated : ¬allocationLimit < m.rows.length * stride) : m.rows.length ≤ Depth.wordMax := by
  have points : m.rows.length ≤ m.rows.length * stride := Nat.le_mul_of_pos_right _ some_bytes
  unfold allocationLimit at allocated
  unfold Depth.wordMax
  omega

theorem run_of_missing {m : MemorySource} {request : ReadRequest} {axis : String}
    (missing : m.missingAxis? request.query = some axis) (generation : Nat) :
    (fresh m request generation).run = (fresh m request generation,
      .returned (.error (.source (.query s!"source has no '{axis}' dimension")))) := by
  exact run_of_error (MemorySource.read_of_missing missing _ _)

theorem run_of_axes {m : MemorySource} {request : ReadRequest}
    (small : m.rows.length ≤ Depth.wordMax) (present : m.missingAxis? request.query = none)
    (generation : Nat) :
    let schema := request.schema.orNative m.dimensions
    ∃ filled indices, (fresh m request generation).run = (filled, .returned (.ok ())) ∧
      m.Selection request.query indices ∧ filled.numPoints = indices.length ∧
      filled.numBytes = indices.length * schema.stride ∧ filled.numBytes ≤ filled.capacity ∧
      filled.capacity = m.rows.length * schema.stride ∧
      filled.payload = indices.flatMap (m.recordAt schema) := by
  intro schema
  let buffer : List UInt8 := List.replicate (m.rows.length * schema.stride) 0
  have length_buffer : buffer.length = m.rows.length * schema.stride := List.length_replicate
  obtain ⟨indices, selection, answered⟩ :=
    MemorySource.read_of_axes small present length_buffer.ge
  let records : List UInt8 := indices.flatMap (m.recordAt schema)
  have length_records : records.length = indices.length * schema.stride := m.length_records schema indices
  have fits : indices.length * schema.stride ≤ buffer.length := by
    rw [length_buffer]
    exact Nat.mul_le_mul_right _ selection.length_le
  -- What the command is after the run, with the rest of the buffer as it was allocated.
  let filled : ReadCommand := { fresh m request generation with
    buffer := records ++ buffer.drop (indices.length * schema.stride)
    numPoints := indices.length
    numBytes := indices.length * schema.stride }
  have ran : (fresh m request generation).run = (filled, .returned (.ok ())) := run_of_fits answered fits
  have capacity : filled.capacity = m.rows.length * schema.stride := by
    simp only [ReadCommand.capacity, filled, List.length_append, List.length_drop, length_records]
    omega
  refine ⟨filled, indices, ran, selection, rfl, rfl, ?_, capacity, ?_⟩
  · rw [capacity, ← length_buffer]
    exact fits
  · simp only [payload, filled]
    rw [← length_records, List.take_left]

end ReadCommand

/-- A read of an inline source asks for the fields of its schema, or for all if that has none. It fails to be made only
when its buffer would exceed what can be allocated, and to run only when the query needs an axis that the source lacks;
then it names the first such axis. Otherwise the payload is made of the records of the selected points, in the order of
the source. -/
theorem inline_read_records {text : String} {m : MemorySource} (loaded : Pipeline.load text = .ok m)
    {positional : List Argument} {request : ReadRequest}
    (decoded : ReadRequest.decode m.rows.length positional = .ok request) (generation : Nat) :
    let source := m.toSource
    let schema : Schema := if request.schema.dimensions = [] then ⟨m.dimensions⟩ else request.schema
    let bytes := source.numPoints * schema.stride
    Pipeline.provider.openSource text = .returned (.ok source) ∧ source.numPoints = m.rows.length ∧
    (allocationLimit < bytes →
      ReadCommand.make source request generation
        = .error (@ReadError.allocation (if bytes < UInt64.size then some bytes else none))) ∧
    (bytes ≤ allocationLimit →
      ∃ command, ReadCommand.make source request generation = .ok command ∧
        (∀ axis, m.missingAxis? request.query = some axis →
          ∃ after, command.run
            = (after, .returned (.error (.source (.query s!"source has no '{axis}' dimension"))))) ∧
        (m.missingAxis? request.query = none →
          ∃ filled indices, command.run = (filled, .returned (.ok ())) ∧
            m.Selection request.query indices ∧ filled.numPoints = indices.length ∧
            filled.numBytes = filled.numPoints * schema.stride ∧ filled.numBytes ≤ filled.capacity ∧
            filled.capacity = source.numPoints * schema.stride ∧
            filled.payload = indices.flatMap (m.recordAt schema))) := by
  intro source schema bytes
  have sound := Pipeline.isSound_of_load loaded
  have supported := ReadRequest.isSupported_of_decode decoded
  have resolved : request.schema.orNative m.dimensions = schema := request.schema.orNative_eq m.dimensions
  have made := ReadCommand.make_eq sound supported generation
  have some_bytes := Schema.stride_orNative_pos supported sound
  rw [resolved] at made some_bytes
  have opened : Pipeline.provider.openSource text = .returned (.ok source) := by
    simp [Pipeline.provider, loaded, source]
  refine ⟨opened, rfl, ?_, ?_⟩
  · intro exceeds
    exact made.trans (if_pos exceeds)
  · intro allocated
    have fits : ¬allocationLimit < m.rows.length * schema.stride := Nat.not_lt.mpr allocated
    have small := ReadCommand.length_le_wordMax some_bytes fits
    refine ⟨_, made.trans (if_neg fits), ?_, ?_⟩
    · intro axis missing
      exact ⟨_, ReadCommand.run_of_missing missing generation⟩
    · intro present
      obtain ⟨filled, indices, ran, selection, points, filled_bytes, inside, capacity, payload⟩ :=
        ReadCommand.run_of_axes small present generation
      rw [resolved] at filled_bytes capacity payload
      exact ⟨filled, indices, ran, selection, points, points ▸ filled_bytes, inside, capacity, payload⟩

/-- The points 1, 2 and 3 of one byte each. -/
def threePoints : MemorySource where
  dimensions := [⟨"X", .unsigned, 1⟩]
  rows := [[⟨0x3FF0000000000000⟩], [⟨0x4000000000000000⟩], [⟨0x4008000000000000⟩]]

/-- Arguments that ask for the points from the second on, with a count that goes beyond the last. -/
def fromSecond : List Argument := [.value (.string "consumer"), .value (.ofNat 7000), .value (.object []),
  .value (.ofNat 1), .value (.ofNat 9)]

theorem inline_read_from_second :
    ∃ command, ReadCommand.make threePoints.toSource ⟨"consumer", 7000, .empty, .range 1 9⟩ 1 = .ok command ∧
      ∃ filled indices, command.run = (filled, .returned (.ok ())) ∧
        threePoints.Selection (.range 1 9) indices ∧ filled.numPoints = indices.length ∧
        filled.payload = indices.flatMap (threePoints.recordAt ⟨threePoints.dimensions⟩) := by
  have loaded : Pipeline.load
      "\x7b\"dimensions\":[\x7b\"name\":\"X\",\"type\":\"unsigned\",\"size\":1\x7d],\"points\":[[1],[2],[3]]\x7d"
        = .ok threePoints := rfl
  have decoded : ReadRequest.decode threePoints.rows.length fromSecond
      = .ok ⟨"consumer", 7000, .empty, .range 1 9⟩ := by decide +kernel
  obtain ⟨-, -, -, runs⟩ := inline_read_records loaded decoded 1
  obtain ⟨command, made, -, answered⟩ := runs (by decide)
  obtain ⟨filled, indices, ran, selection, points, -, -, -, payload⟩ := answered rfl
  exact ⟨command, made, filled, indices, ran, selection, points, payload⟩

end PointStream
