import PointStream.Proofs.Number.Words
import PointStream.Proofs.Read.Inline
import PointStream.Source.Fixed

/-!
# Commands and their buffers

A source may report whatever it likes: how many points it has, how wide its fields are, how many points it has
written. The buffer of a command has the size that was computed for it, and what the command takes for filled is a
part of the buffer, even where the number of bytes that a source claims to have written is no word.
-/

namespace PointStream

open Depth (wordMax)

/-! ### Strides -/

theorem Dimension.size_le_of_isSupported {d : Dimension} (supported : d.isSupported = true) : d.size ≤ 8 := by
  obtain ⟨name, kind, size⟩ := d
  have listed : size ∈ kind.sizes := by
    simpa [isSupported, DimensionKind.supportsSize] using supported
  cases kind <;> simp [DimensionKind.sizes] at listed <;> dsimp only <;> omega

theorem Schema.stride_le_of_isSupported {s : Schema} (supported : s.IsSupported) :
    s.stride ≤ 8 * s.dimensions.length := by
  obtain ⟨dimensions⟩ := s
  induction dimensions with
  | nil => exact Nat.le_refl 0
  | cons d dimensions ih =>
    have first : d.size ≤ 8 := Dimension.size_le_of_isSupported (supported d List.mem_cons_self)
    have rest : Schema.stride ⟨dimensions⟩ ≤ 8 * dimensions.length :=
      ih fun d member => supported d (List.mem_cons_of_mem _ member)
    calc Schema.stride ⟨d :: dimensions⟩
        = d.size + Schema.stride ⟨dimensions⟩ := rfl
      _ ≤ 8 + 8 * dimensions.length := Nat.add_le_add first rest
      _ = 8 * (d :: dimensions).length := by rw [List.length_cons, Nat.mul_succ, Nat.add_comm]

/-- The fields that are asked for add up to a word, and so do those that stand for all fields. -/
theorem Schema.stride_orNative_le {s : Schema} {native : List Dimension} {bound : Nat} (asked : s.stride ≤ bound)
    (whole : Schema.stride ⟨native⟩ ≤ bound) : (s.orNative native).stride ≤ bound := by
  unfold orNative
  split
  next => exact whole
  next => exact asked

namespace ReadCommand

/-! ### With words -/

/-- The command of a request with a buffer of so many bytes, before it has run. -/
def withBuffer (source : Source) (request : ReadRequest) (generation bytes : Nat) : ReadCommand where
  source := source
  host := request.host
  port := request.port
  schema := request.schema.orNative source.dimensions
  query := request.query
  generation := generation
  buffer := List.replicate bytes 0
  numPoints := 0
  numBytes := 0

/-- Makes a command as a machine does: sizes are added up as words, and a buffer whose size is no word or too large a
one cannot be allocated. None if a sum of sizes is no word. -/
def makeInWords? (source : Source) (request : ReadRequest) (generation : Nat) :
    Option (Except ReadError ReadCommand) :=
  let schema := request.schema.orNative source.dimensions
  (Word.sum? (schema.dimensions.map (·.size))).map fun stride =>
    if stride = 0 then .error .emptySchema
    else match Word.mul? source.numPoints stride with
      | none => .error (@ReadError.allocation none)
      | some bytes =>
        if bytes ≤ allocationLimit then .ok (withBuffer source request generation bytes)
        else .error (@ReadError.allocation (some bytes))

/-- Runs a command as a machine does: a count whose bytes are no word does not fit. -/
def runInWords (c : ReadCommand) : ReadCommand × Attempt (Except ReadError Unit) :=
  let filling := c.source.answer c.generation c.schema c.query c.buffer
  let filled := { c with buffer := filling.buffer }
  match filling.count with
  | .aborted => (filled, .aborted)
  | .returned (.error e) => (filled, .returned (.error (.source e)))
  | .returned (.ok points) =>
    match (Word.mul? points c.stride).filter (· ≤ c.capacity) with
    | some bytes => ({ filled with numPoints := points, numBytes := bytes }, .returned (.ok ()))
    | none => (filled, .returned (.error (.overrun points c.capacity)))

theorem make_eq_ite (source : Source) (request : ReadRequest) (generation : Nat) :
    let schema := request.schema.orNative source.dimensions
    let bytes := source.numPoints * schema.stride
    make source request generation
      = if schema.stride = 0 then .error .emptySchema
        else if allocationLimit < bytes then
          .error (@ReadError.allocation (if bytes < UInt64.size then some bytes else none))
        else .ok (withBuffer source request generation bytes) := rfl

theorem allocationLimit_le_wordMax : allocationLimit ≤ wordMax := by decide

theorem makeInWords?_eq {source : Source} {request : ReadRequest} (generation : Nat)
    (small : (request.schema.orNative source.dimensions).stride ≤ wordMax) :
    makeInWords? source request generation = some (make source request generation) := by
  rw [Schema.stride_eq_sum] at small
  simp only [makeInWords?, Word.sum?_of_le small, Option.map_some, make_eq_ite, ← Schema.stride_eq_sum, Word.mul?]
  congr 2
  -- The exact product is a word or not, and a word that can be allocated or not.
  generalize source.numPoints * (request.schema.orNative source.dimensions).stride = bytes
  have words : bytes < UInt64.size ↔ bytes ≤ wordMax := Nat.lt_succ_iff
  by_cases allocated : bytes ≤ allocationLimit
  · rw [if_pos (allocated.trans allocationLimit_le_wordMax), if_neg (Nat.not_lt.mpr allocated)]
    exact if_pos allocated
  · rw [if_pos (Nat.not_le.mp allocated)]
    by_cases word : bytes ≤ wordMax
    · rw [if_pos word, if_pos (words.mpr word)]
      exact if_neg allocated
    · rw [if_neg word, if_neg (mt words.mp word)]

theorem runInWords_eq {c : ReadCommand} (small : c.capacity ≤ wordMax) : c.runInWords = c.run := by
  unfold runInWords run
  dsimp only
  cases (c.source.answer c.generation c.schema c.query c.buffer).count with
  | aborted => rfl
  | returned result =>
    cases result with
    | error e => rfl
    | ok points =>
      simp only [Word.filter_mul?_eq small]
      by_cases fits : points * c.stride ≤ c.capacity
      · simp only [if_pos fits]
      · simp only [if_neg fits]

/-! ### Runs of a command -/

/-- A command that was made of a request, and may have run any number of times. -/
inductive Made (source : Source) (request : ReadRequest) (generation : Nat) : ReadCommand → Prop
  | fresh {c : ReadCommand} (made : make source request generation = .ok c) : Made source request generation c
  | again {c : ReadCommand} (made : Made source request generation c) : Made source request generation c.run.1

/-- What a run changes: the bytes in the buffer, and the counts if a count was reported that fits. -/
inductive Ran (c : ReadCommand) (buffer : List UInt8) : Attempt (Except SourceError Nat) →
    ReadCommand × Attempt (Except ReadError Unit) → Prop
  | fitted {points : Nat} (fits : points * c.stride ≤ c.capacity) :
    Ran c buffer (.returned (.ok points))
      ({ c with buffer, numPoints := points, numBytes := points * c.stride }, .returned (.ok ()))
  | overran {points : Nat} (exceeds : c.capacity < points * c.stride) :
    Ran c buffer (.returned (.ok points))
      ({ c with buffer }, .returned (.error (.overrun points c.capacity)))
  | failed (e : SourceError) : Ran c buffer (.returned (.error e)) ({ c with buffer }, .returned (.error (.source e)))
  | aborted : Ran c buffer .aborted ({ c with buffer }, .aborted)

theorem ran (c : ReadCommand) :
    let filling := c.source.answer c.generation c.schema c.query c.buffer
    Ran c filling.buffer filling.count c.run := by
  intro filling
  unfold run
  dsimp only
  cases count : filling.count with
  | aborted => exact .aborted
  | returned result =>
    cases result with
    | error e => exact .failed e
    | ok points =>
      by_cases fits : points * c.stride ≤ c.capacity
      · simp only [if_pos fits]
        exact .fitted fits
      · simp only [if_neg fits]
        exact .overran (Nat.not_le.mp fits)

/-- What is known of a command that was made of a request, whatever its source does. -/
structure IsMade (source : Source) (request : ReadRequest) (generation : Nat) (c : ReadCommand) : Prop where
  source_eq : c.source = source
  schema_eq : c.schema = request.schema.orNative source.dimensions
  query_eq : c.query = request.query
  generation_eq : c.generation = generation
  capacity_eq : c.capacity = source.numPoints * c.stride
  allocated : c.capacity ≤ allocationLimit
  numBytes_eq : c.numBytes = c.numPoints * c.stride
  inside : c.numBytes ≤ c.capacity

variable {source : Source} {request : ReadRequest} {generation : Nat} {c : ReadCommand}

theorem isMade_withBuffer {bytes : Nat}
    (bytes_eq : bytes = source.numPoints * (request.schema.orNative source.dimensions).stride)
    (allocated : bytes ≤ allocationLimit) :
    (withBuffer source request generation bytes).IsMade source request generation where
  source_eq := rfl
  schema_eq := rfl
  query_eq := rfl
  generation_eq := rfl
  capacity_eq := List.length_replicate.trans bytes_eq
  allocated := List.length_replicate.trans_le allocated
  numBytes_eq := (Nat.zero_mul _).symm
  inside := Nat.zero_le _

theorem make_eq_ok_iff : make source request generation = .ok c ↔
    (request.schema.orNative source.dimensions).stride ≠ 0 ∧
    source.numPoints * (request.schema.orNative source.dimensions).stride ≤ allocationLimit ∧
    c = withBuffer source request generation
      (source.numPoints * (request.schema.orNative source.dimensions).stride) := by
  rw [make_eq_ite]
  split
  next empty => simp [empty]
  next some_bytes =>
    split
    next large => simp [Nat.not_le.mpr large]
    next small => simp [some_bytes, Nat.not_lt.mp small, eq_comm]

theorem make_eq_emptySchema_iff : make source request generation = .error .emptySchema ↔
    (request.schema.orNative source.dimensions).stride = 0 := by
  rw [make_eq_ite]
  split
  next empty => simp [empty]
  next some_bytes =>
    -- The two other outcomes are not this error.
    split <;> exact ⟨nofun, fun empty => absurd empty some_bytes⟩

/-- The size that could not be allocated is told where it is a word. -/
theorem make_eq_allocation_iff {reported : Option Nat} :
    let bytes := source.numPoints * (request.schema.orNative source.dimensions).stride
    make source request generation = .error (@ReadError.allocation reported) ↔
      (request.schema.orNative source.dimensions).stride ≠ 0 ∧ allocationLimit < bytes ∧
        reported = if bytes < UInt64.size then some bytes else none := by
  intro bytes
  rw [make_eq_ite]
  split
  next empty => simp [empty]
  next some_bytes =>
    split
    next large =>
      constructor
      · intro same
        cases same
        exact ⟨some_bytes, large, rfl⟩
      · rintro ⟨-, -, rfl⟩
        rfl
    next small => exact ⟨nofun, fun ⟨_, large, _⟩ => absurd large small⟩

section Ran

variable {buffer : List UInt8} {count : Attempt (Except SourceError Nat)}
  {result : ReadCommand × Attempt (Except ReadError Unit)}

theorem IsMade.ran (made : c.IsMade source request generation) (length : buffer.length = c.capacity)
    (ran : Ran c buffer count result) : result.1.IsMade source request generation := by
  obtain ⟨source_eq, schema_eq, query_eq, generation_eq, capacity_eq, allocated, numBytes_eq, inside⟩ := made
  -- Only the buffer and the counts change, and the buffer keeps its length.
  cases ran with
  | fitted fits =>
    exact ⟨source_eq, schema_eq, query_eq, generation_eq, length.trans capacity_eq, length.trans_le allocated, rfl,
      fits.trans_eq length.symm⟩
  | overran | failed | aborted =>
    exact ⟨source_eq, schema_eq, query_eq, generation_eq, length.trans capacity_eq, length.trans_le allocated,
      numBytes_eq, inside.trans_eq length.symm⟩

theorem Ran.buffer_eq (ran : Ran c buffer count result) : result.1.buffer = buffer := by
  cases ran <;> rfl

theorem Ran.ok_iff (ran : Ran c buffer count result) :
    result.2 = .returned (.ok ()) ↔
      ∃ points, count = .returned (.ok points) ∧ points * c.stride ≤ c.capacity := by
  cases ran with
  | @fitted points fits => exact ⟨fun _ => ⟨points, rfl, fits⟩, fun _ => rfl⟩
  | overran exceeds =>
    refine ⟨nofun, ?_⟩
    rintro ⟨points, ⟨rfl⟩, fits⟩
    exact absurd fits (Nat.not_le.mpr exceeds)
  | failed e => exact ⟨nofun, fun ⟨_, counted, _⟩ => nomatch counted⟩
  | aborted => exact ⟨nofun, fun ⟨_, counted, _⟩ => nomatch counted⟩

theorem Ran.overrun_iff (ran : Ran c buffer count result) {points capacity : Nat} :
    result.2 = .returned (.error (.overrun points capacity)) ↔
      count = .returned (.ok points) ∧ c.capacity < points * c.stride ∧ capacity = c.capacity := by
  cases ran with
  | fitted fits =>
    refine ⟨nofun, ?_⟩
    rintro ⟨⟨rfl⟩, exceeds, -⟩
    exact absurd fits (Nat.not_le.mpr exceeds)
  | overran exceeds =>
    constructor
    · rintro ⟨rfl⟩
      exact ⟨rfl, exceeds, rfl⟩
    · rintro ⟨⟨rfl⟩, -, rfl⟩
      rfl
  | failed e => exact ⟨nofun, nofun⟩
  | aborted => exact ⟨nofun, nofun⟩

theorem Ran.source_iff (ran : Ran c buffer count result) {e : SourceError} :
    result.2 = .returned (.error (.source e)) ↔ count = .returned (.error e) := by
  cases ran with
  | fitted | overran | aborted => exact ⟨nofun, nofun⟩
  | failed e' => exact ⟨fun same => by cases same; rfl, fun same => by cases same; rfl⟩

/-- A count that fits is recorded, and what is filled is that part of the buffer. -/
theorem Ran.counted (ran : Ran c buffer count result) {points : Nat} (counted : count = .returned (.ok points))
    (fits : points * c.stride ≤ c.capacity) :
    result.1 = { c with buffer, numPoints := points, numBytes := points * c.stride } := by
  cases ran with
  | fitted _ =>
    cases counted
    rfl
  | overran exceeds =>
    cases counted
    exact absurd fits (Nat.not_le.mpr exceeds)
  | failed | aborted => cases counted

theorem Ran.uncounted (ran : Ran c buffer count result) (failed : result.2 ≠ .returned (.ok ())) :
    result.1 = { c with buffer } := by
  cases ran with
  | fitted => exact absurd rfl failed
  | overran | failed | aborted => rfl

end Ran

theorem Made.isMade (made : Made source request generation c) : c.IsMade source request generation := by
  induction made with
  | fresh made =>
    obtain ⟨-, allocated, rfl⟩ := make_eq_ok_iff.mp made
    exact isMade_withBuffer rfl allocated
  | @again c _ ih => exact ih.ran (c.source.length_answer ..) c.ran

end ReadCommand

open ReadCommand in
/-- Whatever a source reports, a command stays inside its buffer. Making it needs sums and a product of words, and
they give what the exact ones give. It is refused exactly when a record has no bytes or the bytes of all points are
more than can be allocated, and then it tells how many these are, if that is a word; otherwise the buffer has exactly
these bytes. A run succeeds exactly when the source reports a count whose bytes fit the buffer, and then that part of
the buffer is the payload. No other run changes the counts, so after it a fresh command has nothing to send. -/
theorem command_stays_inside (source : Source) (request : ReadRequest) (generation : Nat)
    (native : Schema.stride ⟨source.dimensions⟩ ≤ wordMax) :
    let schema := request.schema.orNative source.dimensions
    let bytes := source.numPoints * schema.stride
    (request.schema.stride ≤ wordMax →
      makeInWords? source request generation = some (make source request generation)) ∧
    (∀ total positional, ReadRequest.decode total positional = .ok request →
      request.schema.stride ≤ 8 * request.schema.dimensions.length) ∧
    (make source request generation = .error .emptySchema ↔ schema.stride = 0) ∧
    (∀ reported, make source request generation = .error (@ReadError.allocation reported) ↔
      schema.stride ≠ 0 ∧ allocationLimit < bytes ∧
        reported = if bytes < UInt64.size then some bytes else none) ∧
    ((∃ command, make source request generation = .ok command) ↔
      schema.stride ≠ 0 ∧ bytes ≤ allocationLimit) ∧
    ∀ command, Made source request generation command →
      let filling := source.answer generation schema request.query command.buffer
      let after := command.run.1
      command.buffer.length = bytes ∧ command.runInWords = command.run ∧ after.buffer = filling.buffer ∧
      (command.run.2 = .returned (.ok ()) ↔
        ∃ points, filling.count = .returned (.ok points) ∧ points * schema.stride ≤ bytes) ∧
      (∀ points, filling.count = .returned (.ok points) → points * schema.stride ≤ bytes →
        after.numPoints = points ∧ after.numBytes = points * schema.stride ∧
        after.payload = filling.buffer.take after.numBytes ∧ after.payload.length = after.numBytes) ∧
      (∀ points, filling.count = .returned (.ok points) → bytes < points * schema.stride →
        command.run.2 = .returned (.error (.overrun points bytes))) ∧
      (∀ e, filling.count = .returned (.error e) → command.run.2 = .returned (.error (.source e))) ∧
      (command.run.2 ≠ .returned (.ok ()) →
        after.numPoints = command.numPoints ∧ after.numBytes = command.numBytes ∧
        (make source request generation = .ok command → command.payload = [] ∧ after.payload = [])) := by
  intro schema bytes
  refine ⟨fun asked => makeInWords?_eq generation (Schema.stride_orNative_le asked native),
    fun total positional decoded => Schema.stride_le_of_isSupported (ReadRequest.isSupported_of_decode decoded),
    make_eq_emptySchema_iff, fun _ => make_eq_allocation_iff, ?_, ?_⟩
  · constructor
    · rintro ⟨command, made⟩
      obtain ⟨some_bytes, allocated, -⟩ := make_eq_ok_iff.mp made
      exact ⟨some_bytes, allocated⟩
    · rintro ⟨some_bytes, allocated⟩
      exact ⟨_, make_eq_ok_iff.mpr ⟨some_bytes, allocated, rfl⟩⟩
  · intro command made filling after
    have known := made.isMade
    have stride : command.stride = schema.stride := congrArg Schema.stride known.schema_eq
    have capacity : command.capacity = bytes := known.capacity_eq.trans (by rw [stride])
    have same : command.source.answer command.generation command.schema command.query command.buffer = filling := by
      rw [known.source_eq, known.generation_eq, known.schema_eq, known.query_eq]
    have ran := command.ran
    rw [same] at ran
    have length : filling.buffer.length = bytes := (source.length_answer ..).trans capacity
    refine ⟨capacity, runInWords_eq (known.allocated.trans allocationLimit_le_wordMax), ?_, ?_, ?_, ?_, ?_, ?_⟩
    · exact ran.buffer_eq
    · rw [ran.ok_iff, stride, capacity]
    · intro points counted fits
      have recorded : after = _ := ran.counted counted (by rwa [stride, capacity])
      rw [recorded]
      refine ⟨rfl, by rw [stride], rfl, ?_⟩
      simp only [payload, List.length_take, length, stride]
      exact Nat.min_eq_left fits
    · intro points counted exceeds
      exact ran.overrun_iff.mpr ⟨counted, by rwa [stride, capacity], capacity.symm⟩
    · exact fun e reported => ran.source_iff.mpr reported
    · intro failed
      have kept : after = _ := ran.uncounted failed
      rw [kept]
      refine ⟨rfl, rfl, fun fresh => ?_⟩
      obtain ⟨-, -, rfl⟩ := make_eq_ok_iff.mp fresh
      exact ⟨rfl, rfl⟩

/-- Three points of two bytes each, of which the source claims to have written so many that the number of their bytes
is a word only after its overflow. -/
def boastful : Source := (FixedAnswer.counts 0x8000000000000000).toSource 3 [⟨"Intensity", .unsigned, 2⟩] ""

/-- The bytes of `2 ^ 63` points of two bytes would be none at all in words that wrap around, but they do not fit. -/
theorem boastful_overruns :
    let request : ReadRequest := ⟨"consumer", 7000, .empty, .range 0 1⟩
    ∃ command, ReadCommand.make boastful request 1 = .ok command ∧ command.buffer.length = 6 ∧
      command.run.2 = .returned (.error (.overrun 0x8000000000000000 6)) ∧ command.run.1.payload = [] := by
  intro request
  obtain ⟨-, -, -, -, made, runs⟩ := command_stays_inside boastful request 1 (by decide)
  obtain ⟨command, made⟩ := made.mpr ⟨by decide, by decide⟩
  obtain ⟨length, -, -, -, -, overruns, -, fails⟩ := runs command (.fresh made)
  have overran := overruns 0x8000000000000000 rfl (by decide)
  obtain ⟨-, -, unfilled⟩ := fails (by rw [overran]; nofun)
  exact ⟨command, made, length, overran, (unfilled made).2⟩

end PointStream
