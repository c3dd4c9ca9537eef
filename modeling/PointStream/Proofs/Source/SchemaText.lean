import PointStream.Dispatch.Connection
import PointStream.Proofs.Dispatch.Responses
import PointStream.Proofs.Json.Records
import PointStream.Proofs.Read.Bounds

/-!
# The schema text of a source

A source that was opened from a pipeline describes its dimensions in a text that is a pipeline itself. Whoever opens
it gets the same dimensions and no points, and whoever asks a session for its schema gets a value that lists the same
dimensions by name, kind and size.

## Main result

`schema_reopens`, assembled from `ofTree?_toJson` (one dimension), `ofTree?_schemaJson` (the document),
`load_schemaText` (the text) and `serve_schema` (the command).
-/

namespace PointStream

open Json (treeOf)

/-! ### One dimension -/

namespace Dimension

/-- The members of the description of a dimension. -/
def members (d : Dimension) : List (String × Json) :=
  [("name", .string d.name), ("type", .string d.kind.name), ("size", .ofNat d.size)]

theorem distinct_members (d : Dimension) : (d.members.map Prod.fst).Nodup := by
  simp [members]

theorem isSound_toJson (d : Dimension) : d.toJson.IsSound Json.Number.IsExact := by
  apply Json.isSound_ofMembers
  intro member listed
  have exact_ : (Json.ofNat d.size).IsSound Json.Number.IsExact := .number ⟨trivial, nofun⟩
  simp only [List.mem_cons, List.not_mem_nil, or_false] at listed
  rcases listed with rfl | rfl | rfl
  · exact .string _
  · exact .string _
  · exact exact_

theorem nesting_toJson_le (d : Dimension) : d.toJson.nesting ≤ 1 := by
  apply Json.nesting_ofMembers_le
  simp [Json.nesting, Json.ofNat]

theorem size_lt_of_isSupported {d : Dimension} (supported : d.isSupported = true) : d.size < UInt64.size :=
  Nat.lt_of_le_of_lt (size_le_of_isSupported supported) (by decide)

/-- A dimension is read from its description: its kind by the first of the names that stand for it. -/
theorem ofTree?_toJson {d : Dimension} (word : d.size < UInt64.size) {depth : Nat} (open_ : depth ≠ 0) :
    ofTree? depth (treeOf d.toJson) = some d := by
  have fields : (treeOf d.toJson).fields? ["name", "type", "size"]
      = some [some (treeOf (.string d.name)), some (treeOf (.string d.kind.name)), some (treeOf (.ofNat d.size))] :=
    Json.fields?_ofMembers d.distinct_members _
  rw [ofTree?, Json.Tree.record?, if_neg open_, fields]
  simp [Json.natural?_ofNat word word]

end Dimension

/-! ### The document -/

namespace MemorySource

variable {m : MemorySource}

theorem schemaJson_eq (m : MemorySource) :
    m.schemaJson = .object [("dimensions", .array (m.dimensions.map Dimension.toJson))] :=
  Json.ofMembers_of_sorted (List.pairwise_singleton _ _)

theorem isSound_schemaJson (m : MemorySource) : m.schemaJson.IsSound Json.Number.IsExact := by
  rw [schemaJson_eq]
  refine .object (List.pairwise_singleton _ _) ?_
  intro member listed
  obtain rfl := List.mem_singleton.mp listed
  apply Json.IsSound.array
  intro item listed
  obtain ⟨d, _, rfl⟩ := List.mem_map.mp listed
  exact d.isSound_toJson

/-- The brackets of the document, of its list and of one dimension. -/
theorem nesting_schemaJson_le (m : MemorySource) : m.schemaJson.nesting ≤ 3 := by
  have items : Json.itemNesting (m.dimensions.map Dimension.toJson) ≤ 1 := by
    apply Json.itemNesting_le_iff.mpr
    intro item listed
    obtain ⟨d, _, rfl⟩ := List.mem_map.mp listed
    exact d.nesting_toJson_le
  rw [schemaJson_eq, Json.nesting, Json.memberNesting, Json.memberNesting, Json.nesting]
  omega

theorem ofTree?_schemaJson (supported : ∀ d ∈ m.dimensions, d.isSupported = true) :
    Pipeline.ofTree? (treeOf m.schemaJson) = some ⟨m.dimensions, []⟩ := by
  have fields : (treeOf m.schemaJson).fields? ["dimensions", "points"]
      = some [some (treeOf (.array (m.dimensions.map Dimension.toJson))), none] :=
    Json.fields?_ofMembers (by simp) _
  have dimensions : (treeOf (.array (m.dimensions.map Dimension.toJson))).items? Dimension.ofTree?
      (Json.nestingLimit - 1) = some m.dimensions := by
    apply Json.items?_array (by decide)
    intro d listed
    exact Dimension.ofTree?_toJson (Dimension.size_lt_of_isSupported (supported d listed)) (by decide)
  rw [Pipeline.ofTree?, Json.Tree.record?, if_neg (by decide), fields]
  simp [dimensions]

end MemorySource

/-- A document of supported dimensions without points has no flaw. -/
theorem Pipeline.flaw?_of_no_points {dimensions : List Dimension} (declared : dimensions ≠ [])
    (supported : ∀ d ∈ dimensions, d.isSupported = true) : Pipeline.flaw? ⟨dimensions, []⟩ = none := by
  have all_supported : dimensions.find? (!·.isSupported) = none := by
    apply List.find?_eq_none.mpr
    intro d listed
    simp [supported d listed]
  have some_declared : dimensions.length ≠ 0 := mt List.length_eq_zero_iff.mp declared
  rw [Pipeline.flaw?]
  dsimp only
  rw [all_supported]
  dsimp only
  rw [if_neg some_declared]
  rfl

/-- The schema text of a sound source is a pipeline of the same dimensions without points. -/
theorem MemorySource.load_schemaText {m : MemorySource} (sound : m.IsSound) :
    Pipeline.load m.toSource.schemaText = .ok ⟨m.dimensions, []⟩ := by
  have text : Json.Tree.ofString? m.schemaJson.toText = some (treeOf m.schemaJson) :=
    Json.Tree.ofString?_toText m.isSound_schemaJson
  have flawless := Pipeline.flaw?_of_no_points sound.declared sound.supported
  rw [Pipeline.load, toSource, text, Option.bind_eq_bind, Option.bind_some, ofTree?_schemaJson sound.supported]
  dsimp only
  rw [flawless]

/-! ### The command -/

/-- A value that lists dimensions: one object for each, in order, with its name, its kind and its size. -/
def Json.Lists (v : Json) (dimensions : List Dimension) : Prop :=
  ∃ items, v = .object [("dimensions", .array items)] ∧
    List.Forall₂ (fun item d => ∃ members, item = .object members ∧ members.Perm d.members) items dimensions

theorem MemorySource.lists_schemaJson (m : MemorySource) : m.schemaJson.Lists m.dimensions := by
  refine ⟨_, m.schemaJson_eq, ?_⟩
  apply List.forall₂_map_left_iff.mpr
  apply List.forall₂_same.mpr
  intro d _
  exact Json.exists_ofMembers d.distinct_members

/-- The command finds the text readable, and answers with the document. -/
theorem Scheduler.serve_schema {s : Scheduler} {session : Nat} {m : MemorySource} {request : Request}
    (holds : (s.sessions session).source = some m.toSource) (asked : request.resolve = .ok .schema) :
    s.serve session request = (s, .ok (some (.schema m.schemaJson))) := by
  have shallow : m.schemaJson.nesting ≤ Json.nestingLimit := Nat.le_trans m.nesting_schemaJson_le (by decide)
  have text : s.schemaText? session = some m.schemaJson.toText := by
    rw [schemaText?, holds]
    rfl
  have read : Json.ofString? m.schemaJson.toText = some m.schemaJson :=
    Json.ofString?_toText m.isSound_schemaJson shallow
  simp only [serve, asked, text, read]

theorem MemorySource.nesting_schema_le (m : MemorySource) : (Message.schema m.schemaJson).nesting ≤ 4 := by
  have document := m.nesting_schemaJson_le
  have kind : (Json.string (Message.schema m.schemaJson).kind).nesting = 0 := rfl
  simp only [Message.nesting, Message.members, Message.fields, Json.memberNesting, kind]
  omega

/-- Whatever pipeline a source was opened from, its schema text opens again, to the same dimensions and no points, and
validates. A session that holds the source answers the command for the schema with a value that lists exactly these
dimensions and is written as that text, and a client reads the value from the line. -/
theorem schema_reopens {text : String} {source : Source}
    (opened : Pipeline.provider.openSource text = .returned (.ok source)) :
    (∃ again, Pipeline.provider.openSource source.schemaText = .returned (.ok again) ∧
      again.dimensions = source.dimensions ∧ again.numPoints = 0) ∧
    Pipeline.provider.validate source.schemaText = .returned (.ok ()) ∧
    ∀ (s : Scheduler) (session : Nat) (request : Request), (s.sessions session).source = some source →
      request.resolve = .ok .schema →
      ∃ v, s.serve session request = (s, .ok (some (.schema v))) ∧ v.Lists source.dimensions ∧
        v.toText = source.schemaText ∧
        ∀ depth, 4 ≤ depth → Message.ofLine? depth (Message.schema v).wire = some (.schema v) := by
  obtain ⟨m, loaded, rfl⟩ : ∃ m, Pipeline.load text = .ok m ∧ source = m.toSource := by
    cases loaded : Pipeline.load text with
    | error flaw => simp [Pipeline.provider, loaded] at opened
    | ok m =>
      simp only [Pipeline.provider, loaded, Attempt.returned.injEq, Except.ok.injEq] at opened
      exact ⟨m, rfl, opened.symm⟩
  have reloaded := MemorySource.load_schemaText (Pipeline.isSound_of_load loaded)
  refine ⟨⟨MemorySource.toSource ⟨m.dimensions, []⟩, ?_, rfl, rfl⟩, ?_, ?_⟩
  · simp only [Pipeline.provider, reloaded]
  · simp only [Pipeline.provider, reloaded]
  · intro s session request holds asked
    refine ⟨m.schemaJson, Scheduler.serve_schema holds asked, m.lists_schemaJson, rfl, ?_⟩
    intro depth deep
    have exact_ : (Message.schema m.schemaJson).IsExact := m.isSound_schemaJson
    exact Message.ofLine?_wire exact_ (Nat.le_trans m.nesting_schema_le deep)

/-- One dimension whose name needs escapes, with its kind spelled another way than it is printed. -/
def quotedHeight : MemorySource where
  dimensions := [⟨"\"h\"\n\x01é", .unsigned, 2⟩]
  rows := [[⟨0x3FF0000000000000⟩]]

theorem quotedHeight_reopens :
    Pipeline.provider.openSource
      "\x7b\"dimensions\":[[\"\\\"h\\\"\\n\\u0001\\u00e9\",\"uint\",2]],\"points\":[[1]]\x7d"
        = .returned (.ok quotedHeight.toSource) ∧
    Pipeline.provider.validate quotedHeight.toSource.schemaText = .returned (.ok ()) := by
  have opened : Pipeline.provider.openSource
      "\x7b\"dimensions\":[[\"\\\"h\\\"\\n\\u0001\\u00e9\",\"uint\",2]],\"points\":[[1]]\x7d"
        = .returned (.ok quotedHeight.toSource) := rfl
  exact ⟨opened, (schema_reopens opened).2.1⟩

end PointStream
