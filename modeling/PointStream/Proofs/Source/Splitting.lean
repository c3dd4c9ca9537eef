import PointStream.Proofs.Source.Memory

/-!
# Queries in parts

A range may be read in two pieces, and the levels of a quad tree may be read from coarse to fine. Either way the two
parts select what the whole query selects, first the points of the one and then those of the other, because points lie
on deeper levels the further on they stand. So the records of the parts, one after the other, are those of the whole,
and the 33 coarsest levels hold every point.
-/

namespace PointStream

open Depth (wordMax)

/-! ### Levels -/

/-- Points lie on deeper levels the further on they stand. -/
theorem Depth.OnLevel.lt_of_lt {i j d₁ d₂ : Nat} (first : OnLevel i d₁) (second : OnLevel j d₂) (coarser : d₁ < d₂) :
    i < j := by
  calc i < levelStart (d₁ + 1) := first.2
    _ ≤ levelStart d₂ := levelStart_mono coarser
    _ ≤ j := second.1

theorem Depth.wordMax_lt_levelStart_33 : wordMax < levelStart 33 := by decide

/-- The position of a point that a machine can hold is on one of the 33 coarsest levels. -/
theorem Depth.exists_onLevel {i : Nat} (small : i < wordMax) : ∃ depth, depth < 33 ∧ OnLevel i depth := by
  have on_level : OnLevel i (ofPosition i) := (ofPosition_eq_iff small).mp rfl
  refine ⟨ofPosition i, ?_, on_level⟩
  by_contra deep
  -- The next level begins behind the last word.
  have begins : levelStart 33 ≤ levelStart (ofPosition i) := levelStart_mono (Nat.not_lt.mp deep)
  have last := wordMax_lt_levelStart_33
  have begun := on_level.1
  omega

/-- A query is put together from two parts. -/
inductive Query.Splits : (whole first second : Query) → Prop where
  | range (start first second : Nat) :
    Splits (.range start (first + second)) (.range start first) (.range (start + first) second)
  | quad (bounds : Option BoundingBox) {a b c : Nat} (below : a ≤ b) (above : b ≤ c) :
    Splits (.quad bounds a c) (.quad bounds a b) (.quad bounds b c)

namespace MemorySource

variable {m : MemorySource} {schema : Schema} {whole first second : Query}

/-! ### Selections of parts -/

/-- What a query selects is what its parts select. -/
theorem selects_of_splits (splits : Query.Splits whole first second) (i : Nat) :
    m.Selects whole i ↔ m.Selects first i ∨ m.Selects second i := by
  cases splits with
  | range start count₁ count₂ =>
    simp only [Selects]
    omega
  | quad bounds below above =>
    simp only [Selects]
    -- A level of the whole lies before the depth where it is cut, or from there on.
    constructor
    · rintro ⟨⟨depth, from_begin, before_end, on_level⟩, inside⟩
      rcases Nat.lt_or_ge depth _ with coarse | fine
      · exact .inl ⟨⟨depth, from_begin, coarse, on_level⟩, inside⟩
      · exact .inr ⟨⟨depth, fine, before_end, on_level⟩, inside⟩
    · rintro (⟨⟨depth, from_begin, before_end, on_level⟩, inside⟩ | ⟨⟨depth, from_begin, before_end, on_level⟩, inside⟩)
      · exact ⟨⟨depth, from_begin, by omega, on_level⟩, inside⟩
      · exact ⟨⟨depth, by omega, before_end, on_level⟩, inside⟩

theorem lt_of_splits (splits : Query.Splits whole first second) {i j : Nat} (before : m.Selects first i)
    (after : m.Selects second j) : i < j := by
  cases splits with
  | range start count₁ count₂ =>
    simp only [Selects] at before after
    omega
  | quad bounds below above =>
    obtain ⟨⟨d₁, -, coarse, on_first⟩, -⟩ := before
    obtain ⟨⟨d₂, fine, -, on_second⟩, -⟩ := after
    exact on_first.lt_of_lt on_second (by omega)

/-- The points of the parts, one after the other, are the points of the whole. -/
theorem Selection.append (splits : Query.Splits whole first second) {front back : List Nat}
    (coarse : m.Selection first front) (fine : m.Selection second back) : m.Selection whole (front ++ back) where
  ascending := by
    apply List.pairwise_append.mpr
    refine ⟨coarse.ascending, fine.ascending, ?_⟩
    intro i before j after
    exact lt_of_splits splits ((coarse.members i).mp before).2 ((fine.members j).mp after).2
  members i := by
    rw [List.mem_append, coarse.members, fine.members, selects_of_splits splits]
    tauto

/-- The parts need the axes that the whole needs. -/
theorem missingAxis?_of_splits (splits : Query.Splits whole first second) :
    m.missingAxis? first = m.missingAxis? whole ∧ m.missingAxis? second = m.missingAxis? whole := by
  cases splits with
  | range => exact ⟨rfl, rfl⟩
  | quad bounds => cases bounds <;> exact ⟨rfl, rfl⟩

/-- There is one list of the points that a query selects. -/
theorem Selection.unique {query : Query} {indices others : List Nat} (given : m.Selection query indices)
    (taken : m.Selection query others) : indices = others := by
  have same (i : Nat) : i ∈ indices ↔ i ∈ others := by rw [given.members, taken.members]
  have rearranged : indices.Perm others := by
    apply (List.perm_ext_iff_of_nodup _ _).mpr same
    · exact given.ascending.imp Nat.ne_of_lt
    · exact taken.ascending.imp Nat.ne_of_lt
  -- Ascending lists of the same positions cannot differ in their order.
  have apart (i j : Nat) (_ : i ∈ indices) (_ : j ∈ others) (below : i < j) (above : j < i) : i = j := by omega
  exact rearranged.eq_of_pairwise apart given.ascending taken.ascending

/-! ### Answers -/

/-- The buffer has room for a record of every point that the query selects. -/
def HasRoom (m : MemorySource) (schema : Schema) (query : Query) (buffer : List UInt8) : Prop :=
  ∀ indices, m.Selection query indices → indices.length * schema.stride ≤ buffer.length

/-- The records that a query is reported to have left in a buffer, or why there are none. -/
def answer (m : MemorySource) (schema : Schema) (query : Query) (buffer : List UInt8) :
    Attempt (Except SourceError (List UInt8)) :=
  let filling := m.read schema query buffer
  filling.count.map fun count => count.map fun points => filling.buffer.take (points * schema.stride)

theorem answer_of_missing {query : Query} {axis : String} (missing : m.missingAxis? query = some axis)
    (buffer : List UInt8) :
    m.answer schema query buffer = .returned (.error (.query s!"source has no '{axis}' dimension")) := by
  rw [answer, read_of_missing missing]
  rfl

theorem answer_of_axes {query : Query} {buffer : List UInt8} (small : m.rows.length ≤ wordMax)
    (present : m.missingAxis? query = none) (room : m.HasRoom schema query buffer) :
    ∃ indices, m.Selection query indices ∧
      m.answer schema query buffer = .returned (.ok (indices.flatMap (m.recordAt schema))) := by
  obtain ⟨indices, selection, selected⟩ := select_of_axes small present
  refine ⟨indices, selection, ?_⟩
  have filled := read_eq selected (Nat.le_refl _) buffer (room indices selection)
    fun others => absurd others (Nat.lt_irrefl _)
  rw [if_neg (Nat.lt_irrefl _), List.take_length] at filled
  rw [answer, filled]
  simp only [Attempt.map, Except.map]
  rw [← m.length_records schema indices, List.take_left]

/-- A buffer for every point has room for whichever points a query selects. -/
theorem hasRoom_of_length_le {query : Query} {buffer : List UInt8}
    (room : m.rows.length * schema.stride ≤ buffer.length) : m.HasRoom schema query buffer := by
  intro indices selection
  exact (Nat.mul_le_mul_right _ selection.length_le).trans room

/-- The query is refused. -/
def Fails (m : MemorySource) (schema : Schema) (query : Query) (buffer : List UInt8) : Prop :=
  ∃ e, m.answer schema query buffer = .returned (.error e)

/-- With room for the records, a query fails exactly when an axis is missing. -/
theorem fails_iff {query : Query} {buffer : List UInt8} (small : m.rows.length ≤ wordMax)
    (room : m.HasRoom schema query buffer) : m.Fails schema query buffer ↔ m.missingAxis? query ≠ none := by
  unfold Fails
  cases missing : m.missingAxis? query with
  | some axis => simp [answer_of_missing missing]
  | none =>
    obtain ⟨indices, -, answered⟩ := answer_of_axes small missing room
    simp [answered]

/-- The three buffers have room for the records of a query and of its two parts. -/
structure Rooms (m : MemorySource) (schema : Schema) (whole first second : Query) (all front back : List UInt8) :
    Prop where
  whole : m.HasRoom schema whole all
  first : m.HasRoom schema first front
  second : m.HasRoom schema second back

/-- A query is answered with the records of its first part and then those of its second. Each point that it selects has
one of them, and they stand in the order of the source. -/
def Joined (m : MemorySource) (schema : Schema) (whole first second : Query) (all front back : List UInt8) : Prop :=
  ∃ before after : List Nat, m.Selection first before ∧ m.Selection second after ∧
    m.Selection whole (before ++ after) ∧
    m.answer schema first front = .returned (.ok (before.flatMap (m.recordAt schema))) ∧
    m.answer schema second back = .returned (.ok (after.flatMap (m.recordAt schema))) ∧
    m.answer schema whole all
      = .returned (.ok (before.flatMap (m.recordAt schema) ++ after.flatMap (m.recordAt schema)))

variable {all front back : List UInt8}

theorem joined_of_axes (splits : Query.Splits whole first second) (small : m.rows.length ≤ wordMax)
    (present : m.missingAxis? whole = none) (rooms : m.Rooms schema whole first second all front back) :
    m.Joined schema whole first second all front back := by
  obtain ⟨same_first, same_second⟩ := missingAxis?_of_splits (m := m) splits
  obtain ⟨before, coarse, first_answered⟩ := answer_of_axes small (same_first.trans present) rooms.first
  obtain ⟨after, fine, second_answered⟩ := answer_of_axes small (same_second.trans present) rooms.second
  obtain ⟨indices, selection, answered⟩ := answer_of_axes small present rooms.whole
  have joined : m.Selection whole (before ++ after) := coarse.append splits fine
  obtain rfl : indices = before ++ after := selection.unique joined
  rw [List.flatMap_append] at answered
  exact ⟨before, after, coarse, fine, joined, first_answered, second_answered, answered⟩

theorem fails_of_splits (splits : Query.Splits whole first second) (small : m.rows.length ≤ wordMax)
    (rooms : m.Rooms schema whole first second all front back) :
    m.Fails schema whole all ↔ m.Fails schema first front ∨ m.Fails schema second back := by
  obtain ⟨same_first, same_second⟩ := missingAxis?_of_splits (m := m) splits
  rw [fails_iff small rooms.whole, fails_iff small rooms.first, fails_iff small rooms.second, same_first, same_second,
    or_self]

/-- All levels down to the one with the last position hold all points. -/
theorem selection_of_all_levels (small : m.rows.length ≤ wordMax) {indices : List Nat}
    (selection : m.Selection (.range 0 m.rows.length) indices) : m.Selection (.quad none 0 33) indices where
  ascending := selection.ascending
  members i := by
    rw [selection.members]
    apply and_congr_right
    intro inside
    obtain ⟨depth, coarse, on_level⟩ := Depth.exists_onLevel (i := i) (by omega)
    have in_range : m.Selects (.range 0 m.rows.length) i := ⟨Nat.zero_le i, by omega⟩
    have on_some_level : m.Selects (.quad none 0 33) i := ⟨⟨depth, Nat.zero_le _, coarse, on_level⟩, nofun⟩
    exact iff_of_true in_range on_some_level

/-- Reading in parts gives the same records as reading at once. A range that is cut at a position is answered with the
records up to there and then those from there on. Levels that are cut at a depth are refused exactly when a part is, and
otherwise answered with the records of the coarser levels and then those of the finer ones. The 33 coarsest levels are
answered like the range of all points. -/
theorem queries_split {m : MemorySource} (small : m.rows.length ≤ wordMax) (schema : Schema) :
    (∀ start count₁ count₂ all front back,
      m.Rooms schema (.range start (count₁ + count₂)) (.range start count₁) (.range (start + count₁) count₂)
        all front back →
      m.Joined schema (.range start (count₁ + count₂)) (.range start count₁) (.range (start + count₁) count₂)
        all front back) ∧
    (∀ bounds a b c all front back, a ≤ b → b ≤ c →
      m.Rooms schema (.quad bounds a c) (.quad bounds a b) (.quad bounds b c) all front back →
      (m.Fails schema (.quad bounds a c) all
        ↔ m.Fails schema (.quad bounds a b) front ∨ m.Fails schema (.quad bounds b c) back) ∧
      (¬m.Fails schema (.quad bounds a c) all →
        m.Joined schema (.quad bounds a c) (.quad bounds a b) (.quad bounds b c) all front back)) ∧
    ∀ levels all, m.HasRoom schema (.quad none 0 33) levels → m.HasRoom schema (.range 0 m.rows.length) all →
      ∃ indices, m.Selection (.range 0 m.rows.length) indices ∧
        m.answer schema (.range 0 m.rows.length) all = .returned (.ok (indices.flatMap (m.recordAt schema))) ∧
        m.answer schema (.quad none 0 33) levels = m.answer schema (.range 0 m.rows.length) all := by
  refine ⟨?_, ?_, ?_⟩
  · intro start count₁ count₂ all front back rooms
    exact joined_of_axes (.range start count₁ count₂) small rfl rooms
  · intro bounds a b c all front back below above rooms
    have splits : Query.Splits (.quad bounds a c) (.quad bounds a b) (.quad bounds b c) := .quad bounds below above
    refine ⟨fails_of_splits splits small rooms, ?_⟩
    intro answered
    rw [fails_iff small rooms.whole, not_not] at answered
    exact joined_of_axes splits small answered rooms
  · intro levels all room_levels room_all
    obtain ⟨indices, selection, answered⟩ := answer_of_axes small rfl room_all
    obtain ⟨others, on_levels, levels_answered⟩ := answer_of_axes small rfl room_levels
    obtain rfl : others = indices := on_levels.unique (selection_of_all_levels small selection)
    exact ⟨others, selection, answered, levels_answered.trans answered.symm⟩

/-- Six points on a diagonal, in a byte for each axis: one on the first level, four on the second, one on the third. -/
def sixOnDiagonal : MemorySource where
  dimensions := [⟨"X", .unsigned, 1⟩, ⟨"Y", .unsigned, 1⟩]
  rows := [0, 1, 2, 3, 4, 5].map fun n => [.ofInt n, .ofInt n]

/-- Without the first and the last of them. -/
def innerBox : BoundingBox := ⟨.ofInt 1, .ofInt 1, .ofInt 4, .ofInt 4⟩

/-- The levels of the points in a box are read in two parts, each into a buffer for all points. -/
theorem sixOnDiagonal_by_level :
    sixOnDiagonal.rows.length ≤ wordMax ∧
    sixOnDiagonal.Joined ⟨sixOnDiagonal.dimensions⟩ (.quad (some innerBox) 0 3) (.quad (some innerBox) 0 2)
      (.quad (some innerBox) 2 3) (List.replicate 12 0) (List.replicate 12 0) (List.replicate 12 0) := by
  have small : sixOnDiagonal.rows.length ≤ wordMax := by decide
  have room (query : Query) : sixOnDiagonal.HasRoom ⟨sixOnDiagonal.dimensions⟩ query (List.replicate 12 0) :=
    hasRoom_of_length_le (by decide)
  have present : sixOnDiagonal.missingAxis? (.quad (some innerBox) 0 3) = none := by decide +kernel
  obtain ⟨-, levels, -⟩ := queries_split small ⟨sixOnDiagonal.dimensions⟩
  obtain ⟨-, joined⟩ := levels (some innerBox) 0 2 3 _ _ _ (by decide) (by decide) ⟨room _, room _, room _⟩
  refine ⟨small, joined ?_⟩
  rw [fails_iff small (room _), present]
  exact not_not.mpr rfl

end MemorySource

end PointStream
