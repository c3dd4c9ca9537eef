import Mathlib.Data.List.Basic
import Mathlib.Data.List.Perm.Subperm
import PointStream.Proofs.Number.Exact
import PointStream.Proofs.Source.Depth
import PointStream.Proofs.Source.Names

/-!
# What sources in memory answer

Which points a query selects is said of their positions and of their numbers in the dimensions it names, apart from how
they are found, and so are the bytes of a point's record. A query whose axes the source has is answered with the records
of exactly the selected points, in the order of the source; a query that lacks an axis is refused with its name.
-/

namespace PointStream

/-! ### Numbers that are not there -/

theorem littleEndian_zero (width : Nat) : littleEndian width 0 = List.replicate width 0 := by
  induction width with
  | zero => rfl
  | succ width ih =>
    rw [littleEndian, List.replicate_succ, Nat.zero_div, ih]
    rfl

theorem Binary64.clamp_zero {lo hi : Int} (below : lo ≤ 0) (above : 0 ≤ hi) : zero.clamp lo hi = 0 := by
  have finite : zero.isNaN = false ∧ zero.isInfinite = false ∧ zero.truncate = 0 := by decide
  unfold clamp
  rw [finite.1, finite.2.1, finite.2.2]
  simp only [Bool.false_eq_true, if_false]
  omega

/-- The number that stands for a missing one is written as zeros, whatever the type of the field. -/
theorem Dimension.encode_zero (d : Dimension) : d.encode .zero d.size = List.replicate d.size 0 := by
  unfold encode
  split
  next =>
    unfold valueBytes
    have some_values (width : Nat) : (0 : Int) ≤ ((1 <<< width : Nat) : Int) - 1 := by
      have positive : 0 < 1 <<< width := by
        rw [Nat.one_shiftLeft]
        exact Nat.two_pow_pos width
      omega
    cases d.kind with
    | signed =>
      have no_less (width : Nat) : -((1 <<< width : Nat) : Int) ≤ 0 :=
        Int.neg_nonpos_of_nonneg (Int.natCast_nonneg _)
      dsimp only
      rw [Binary64.clamp_zero (no_less _) (some_values _), Int.zero_emod]
      exact littleEndian_zero _
    | unsigned =>
      dsimp only
      rw [Binary64.clamp_zero (Int.le_refl 0) (some_values _)]
      exact littleEndian_zero _
    | floating =>
      have no_bits : Binary64.zero.toSingleBits.toNat = 0 ∧ Binary64.zero.bits.toNat = 0 := by decide
      dsimp only
      rw [no_bits.1, no_bits.2, ite_self]
      exact littleEndian_zero _
  next => rfl

/-! ### Queries -/

/-- The axes that a query looks at, in the order it looks them up. -/
def Query.axes : Query → List String
  | range _ _ | quad none _ _ => []
  | quad (some _) _ _ => ["X", "Y"]
  | radius inSpace _ _ _ _ => if inSpace then ["X", "Y", "Z"] else ["X", "Y"]

/-- A point lies between the sides of a box, or on one of them. -/
def BoundingBox.Encloses (b : BoundingBox) (x y : Binary64) : Prop :=
  b.xMin.AtMost x ∧ x.AtMost b.xMax ∧ b.yMin.AtMost y ∧ y.AtMost b.yMax

theorem BoundingBox.contains_iff {b : BoundingBox} {x y : Binary64} : b.contains x y = true ↔ b.Encloses x y := by
  simp only [contains, Encloses, Bool.and_eq_true, Binary64.le_iff_atMost, and_assoc]

/-- A search of pairs by their first parts gives the second part at the place where a search of the first parts ends. -/
theorem find?_zip {α β : Type} (p : α → Bool) (as : List α) (bs : List β) :
    ((as.zip bs).find? fun entry => p entry.1).map (·.2) = (as.findIdx? p).bind (bs[·]?) := by
  induction as generalizing bs with
  | nil => rfl
  | cons a as ih =>
    cases bs with
    | nil => cases (a :: as).findIdx? p <;> rfl
    | cons b bs =>
      rw [List.zip_cons_cons, List.find?_cons, List.findIdx?_cons]
      cases p a with
      | true => rfl
      | false =>
        rw [ih, if_neg Bool.false_ne_true]
        cases as.findIdx? p <;> rfl

namespace MemorySource

/-! ### Points -/

/-- The number of a point in the first dimension of a name, if there is one. -/
def number? (m : MemorySource) (i : Nat) (name : String) : Option Binary64 := do
  let row ← m.rows[i]?
  ((m.dimensions.zip row).find? fun entry => decide (Text.Alike entry.1.name name)).map (·.2)

/-- The coordinate of a point on an axis. -/
def coordinate (m : MemorySource) (i : Nat) (axis : String) : Binary64 := (m.number? i axis).getD .zero

/-- The square of the distance of a point from a centre, in the plane or in space. -/
def distanceSquared (m : MemorySource) (i : Nat) (inSpace : Bool) (x y z : Binary64) : Binary64 :=
  let square (axis : String) (centre : Binary64) : Binary64 :=
    ((m.coordinate i axis).sub centre).mul ((m.coordinate i axis).sub centre)
  ((square "X" x).add (square "Y" y)).add (if inSpace then square "Z" z else .zero)

/-- The query selects the point at a position, if there is one. -/
def Selects (m : MemorySource) (query : Query) (i : Nat) : Prop :=
  match query with
  | .range start count => start ≤ i ∧ i < start + count
  | .quad bounds depthBegin depthEnd =>
    (∃ depth, depthBegin ≤ depth ∧ depth < depthEnd ∧ Depth.OnLevel i depth) ∧
      ∀ box, bounds = some box → box.Encloses (m.coordinate i "X") (m.coordinate i "Y")
  | .radius inSpace radius x y z => (m.distanceSquared i inSpace x y z).AtMost (radius.mul radius)

/-- The positions are those of all the points that a query selects, in ascending order. -/
structure Selection (m : MemorySource) (query : Query) (indices : List Nat) : Prop where
  ascending : indices.Pairwise (· < ·)
  members : ∀ i, i ∈ indices ↔ i < m.rows.length ∧ m.Selects query i

/-- A field of a point: its number in the dimension of that name, or zeros. -/
def fieldBytes (m : MemorySource) (i : Nat) (d : Dimension) : List UInt8 :=
  match m.number? i d.name with
  | some x => d.encode x d.size
  | none => List.replicate d.size 0

/-- The record of a point: its fields, one after the other. -/
def recordAt (m : MemorySource) (schema : Schema) (i : Nat) : List UInt8 :=
  schema.dimensions.flatMap (m.fieldBytes i)

/-- The first axis of a query that no dimension of the source has as its name. -/
def missingAxis? (m : MemorySource) (query : Query) : Option String :=
  query.axes.find? fun axis => decide (m.Lacks axis)

/-- The rows of a source are as wide as it has dimensions, of which there are some, all of them supported. -/
structure IsSound (m : MemorySource) : Prop where
  declared : m.dimensions ≠ []
  supported : ∀ d ∈ m.dimensions, d.isSupported = true
  full : ∀ row ∈ m.rows, row.length = m.dimensions.length

/-- The lookup of a column leads to the number that stands beside the dimension of the name. -/
theorem number?_eq {m : MemorySource} {i : Nat} {row : List Binary64} (at_i : m.rows[i]? = some row)
    (name : String) : m.number? i name = (m.column? name).bind (row[·]?) := by
  unfold column?
  simp only [Text.sameIgnoringCase_eq]
  rw [number?, at_i]
  exact find?_zip (fun d : Dimension => decide (Text.Alike d.name name)) m.dimensions row

/-- A point has a number of a name where the first dimension of that name stands in the source. -/
theorem number?_eq_some_iff {m : MemorySource} {i : Nat} {name : String} {x : Binary64} :
    m.number? i name = some x ↔
      ∃ row place, m.rows[i]? = some row ∧ m.IsFirstNamed name place ∧ row[place]? = some x := by
  cases at_i : m.rows[i]? with
  | none => simp [number?, at_i]
  | some row => simp [number?_eq at_i, Option.bind_eq_some_iff, column?_eq_some_iff]

theorem missingAxis?_eq (m : MemorySource) (query : Query) :
    m.missingAxis? query = query.axes.find? fun axis => (m.column? axis).isNone := by
  unfold missingAxis?
  congr 1
  funext axis
  rw [Bool.eq_iff_iff, decide_eq_true_iff, ← column?_eq_none_iff, Option.isNone_iff_eq_none]

theorem coordinate_eq {m : MemorySource} {i : Nat} {row : List Binary64} (at_i : m.rows[i]? = some row)
    {axis : String} {column : Nat} (found : m.column? axis = some column) :
    m.coordinate i axis = value row column := by
  rw [coordinate, number?_eq at_i, found, Option.bind_some, value]

/-! ### Selection -/

def rowAt (m : MemorySource) (i : Nat) : List Binary64 := m.rows[i]?.getD []

/-- Rows that are kept for what they hold and where they are, with their positions. -/
theorem exists_positions (m : MemorySource) (keeps : List Binary64 × Nat → Bool) :
    ∃ indices : List Nat, indices.Pairwise (· < ·) ∧
      (∀ i, i ∈ indices ↔ ∃ row, m.rows[i]? = some row ∧ keeps (row, i) = true) ∧
      (m.rows.zipIdx.filter keeps).map (·.1) = indices.map m.rowAt := by
  refine ⟨(m.rows.zipIdx.filter keeps).map (·.2), ?_, fun i => ?_, ?_⟩
  · -- The positions of all rows ascend, and so do those of the rows that are kept.
    have all_positions : (m.rows.zipIdx.map (·.2)).Pairwise (· < ·) := by
      rw [List.zipIdx_map_snd]
      exact List.pairwise_lt_range'
    exact all_positions.sublist (List.filter_sublist.map _)
  · rw [List.mem_map]
    constructor
    · rintro ⟨⟨row, j⟩, member, rfl⟩
      obtain ⟨listed, kept⟩ := List.mem_filter.mp member
      exact ⟨row, List.mk_mem_zipIdx_iff_getElem?.mp listed, kept⟩
    · rintro ⟨row, at_i, kept⟩
      exact ⟨(row, i), List.mem_filter.mpr ⟨List.mk_mem_zipIdx_iff_getElem?.mpr at_i, kept⟩, rfl⟩
  · rw [List.map_map]
    apply List.map_congr_left
    rintro ⟨row, j⟩ member
    have at_j := List.mk_mem_zipIdx_iff_getElem?.mp (List.mem_filter.mp member).1
    simp [rowAt, at_j]

/-- Rows that are kept by a test are those of a query that selects by it. -/
theorem selection_of_filter {m : MemorySource} (query : Query) (keeps : List Binary64 × Nat → Bool)
    (tests : ∀ i row, m.rows[i]? = some row → (keeps (row, i) = true ↔ m.Selects query i)) :
    ∃ indices, m.Selection query indices ∧
      (m.rows.zipIdx.filter keeps).map (·.1) = indices.map m.rowAt := by
  obtain ⟨indices, ascending, members, rows⟩ := m.exists_positions keeps
  refine ⟨indices, ⟨ascending, fun i => ?_⟩, rows⟩
  rw [members]
  constructor
  · rintro ⟨row, at_i, kept⟩
    exact ⟨(List.getElem?_eq_some_iff.mp at_i).1, (tests i row at_i).mp kept⟩
  · rintro ⟨inside, selected⟩
    have at_i : m.rows[i]? = some m.rows[i] := List.getElem?_eq_getElem inside
    exact ⟨m.rows[i], at_i, (tests i _ at_i).mpr selected⟩

theorem selection_of_rows (m : MemorySource) (query : Query) (keeps : List Binary64 → Bool)
    (tests : ∀ i row, m.rows[i]? = some row → (keeps row = true ↔ m.Selects query i)) :
    ∃ indices, m.Selection query indices ∧ m.rows.filter keeps = indices.map m.rowAt := by
  -- The test does not look at positions, so filtering before or after they are added is the same.
  obtain ⟨indices, selection, rows⟩ := selection_of_filter query (fun entry => keeps entry.1) tests
  have by_position : m.rows.filter keeps = (m.rows.zipIdx.filter fun entry => keeps entry.1).map (·.1) := by
    conv_lhs => rw [← List.zipIdx_map_fst 0 m.rows, List.filter_map]
    rfl
  exact ⟨indices, selection, by_position.trans rows⟩

theorem selection_of_range (m : MemorySource) (start count : Nat) :
    ∃ indices, m.Selection (.range start count) indices ∧
      (m.rows.drop start).take count = indices.map m.rowAt := by
  refine ⟨List.range' start (min count (m.rows.length - start)), ⟨List.pairwise_lt_range', fun i => ?_⟩, ?_⟩
  · rw [List.mem_range'_1]
    simp only [Selects]
    omega
  · apply List.ext_getElem
    · simp
    · intro k left right
      have inside : start + k < m.rows.length := by
        simp only [List.length_take, List.length_drop] at left
        omega
      simp [rowAt, List.getElem?_eq_getElem inside]

/-- On which level a point lies is decided as it should be, in sources that a machine can hold. -/
theorem onLevels_iff {position depthBegin depthEnd : Nat} (small : position < Depth.wordMax) :
    (decide (depthBegin ≤ Depth.ofPosition position) && decide (Depth.ofPosition position < depthEnd)) = true ↔
      ∃ depth, depthBegin ≤ depth ∧ depth < depthEnd ∧ Depth.OnLevel position depth := by
  rw [Bool.and_eq_true, decide_eq_true_iff, decide_eq_true_iff]
  constructor
  · rintro ⟨from_begin, before_end⟩
    exact ⟨_, from_begin, before_end, (Depth.ofPosition_eq_iff small).mp rfl⟩
  · rintro ⟨depth, from_begin, before_end, on_level⟩
    obtain rfl := (Depth.ofPosition_eq_iff small).mpr on_level
    exact ⟨from_begin, before_end⟩

theorem selection_of_levels {m : MemorySource} (small : m.rows.length ≤ Depth.wordMax)
    (bounds : Option BoundingBox) (depthBegin depthEnd : Nat) (inside : List Binary64 → Bool)
    (tests : ∀ i row, m.rows[i]? = some row → (inside row = true ↔
      ∀ box, bounds = some box → box.Encloses (m.coordinate i "X") (m.coordinate i "Y"))) :
    ∃ indices, m.Selection (.quad bounds depthBegin depthEnd) indices ∧
      m.selectLevels depthBegin depthEnd inside = indices.map m.rowAt := by
  refine selection_of_filter _ _ fun i row at_i => ?_
  have before_last := (List.getElem?_eq_some_iff.mp at_i).1
  dsimp only
  rw [Bool.and_eq_true, onLevels_iff (by omega), tests i row at_i, Selects]

theorem select_of_missing {m : MemorySource} {query : Query} {axis : String}
    (missing : m.missingAxis? query = some axis) :
    m.select query = .error (.query s!"source has no '{axis}' dimension") := by
  -- The lookups stop at the first axis that is missing, in the order of `Query.axes`.
  rw [missingAxis?_eq] at missing
  cases query with
  | range start count => cases missing
  | quad bounds depthBegin depthEnd =>
    cases bounds with
    | none => cases missing
    | some box =>
      cases x : m.column? "X" <;> cases y : m.column? "Y" <;>
        simp_all [Query.axes, select, MemorySource.axis, bind, Except.bind]
  | radius inSpace radius x y z =>
    cases inSpace <;> cases x : m.column? "X" <;> cases y : m.column? "Y" <;> cases z : m.column? "Z" <;>
      simp_all [Query.axes, select, MemorySource.axis, bind, Except.bind, Except.map]

theorem column_of_axes {m : MemorySource} {query : Query} (present : m.missingAxis? query = none)
    (axis : String) (needed : axis ∈ query.axes) : ∃ column, m.column? axis = some column := by
  rw [missingAxis?_eq] at present
  have found := List.find?_eq_none.mp present axis needed
  rw [Option.isNone_iff_eq_none] at found
  exact Option.ne_none_iff_exists'.mp found

theorem axis_eq {m : MemorySource} {name : String} {column : Nat} (found : m.column? name = some column) :
    m.axis name = .ok column := by
  simp [MemorySource.axis, found]

/-- A query whose axes are there selects the rows it should. -/
theorem select_of_axes {m : MemorySource} {query : Query} (small : m.rows.length ≤ Depth.wordMax)
    (present : m.missingAxis? query = none) :
    ∃ indices, m.Selection query indices ∧ m.select query = .ok (indices.map m.rowAt) := by
  cases query with
  | range start count =>
    obtain ⟨indices, selection, rows⟩ := m.selection_of_range start count
    exact ⟨indices, selection, by rw [← rows]; rfl⟩
  | quad bounds depthBegin depthEnd =>
    cases bounds with
    | none =>
      obtain ⟨indices, selection, rows⟩ :=
        selection_of_levels small none depthBegin depthEnd (fun _ => true) (by simp)
      exact ⟨indices, selection, by rw [← rows]; rfl⟩
    | some box =>
      obtain ⟨x, x_found⟩ := column_of_axes present "X" (by simp [Query.axes])
      obtain ⟨y, y_found⟩ := column_of_axes present "Y" (by simp [Query.axes])
      obtain ⟨indices, selection, rows⟩ := selection_of_levels small (some box) depthBegin depthEnd
        (fun row => box.contains (value row x) (value row y)) (by
          intro i row at_i
          simp [coordinate_eq at_i x_found, coordinate_eq at_i y_found, BoundingBox.contains_iff])
      refine ⟨indices, selection, ?_⟩
      simp only [select, axis_eq x_found, axis_eq y_found, ← rows]
      rfl
  | radius inSpace radius x y z =>
    obtain ⟨xAxis, x_found⟩ := column_of_axes present "X" (by cases inSpace <;> simp [Query.axes])
    obtain ⟨yAxis, y_found⟩ := column_of_axes present "Y" (by cases inSpace <;> simp [Query.axes])
    -- The height is looked up only in space, and the third term is zero otherwise.
    obtain ⟨height, selected, same_distance⟩ : ∃ height : Option (Nat × Binary64),
        m.select (.radius inSpace radius x y z) = .ok (m.rows.filter fun row =>
          (squaredDistance row (xAxis, x) (yAxis, y) height).le (radius.mul radius)) ∧
        ∀ i row, m.rows[i]? = some row →
          squaredDistance row (xAxis, x) (yAxis, y) height = m.distanceSquared i inSpace x y z := by
      cases inSpace with
      | true =>
        obtain ⟨zAxis, z_found⟩ := column_of_axes present "Z" (by simp [Query.axes])
        refine ⟨some (zAxis, z), ?_, fun i row at_i => ?_⟩
        · simp only [select, axis_eq x_found, axis_eq y_found, axis_eq z_found]
          rfl
        · simp [squaredDistance, distanceSquared, coordinate_eq at_i x_found, coordinate_eq at_i y_found,
            coordinate_eq at_i z_found]
      | false =>
        refine ⟨none, ?_, fun i row at_i => ?_⟩
        · simp only [select, axis_eq x_found, axis_eq y_found]
          rfl
        · simp [squaredDistance, distanceSquared, coordinate_eq at_i x_found, coordinate_eq at_i y_found]
    obtain ⟨indices, selection, rows⟩ := m.selection_of_rows (.radius inSpace radius x y z)
      (fun row => (squaredDistance row (xAxis, x) (yAxis, y) height).le (radius.mul radius))
      fun i row at_i => by rw [same_distance i row at_i, Selects, Binary64.le_iff_atMost]
    exact ⟨indices, selection, by rw [selected, rows]⟩

/-! ### Records -/

/-- Wherever a row is too short its numbers are written as the zeros of a missing column. -/
theorem record_rowAt (m : MemorySource) (schema : Schema) (i : Nat) :
    record (m.columns schema) (m.rowAt i) = m.recordAt schema i := by
  unfold record columns recordAt
  rw [List.flatMap_map]
  congr 1
  funext d
  have number : m.number? i d.name = (m.column? d.name).bind ((m.rowAt i)[·]?) := by
    unfold rowAt
    cases at_i : m.rows[i]? with
    | none =>
      rw [number?, at_i]
      cases m.column? d.name <;> rfl
    | some row => exact number?_eq at_i d.name
  rw [fieldBytes, number]
  cases m.column? d.name with
  | none => rfl
  | some column =>
    simp only [field, Option.bind_some, value]
    cases (m.rowAt i)[column]? with
    | none => exact d.encode_zero
    | some x => rfl

/-- The records that fit are written one after the other, and then the filling goes on behind them. -/
theorem fillFrom_append (record : List Binary64 → List UInt8) {stride : Nat} (available : Nat)
    {rows : List (List Binary64)} (others : List (List Binary64)) (written : Nat) (front : List UInt8)
    {rest : List UInt8} (fits : rows.length * stride ≤ rest.length) :
    let behind := rest.drop (rows.length * stride)
    fillFrom record stride available written front rest.length rest (rows ++ others)
      = fillFrom record stride available (written + rows.length) ((rows.flatMap record).reverse ++ front)
          behind.length behind others := by
  induction rows generalizing written front rest with
  | nil => simp
  | cons row rows ih =>
    rw [List.length_cons, Nat.succ_mul] at fits
    have fits_now : stride ≤ rest.length := by omega
    have fits_later : rows.length * stride ≤ (rest.drop stride).length := by
      rw [List.length_drop]
      omega
    -- What is written so far is kept last first, so the record goes to the front of it reversed.
    have continued := ih (written + 1) ((record row).reverse ++ front) fits_later
    rw [List.length_drop] at continued
    rw [List.cons_append, fillFrom, if_pos fits_now, continued]
    simp only [List.reverse_append, List.flatMap_cons, List.append_assoc, List.drop_drop, List.length_cons,
      Nat.succ_mul, Nat.add_comm, Nat.add_left_comm]

/-- Where all records fit they fill the front of the buffer, and the rest of it stays. -/
theorem fillFrom_of_fits (record : List Binary64 → List UInt8) {stride : Nat} (available : Nat)
    {rows : List (List Binary64)} (written : Nat) (front : List UInt8) {rest : List UInt8}
    (fits : rows.length * stride ≤ rest.length) :
    fillFrom record stride available written front rest.length rest rows
      = ⟨front.reverse ++ rows.flatMap record ++ rest.drop (rows.length * stride),
          .returned (.ok (written + rows.length))⟩ := by
  have filled := fillFrom_append record available [] written front fits
  rw [List.append_nil] at filled
  rw [filled, fillFrom, List.reverse_append, List.reverse_reverse]

/-- Where only the records of some rows fit, the next one is refused and they stay. -/
theorem fillFrom_of_short (record : List Binary64 → List UInt8) {stride : Nat} (available : Nat)
    {rows : List (List Binary64)} (row : List Binary64) (others : List (List Binary64)) (written : Nat)
    (front : List UInt8) {rest : List UInt8} (fits : rows.length * stride ≤ rest.length)
    (short : rest.length < (rows.length + 1) * stride) :
    fillFrom record stride available written front rest.length rest (rows ++ row :: others)
      = ⟨front.reverse ++ rows.flatMap record ++ rest.drop (rows.length * stride),
          .returned (.error (.bufferTooSmall ((written + rows.length + 1) * stride) available))⟩ := by
  have no_room : ¬ stride ≤ (rest.drop (rows.length * stride)).length := by
    rw [Nat.succ_mul] at short
    rw [List.length_drop]
    omega
  rw [fillFrom_append record available (row :: others) written front fits, fillFrom, if_neg no_room,
    List.reverse_append, List.reverse_reverse]

theorem Selection.length_le {m : MemorySource} {query : Query} {indices : List Nat}
    (selection : m.Selection query indices) : indices.length ≤ m.rows.length := by
  -- Ascending positions are distinct, and there are no more of them than rows.
  have distinct : indices.Nodup := selection.ascending.imp Nat.ne_of_lt
  have inside : indices ⊆ List.range m.rows.length := fun i member =>
    List.mem_range.mpr ((selection.members i).mp member).1
  have shorter := (distinct.subperm inside).length_le
  rwa [List.length_range] at shorter

theorem flatMap_rowAt (m : MemorySource) (schema : Schema) (indices : List Nat) :
    (indices.map m.rowAt).flatMap (record (m.columns schema)) = indices.flatMap (m.recordAt schema) := by
  rw [List.flatMap_map]
  exact List.flatMap_congr fun i _ => m.record_rowAt schema i

/-- As many records are written as fit, and the first that does not is refused. -/
theorem read_eq {m : MemorySource} {schema : Schema} {query : Query} {indices : List Nat}
    (selected : m.select query = .ok (indices.map m.rowAt)) {fitting : Nat} (listed : fitting ≤ indices.length)
    (buffer : List UInt8) (fits : fitting * schema.stride ≤ buffer.length)
    (short : fitting < indices.length → buffer.length < (fitting + 1) * schema.stride) :
    m.read schema query buffer
      = ⟨(indices.take fitting).flatMap (m.recordAt schema) ++ buffer.drop (fitting * schema.stride),
          .returned (if fitting < indices.length then
            .error (.bufferTooSmall ((fitting + 1) * schema.stride) buffer.length) else .ok indices.length)⟩ := by
  have counted : ((indices.take fitting).map m.rowAt).length = fitting := by
    rw [List.length_map, List.length_take, Nat.min_eq_left listed]
  have fits_rows : ((indices.take fitting).map m.rowAt).length * schema.stride ≤ buffer.length := by rwa [counted]
  rw [read, selected]
  dsimp only
  rw [fill]
  by_cases others : fitting < indices.length
  · have rows : indices.map m.rowAt = (indices.take fitting).map m.rowAt ++
        m.rowAt indices[fitting] :: (indices.drop (fitting + 1)).map m.rowAt := by
      rw [← List.map_cons, List.getElem_cons_drop, ← List.map_append, List.take_append_drop]
    rw [rows, fillFrom_of_short _ _ _ _ _ _ fits_rows (by rw [counted]; exact short others), flatMap_rowAt, counted,
      if_pos others]
    simp
  · obtain rfl : fitting = indices.length := by omega
    rw [List.take_length, List.length_map] at fits_rows
    rw [fillFrom_of_fits _ _ _ _ (by rwa [List.length_map]), flatMap_rowAt, List.length_map, if_neg others,
      List.take_length]
    simp

/-- A buffer for every point is filled from its front with the records of the selected points. -/
theorem read_of_axes {m : MemorySource} {schema : Schema} {query : Query}
    {buffer : List UInt8} (small : m.rows.length ≤ Depth.wordMax) (present : m.missingAxis? query = none)
    (room : m.rows.length * schema.stride ≤ buffer.length) :
    ∃ indices, m.Selection query indices ∧ m.read schema query buffer
      = ⟨indices.flatMap (m.recordAt schema) ++ buffer.drop (indices.length * schema.stride),
          .returned (.ok indices.length)⟩ := by
  obtain ⟨indices, selection, selected⟩ := select_of_axes small present
  refine ⟨indices, selection, ?_⟩
  have fits : indices.length * schema.stride ≤ buffer.length :=
    le_trans (Nat.mul_le_mul_right _ selection.length_le) room
  rw [read_eq selected (Nat.le_refl _) buffer fits fun others => absurd others (Nat.lt_irrefl _), List.take_length,
    if_neg (Nat.lt_irrefl _)]

theorem read_of_missing {m : MemorySource} {query : Query} {axis : String}
    (missing : m.missingAxis? query = some axis) (schema : Schema) (buffer : List UInt8) :
    m.read schema query buffer
      = ⟨buffer, .returned (.error (.query s!"source has no '{axis}' dimension"))⟩ := by
  rw [read, select_of_missing missing]

theorem length_fieldBytes (m : MemorySource) (i : Nat) (d : Dimension) : (m.fieldBytes i d).length = d.size := by
  unfold fieldBytes
  split <;> simp

theorem length_recordAt (m : MemorySource) (schema : Schema) (i : Nat) :
    (m.recordAt schema i).length = schema.stride := by
  unfold recordAt Schema.stride
  induction schema.dimensions with
  | nil => rfl
  | cons d dimensions ih =>
    rw [List.flatMap_cons, List.length_append, ih, List.foldr_cons, length_fieldBytes]

theorem length_records (m : MemorySource) (schema : Schema) (indices : List Nat) :
    (indices.flatMap (m.recordAt schema)).length = indices.length * schema.stride := by
  induction indices with
  | nil => simp
  | cons i indices ih =>
    rw [List.flatMap_cons, List.length_append, length_recordAt, ih, List.length_cons, Nat.succ_mul,
      Nat.add_comm]

end MemorySource

end PointStream
