import PointStream.Proofs.Json.WellFormed
import PointStream.Proofs.Read.Inline

/-!
# The language of read requests

What the arguments of a read ask for is said as a judgement on the values alone, and decoding is shown to agree
with it: on the requests that are accepted, on what is carried of them, and on which refusal answers every other
list of values.
-/

namespace PointStream

theorem Binary64.le_eq_not_lt {x y : Binary64} (hx : x.isNaN = false) (hy : y.isNaN = false) :
    x.le y = !y.lt x := by
  by_cases below : y.orderKey < x.orderKey
  · have not_le : ¬x.orderKey ≤ y.orderKey := by omega
    simp [le, lt, hx, hy, below, not_le]
  · have le : x.orderKey ≤ y.orderKey := by omega
    simp [Binary64.le, lt, hx, hy, below, le]

namespace ReadRequest

/-! ### Integers -/

/-- A value is exactly the natural number `n`, which has 32 bits. -/
def IsInteger (v : Json) (n : Nat) : Prop :=
  ∃ number : Json.Number, v = .number number ∧ number.toInt? = some (n : Int) ∧ n < UInt32.size

theorem integer?_eq_some_iff {v : Json} {n : Nat} : integer? v = some n ↔ IsInteger v n := by
  constructor
  · intro read
    unfold integer? at read
    split at read
    next number =>
      split at read
      next i exact_value =>
        split at read
        next bounded =>
          obtain rfl := Option.some.inj read
          refine ⟨number, rfl, ?_, by omega⟩
          rw [exact_value, Int.toNat_of_nonneg bounded.1]
        next => cases read
      next => cases read
    next => cases read
  · rintro ⟨number, rfl, exact_value, small⟩
    have bounded : 0 ≤ (n : Int) ∧ (n : Int) < UInt32.size := by omega
    simp only [integer?, exact_value, if_pos bounded, Int.toNat_natCast]

theorem IsInteger.unique {v : Json} {m n : Nat} (first : IsInteger v m) (second : IsInteger v n) : m = n := by
  rw [← integer?_eq_some_iff] at first second
  exact Option.some.inj (first.symm.trans second)

/-! ### Schemas -/

/-- Characters write a natural number: decimal digits, after a plus sign or not. -/
def Writes (cs : List Char) (n : Nat) : Prop :=
  ∃ digits : List Char, (cs = digits ∨ cs = '+' :: digits) ∧ digits ≠ [] ∧ digits.all Char.isDigit = true ∧
    Nat.ofDigitChars 10 digits 0 = n

theorem readNatural?_of_written {limit : Nat} {s : String} {digits : List Char}
    (written : (s.toList = digits ∧ ∀ rest, digits ≠ '+' :: rest) ∨ s.toList = '+' :: digits) :
    Text.readNatural? limit s
      = if digits ≠ [] ∧ digits.all Char.isDigit = true ∧ Nat.ofDigitChars 10 digits 0 < limit then
          some (Nat.ofDigitChars 10 digits 0)
        else none := by
  let value := digits.foldl (fun n c => n * 10 + (c.toNat - '0'.toNat)) 0
  have body : Text.readNatural? limit s
      = if digits.isEmpty || !digits.all Char.isDigit then none else if value < limit then some value else none := by
    rcases written with ⟨rfl, no_sign⟩ | signed
    · unfold Text.readNatural?
      split
      next rest sign => exact absurd sign (no_sign rest)
      next => rfl
    · simp only [Text.readNatural?, signed, value]
  have value_eq : value = Nat.ofDigitChars 10 digits 0 := by
    simp only [value, Nat.ofDigitChars_eq_foldl, Nat.mul_comm]
  rw [body, value_eq]
  cases digits with
  | nil => rfl
  | cons first others => cases plain : (first :: others).all Char.isDigit <;> simp

theorem readNatural?_eq_some_iff {limit n : Nat} {s : String} :
    Text.readNatural? limit s = some n ↔ Writes s.toList n ∧ n < limit := by
  have given {digits : List Char} (written : s.toList = digits ∨ s.toList = '+' :: digits)
      (separate : (s.toList = digits ∧ ∀ rest, digits ≠ '+' :: rest) ∨ s.toList = '+' :: digits)
      (read : Text.readNatural? limit s = some n) : Writes s.toList n ∧ n < limit := by
    rw [readNatural?_of_written separate] at read
    split at read
    next fits =>
      obtain rfl := Option.some.inj read
      exact ⟨⟨digits, written, fits.1, fits.2.1, rfl⟩, fits.2.2⟩
    next => cases read
  constructor
  · intro read
    by_cases signed : ∃ digits, s.toList = '+' :: digits
    · obtain ⟨digits, signed⟩ := signed
      exact given (.inr signed) (.inr signed) read
    · exact given (.inl rfl) (.inl ⟨rfl, fun rest sign => signed ⟨rest, sign⟩⟩) read
  · rintro ⟨⟨digits, written, some_digit, all_digits, rfl⟩, small⟩
    -- A plus sign is no digit, so it does not count as the first of the digits.
    have no_sign : ∀ rest, digits ≠ '+' :: rest := by
      rintro rest rfl
      exact absurd (List.all_eq_true.mp all_digits '+' List.mem_cons_self) (by decide)
    rw [readNatural?_of_written (written.imp_left fun same => ⟨same, no_sign⟩)]
    exact if_pos ⟨some_digit, all_digits, small⟩

/-- The size that a value gives a dimension. -/
inductive IsSize : Json → Nat → Prop where
  | number {number : Json.Number} {n : Nat} (integer : IsInteger (.number number) n) : IsSize (.number number) n
  | text {s : String} {n : Nat} (digits : Writes (Text.trim s).toList n) (small : n < UInt64.size) :
    IsSize (.string s) n

theorem size?_eq_some_iff {v : Json} {n : Nat} : size? v = some n ↔ IsSize v n := by
  constructor
  · intro read
    cases v with
    | string s =>
      obtain ⟨digits, small⟩ := readNatural?_eq_some_iff.mp read
      exact .text digits small
    | number number => exact .number (integer?_eq_some_iff.mp read)
    | _ => cases read
  · intro size
    cases size with
    | number integer => exact integer?_eq_some_iff.mpr integer
    | text digits small => exact readNatural?_eq_some_iff.mpr ⟨digits, small⟩

/-- An entry of a schema describes a dimension that has values. -/
structure Describes (entry : Json) (d : Dimension) : Prop where
  entry_eq : ∃ members, entry = .object members ∧ d.name = nameOf (Json.member? "name" members) ∧
    (∃ type, Json.member? "type" members = some (.string type) ∧ DimensionKind.ofText? type = some d.kind) ∧
    ∃ size, Json.member? "size" members = some size ∧ IsSize size d.size
  supported : d.size ∈ d.kind.sizes

theorem dimension?_eq_some_iff {entry : Json} {d : Dimension} :
    dimension? entry = some d ↔ Describes entry d := by
  constructor
  · intro read
    unfold dimension? at read
    split at read
    next members =>
      simp only [Option.bind_eq_bind, Option.bind_eq_some_iff] at read
      obtain ⟨size, has_size, n, size_read, type, has_type, read⟩ := read
      split at read
      next text =>
        obtain ⟨kind, known, read⟩ := Option.bind_eq_some_iff.mp read
        split at read
        next supported =>
          obtain rfl := Option.some.inj read
          refine ⟨⟨members, rfl, rfl, ⟨text, has_type, known⟩, size, has_size, size?_eq_some_iff.mp size_read⟩, ?_⟩
          simpa [Dimension.isSupported, DimensionKind.supportsSize] using supported
        next => cases read
      next => cases read
    next => cases read
  · rintro ⟨⟨members, rfl, named, ⟨text, has_type, known⟩, size, has_size, size_read⟩, supported⟩
    obtain ⟨name, kind, n⟩ := d
    obtain rfl : name = _ := named
    have has_values : (⟨nameOf (Json.member? "name" members), kind, n⟩ : Dimension).isSupported = true := by
      simpa [Dimension.isSupported, DimensionKind.supportsSize] using supported
    simp [dimension?, has_size, size?_eq_some_iff.mpr size_read, has_type, known, has_values]

/-- The dimensions that a list of entries describes, in their order; entries that describe none are dropped. -/
inductive Listed : List Json → List Dimension → Prop where
  | nil : Listed [] []
  | kept {entry : Json} {d : Dimension} {entries : List Json} {rest : List Dimension}
    (described : Describes entry d) (others : Listed entries rest) : Listed (entry :: entries) (d :: rest)
  | dropped {entry : Json} {entries : List Json} {rest : List Dimension}
    (undescribed : ∀ d, ¬Describes entry d) (others : Listed entries rest) : Listed (entry :: entries) rest

/-- The schema of an argument with these members, which counts only under the name of its dimensions. -/
inductive IsSchema (members : List (String × Json)) : Schema → Prop where
  | given {entries : List Json} {dimensions : List Dimension}
    (present : Json.member? "dimensions" members = some (.array entries)) (listed : Listed entries dimensions) :
    IsSchema members ⟨dimensions⟩
  | absent (absent : ∀ entries, Json.member? "dimensions" members ≠ some (.array entries)) :
    IsSchema members .empty

theorem filterMap_dimension?_eq_iff {entries : List Json} {dimensions : List Dimension} :
    entries.filterMap dimension? = dimensions ↔ Listed entries dimensions := by
  induction entries generalizing dimensions with
  | nil =>
    constructor
    · rintro rfl
      exact .nil
    · rintro ⟨⟩
      rfl
  | cons entry entries ih =>
    cases asked : dimension? entry with
    | none =>
      have undescribed (d : Dimension) : ¬Describes entry d := by
        rw [← dimension?_eq_some_iff, asked]
        exact nofun
      rw [List.filterMap_cons_none asked, ih]
      constructor
      · exact .dropped undescribed
      · intro listed
        cases listed with
        | kept described others => exact absurd described (undescribed _)
        | dropped _ others => exact others
    | some d =>
      have described := dimension?_eq_some_iff.mp asked
      rw [List.filterMap_cons_some asked]
      constructor
      · rintro rfl
        exact .kept described (ih.mp rfl)
      · intro listed
        cases listed with
        | kept described others =>
          rw [← dimension?_eq_some_iff, asked] at described
          rw [Option.some.inj described, ih.mpr others]
        | dropped undescribed _ => exact absurd described (undescribed d)

theorem schemaOf_eq_iff {members : List (String × Json)} {schema : Schema} :
    schemaOf members = schema ↔ IsSchema members schema := by
  constructor
  · rintro rfl
    unfold schemaOf entriesOf
    split
    next entries present => exact .given present (filterMap_dimension?_eq_iff.mp rfl)
    next absent => exact .absent absent
  · intro asked
    cases asked with
    | given present listed => simp [schemaOf, entriesOf, present, filterMap_dimension?_eq_iff.mpr listed]
    | absent absent =>
      unfold schemaOf entriesOf
      split
      next entries present => exact absurd present (absent entries)
      next => rfl

/-! ### Queries -/

/-- What the values behind the schema say: one of three shapes, with what decides on it. -/
inductive Shape where
  | range (start count : Nat)
  | quad (corners : Option (List Json)) (depthBegin depthEnd : Nat)
  | radius (inSpace : Bool) (radius x y z : Json.Number)

inductive IsShape : List Json → Shape → Prop where
  | range {v w : Json} {start count : Nat} (first : IsInteger v start) (second : IsInteger w count) :
    IsShape [v, w] (.range start count)
  | levels {v w : Json} {depthBegin depthEnd : Nat} (first : IsInteger v depthBegin)
    (second : IsInteger w depthEnd) : IsShape [.null, v, w] (.quad none depthBegin depthEnd)
  | box {corners : List Json} {v w : Json} {depthBegin depthEnd : Nat} (four : 4 ≤ corners.length)
    (first : IsInteger v depthBegin) (second : IsInteger w depthEnd) :
    IsShape [.array corners, v, w] (.quad (some corners) depthBegin depthEnd)
  | radius (inSpace : Bool) (radius x y z : Json.Number) :
    IsShape [.bool inSpace, .number radius, .number x, .number y, .number z] (.radius inSpace radius x y z)

/-- One of the maxima of a box is below its minimum. -/
def Inverted (xMin yMin xMax yMax : Json.Number) : Prop :=
  xMax.toBinary64.lt xMin.toBinary64 = true ∨ yMax.toBinary64.lt yMin.toBinary64 = true

instance (xMin yMin xMax yMax : Json.Number) : Decidable (Inverted xMin yMin xMax yMax) :=
  inferInstanceAs (Decidable (_ ∨ _))

/-- What a source of `total` points makes of a shape. -/
inductive Verdict (total : Nat) : Shape → Except Refusal Query → Prop where
  | range {start count : Nat} (inside : start < total) :
    Verdict total (.range start count) (.ok (.range start count))
  | beyond {start count : Nat} (beyond : total ≤ start) :
    Verdict total (.range start count) (.error .invalidStart)
  | levels {depthBegin depthEnd : Nat} :
    Verdict total (.quad none depthBegin depthEnd) (.ok (.quad none depthBegin depthEnd))
  | untyped {corners : List Json} {depthBegin depthEnd : Nat}
    (untyped : ∃ corner ∈ corners.take 4, corner.isNumber = false) :
    Verdict total (.quad (some corners) depthBegin depthEnd) (.error .invalidCoordinateTypes)
  | inverted {xMin yMin xMax yMax : Json.Number} {further : List Json} {depthBegin depthEnd : Nat}
    (inverted : Inverted xMin yMin xMax yMax) :
    Verdict total (.quad (some (.number xMin :: .number yMin :: .number xMax :: .number yMax :: further))
      depthBegin depthEnd) (.error .invalidCoordinates)
  | box {xMin yMin xMax yMax : Json.Number} {further : List Json} {depthBegin depthEnd : Nat}
    (ordered : ¬Inverted xMin yMin xMax yMax) :
    Verdict total (.quad (some (.number xMin :: .number yMin :: .number xMax :: .number yMax :: further))
      depthBegin depthEnd)
      (.ok (.quad (some ⟨xMin.toBinary64, yMin.toBinary64, xMax.toBinary64, yMax.toBinary64⟩) depthBegin depthEnd))
  | negative {inSpace : Bool} {radius x y z : Json.Number} (negative : radius.toBinary64.lt .zero = true) :
    Verdict total (.radius inSpace radius x y z) (.error .invalidRadius)
  | neighbourhood {inSpace : Bool} {radius x y z : Json.Number} (distance : radius.toBinary64.lt .zero = false) :
    Verdict total (.radius inSpace radius x y z)
      (.ok (.radius inSpace radius.toBinary64 x.toBinary64 y.toBinary64 z.toBinary64))

/-- The three shapes do not overlap. -/
theorem IsShape.unique {values : List Json} {shape other : Shape} (given : IsShape values shape)
    (taken : IsShape values other) : shape = other := by
  cases given with
  | range first second | levels first second | box _ first second =>
    cases taken
    rename_i first' second'
    rw [first.unique first', second.unique second']
  | radius =>
    cases taken
    rfl

theorem isNumber_iff {v : Json} : v.isNumber = true ↔ ∃ number, v = .number number := by
  cases v <;> simp [Json.isNumber]

theorem queryOf_of_shapeless {total : Nat} {values : List Json} (shapeless : ∀ shape, ¬IsShape values shape) :
    queryOf total (values.map some) = .error .unidentified := by
  -- Shapes have two, three or five values; with these something that a shape says of one of them must fail.
  match values with
  | [] | [_] | [_, _, _, _] | _ :: _ :: _ :: _ :: _ :: _ :: _ => rfl
  | [v, w] =>
    cases first : integer? v with
    | none => simp [queryOf, first]
    | some start =>
      cases second : integer? w with
      | none => simp [queryOf, second]
      | some count =>
        exact absurd (.range (integer?_eq_some_iff.mp first) (integer?_eq_some_iff.mp second)) (shapeless _)
  | [box, v, w] =>
    cases first : integer? v with
    | none => simp [queryOf, first]
    | some depthBegin =>
      cases second : integer? w with
      | none => simp [queryOf, second]
      | some depthEnd =>
        rw [integer?_eq_some_iff] at first second
        have unbounded : boundsOf (some box) = .error .unidentified := by
          match box with
          | .null => exact absurd (.levels first second) (shapeless _)
          | .array (a :: b :: c :: d :: further) =>
            exact absurd (.box (by simp) first second) (shapeless _)
          | .array [] | .array [_] | .array [_, _] | .array [_, _, _] => rfl
          | .bool _ | .number _ | .string _ | .object _ => rfl
        rw [← integer?_eq_some_iff] at first second
        simp [queryOf, first, second, quadOf, unbounded, Except.map]
  | [flag, r, x, y, z] =>
    cases flag with
    | bool inSpace =>
      by_cases numbers : [r, x, y, z].all Json.isNumber = true
      · simp only [List.all_cons, List.all_nil, Bool.and_eq_true, isNumber_iff] at numbers
        obtain ⟨⟨r, rfl⟩, ⟨x, rfl⟩, ⟨y, rfl⟩, ⟨z, rfl⟩, -⟩ := numbers
        exact absurd (.radius inSpace r x y z) (shapeless _)
      · exact if_neg numbers
    | _ => rfl

theorem quadOf_of_untyped {corners : List Json} (four : 4 ≤ corners.length)
    (untyped : ∃ corner ∈ corners.take 4, corner.isNumber = false) (depthBegin depthEnd : Nat) :
    quadOf (some (.array corners)) depthBegin depthEnd = .error .invalidCoordinateTypes := by
  match corners with
  | a :: b :: c :: d :: further =>
    have mixed : [a, b, c, d].all Json.isNumber = false := List.all_eq_false.mpr (by simpa using untyped)
    simp only [quadOf, boundsOf, mixed]
    rfl

/-- Among numbers, a box is ordered unless a maximum is below its minimum. -/
theorem quadOf_of_numbers {xMin yMin xMax yMax : Json.Number} {further : List Json}
    (well : ∀ corner ∈ .number xMin :: .number yMin :: .number xMax :: .number yMax :: further, corner.IsWellFormed)
    (depthBegin depthEnd : Nat) :
    quadOf (some (.array (.number xMin :: .number yMin :: .number xMax :: .number yMax :: further)))
        depthBegin depthEnd
      = if Inverted xMin yMin xMax yMax then .error .invalidCoordinates
        else .ok (.quad (some ⟨xMin.toBinary64, yMin.toBinary64, xMax.toBinary64, yMax.toBinary64⟩)
          depthBegin depthEnd) := by
  let box : BoundingBox := ⟨xMin.toBinary64, yMin.toBinary64, xMax.toBinary64, yMax.toBinary64⟩
  have ordered_iff : box.isOrdered = true ↔ ¬Inverted xMin yMin xMax yMax := by
    simp only [List.forall_mem_cons, Json.isSound_number] at well
    obtain ⟨wellXMin, wellYMin, wellXMax, wellYMax, -⟩ := well
    rw [BoundingBox.isOrdered,
      Binary64.le_eq_not_lt (Json.Number.isNaN_toBinary64 wellXMin) (Json.Number.isNaN_toBinary64 wellXMax),
      Binary64.le_eq_not_lt (Json.Number.isNaN_toBinary64 wellYMin) (Json.Number.isNaN_toBinary64 wellYMax)]
    simp [Inverted]
  have bounds : quadOf (some (.array (.number xMin :: .number yMin :: .number xMax :: .number yMax :: further)))
        depthBegin depthEnd
      = (if box.isOrdered then .ok (some box) else .error .invalidCoordinates : Except Refusal _).map
          fun box => .quad box depthBegin depthEnd := rfl
  rw [bounds]
  by_cases inverted : Inverted xMin yMin xMax yMax
  · rw [if_pos inverted, if_neg (mt ordered_iff.mp (not_not.mpr inverted))]
    rfl
  · rw [if_neg inverted, if_pos (ordered_iff.mpr inverted)]
    rfl

theorem quadOf_eq_iff {corners : List Json} (four : 4 ≤ corners.length)
    (well : ∀ corner ∈ corners, corner.IsWellFormed) {total depthBegin depthEnd : Nat} {r : Except Refusal Query} :
    quadOf (some (.array corners)) depthBegin depthEnd = r
      ↔ Verdict total (.quad (some corners) depthBegin depthEnd) r := by
  by_cases untyped : ∃ corner ∈ corners.take 4, corner.isNumber = false
  · rw [quadOf_of_untyped four untyped]
    constructor
    · rintro rfl
      exact .untyped untyped
    · intro verdict
      cases verdict with
      | untyped => rfl
      | inverted | box => simp [Json.isNumber] at untyped
  · match corners with
    | a :: b :: c :: d :: further =>
      have typed : a.isNumber = true ∧ b.isNumber = true ∧ c.isNumber = true ∧ d.isNumber = true := by
        simpa using untyped
      simp only [isNumber_iff] at typed
      obtain ⟨⟨xMin, rfl⟩, ⟨yMin, rfl⟩, ⟨xMax, rfl⟩, ⟨yMax, rfl⟩⟩ := typed
      rw [quadOf_of_numbers well]
      constructor
      · rintro rfl
        split
        next inverted => exact .inverted inverted
        next ordered => exact .box ordered
      · intro verdict
        cases verdict with
        | untyped mixed => exact absurd mixed untyped
        | inverted inverted => exact if_pos inverted
        | box ordered => exact if_neg ordered

theorem rangeOf_eq_iff {start count total : Nat} {r : Except Refusal Query} :
    rangeOf start count total = r ↔ Verdict total (.range start count) r := by
  unfold rangeOf
  constructor
  · rintro rfl
    split
    next beyond => exact .beyond beyond
    next inside => exact .range (Nat.not_le.mp inside)
  · intro verdict
    cases verdict with
    | range inside => exact if_neg (Nat.not_le.mpr inside)
    | beyond beyond => exact if_pos beyond

theorem radius_eq_iff {total : Nat} {inSpace : Bool} {radius x y z : Json.Number} {r : Except Refusal Query} :
    queryOf total ([.bool inSpace, .number radius, .number x, .number y, .number z].map some) = r
      ↔ Verdict total (.radius inSpace radius x y z) r := by
  have asked : queryOf total ([.bool inSpace, .number radius, .number x, .number y, .number z].map some)
      = if radius.toBinary64.lt .zero then .error .invalidRadius
        else .ok (.radius inSpace radius.toBinary64 x.toBinary64 y.toBinary64 z.toBinary64) := rfl
  rw [asked]
  constructor
  · rintro rfl
    split
    next negative => exact .negative negative
    next distance => exact .neighbourhood (Bool.not_eq_true _ ▸ distance)
  · intro verdict
    cases verdict with
    | negative negative => exact if_pos negative
    | neighbourhood distance => exact if_neg (by simp [distance])

theorem queryOf_eq_iff {total : Nat} {values : List Json} (well : ∀ v ∈ values, v.IsWellFormed) {shape : Shape}
    (shaped : IsShape values shape) {r : Except Refusal Query} :
    queryOf total (values.map some) = r ↔ Verdict total shape r := by
  cases shaped with
  | @range v w start count first second =>
    rw [← integer?_eq_some_iff] at first second
    have asked : queryOf total [some v, some w] = rangeOf start count total := by simp [queryOf, first, second]
    rw [List.map_cons, List.map_singleton, asked]
    exact rangeOf_eq_iff
  | levels first second =>
    rw [← integer?_eq_some_iff] at first second
    simp only [List.map_cons, List.map_nil, queryOf, first, second]
    constructor
    · rintro rfl
      exact .levels
    · rintro ⟨⟩
      rfl
  | box four first second =>
    rw [← integer?_eq_some_iff] at first second
    simp only [List.map_cons, List.map_nil, queryOf, first, second]
    -- The corners are well-formed with the array that they stand in.
    have array := well _ List.mem_cons_self
    cases array with
    | array each => exact quadOf_eq_iff four each
  | radius => exact radius_eq_iff

/-! ### Requests -/

/-- The values begin with a host, a port and a schema. -/
inductive HasHead : List Json → String → Nat → List (String × Json) → List Json → Prop where
  | head {host : String} {v : Json} {port : Nat} {members : List (String × Json)} {rest : List Json}
    (integer : IsInteger v port) (small : port ≤ 65535) :
    HasHead (.string host :: v :: .object members :: rest) host port members rest

/-- What a source of `total` points makes of the values of a request. -/
inductive Decodes (total : Nat) (values : List Json) : Except Refusal ReadRequest → Prop where
  | headless (headless : ∀ host port members rest, ¬HasHead values host port members rest) :
    Decodes total values (.error .hostPortRequired)
  | shapeless {host : String} {port : Nat} {members : List (String × Json)} {rest : List Json}
    (head : HasHead values host port members rest) (shapeless : ∀ shape, ¬IsShape rest shape) :
    Decodes total values (.error .unidentified)
  | refused {host : String} {port : Nat} {members : List (String × Json)} {rest : List Json} {shape : Shape}
    {refusal : Refusal} (head : HasHead values host port members rest) (shaped : IsShape rest shape)
    (verdict : Verdict total shape (.error refusal)) : Decodes total values (.error refusal)
  | accepted {host : String} {port : Nat} {members : List (String × Json)} {rest : List Json} {shape : Shape}
    {schema : Schema} {query : Query} (head : HasHead values host port members rest)
    (asked : IsSchema members schema) (shaped : IsShape rest shape) (verdict : Verdict total shape (.ok query)) :
    Decodes total values (.ok ⟨host, port, schema, query⟩)

theorem HasHead.mem_of_mem_rest {values : List Json} {host : String} {port : Nat} {members : List (String × Json)}
    {rest : List Json} (head : HasHead values host port members rest) {v : Json} (member : v ∈ rest) : v ∈ values := by
  cases head
  simp [member]

theorem split?_of_head {values : List Json} {host : String} {port : Nat} {members : List (String × Json)}
    {rest : List Json} (head : HasHead values host port members rest) :
    split? (values.map .value) = some (host, port, members, rest.map some) := by
  cases head with
  | head integer small =>
    have below : port < UInt16.size := Nat.lt_succ_of_le small
    simp [split?, Argument.value?, Function.comp_def, integer?_eq_some_iff.mpr integer, below]

theorem exists_head_of_split? {values : List Json} {host : String} {port : Nat} {members : List (String × Json)}
    {others : List (Option Json)} (cut : split? (values.map .value) = some (host, port, members, others)) :
    ∃ rest, others = rest.map some ∧ HasHead values host port members rest := by
  have given : (values.map .value).map Argument.value? = values.map some := by
    simp [Argument.value?, Function.comp_def]
  unfold split? at cut
  rw [given] at cut
  split at cut
  next host' v members' others' shown =>
    obtain ⟨first, values, rfl, first_eq, shown⟩ := List.map_eq_cons_iff.mp shown
    obtain ⟨second, values, rfl, second_eq, shown⟩ := List.map_eq_cons_iff.mp shown
    obtain ⟨third, rest, rfl, third_eq, rfl⟩ := List.map_eq_cons_iff.mp shown
    cases first_eq
    cases second_eq
    cases third_eq
    split at cut
    next port' integer =>
      split at cut
      next small =>
        cases cut
        exact ⟨rest, rfl, .head (integer?_eq_some_iff.mp integer) (Nat.le_of_lt_succ small)⟩
      next => cases cut
    next => cases cut
  next => cases cut

theorem decode_of_headless {total : Nat} {values : List Json}
    (headless : ∀ host port members rest, ¬HasHead values host port members rest) :
    decode total (values.map .value) = .error .hostPortRequired := by
  unfold decode
  split
  next host port members others cut =>
    obtain ⟨rest, -, head⟩ := exists_head_of_split? cut
    exact absurd head (headless host port members rest)
  next => rfl

theorem decode_of_head {total : Nat} {values : List Json} {host : String} {port : Nat}
    {members : List (String × Json)} {rest : List Json} (head : HasHead values host port members rest) :
    decode total (values.map .value)
      = (queryOf total (rest.map some)).map fun query => ⟨host, port, schemaOf members, query⟩ := by
  simp only [decode, split?_of_head head]

/-- Decoding accepts exactly the language of requests, carries of a request what it says, and answers every other
list of values with the refusal that the judgement gives. A schema that it carries has only supported fields. -/
theorem decode_judges_requests (total : Nat) {values : List Json} (well : ∀ v ∈ values, v.IsWellFormed) :
    (∀ r, decode total (values.map .value) = r ↔ Decodes total values r) ∧
    ∀ request, decode total (values.map .value) = .ok request → request.schema.IsSupported := by
  refine ⟨fun r => ⟨?_, ?_⟩, fun request => isSupported_of_decode⟩
  · rintro rfl
    by_cases headed : ∃ host port members rest, HasHead values host port members rest
    · obtain ⟨host, port, members, rest, head⟩ := headed
      rw [decode_of_head head]
      by_cases shaped : ∃ shape, IsShape rest shape
      · obtain ⟨shape, shaped⟩ := shaped
        have verdict : Verdict total shape _ :=
          (queryOf_eq_iff (fun v member => well v (head.mem_of_mem_rest member)) shaped).mp rfl
        cases asked : queryOf total (rest.map some) with
        | error refusal => exact .refused head shaped (asked ▸ verdict)
        | ok query => exact .accepted head (schemaOf_eq_iff.mp rfl) shaped (asked ▸ verdict)
      · rw [queryOf_of_shapeless (not_exists.mp shaped)]
        exact .shapeless head (not_exists.mp shaped)
    · rw [decode_of_headless fun host port members rest head => headed ⟨host, port, members, rest, head⟩]
      exact .headless fun host port members rest head => headed ⟨host, port, members, rest, head⟩
  · intro decodes
    cases decodes with
    | headless headless => exact decode_of_headless headless
    | shapeless head shapeless =>
      rw [decode_of_head head, queryOf_of_shapeless shapeless]
      rfl
    | refused head shaped verdict =>
      have asked := (queryOf_eq_iff (fun v member => well v (head.mem_of_mem_rest member)) shaped).mpr verdict
      rw [decode_of_head head, asked]
      rfl
    | accepted head schema shaped verdict =>
      have asked := (queryOf_eq_iff (fun v member => well v (head.mem_of_mem_rest member)) shaped).mpr verdict
      rw [decode_of_head head, asked, schemaOf_eq_iff.mpr schema]
      rfl

/-- A request for levels in a box with a corner too many, and with a schema whose second entry is dropped. -/
def levelsInBox : List Json :=
  [.string "consumer", .ofNat 7000,
    .object [("dimensions", .array
      [.object [("name", .string "X"), ("size", .string " 8 "), ("type", .string "Floating")],
        .object [("size", .ofNat 3), ("type", .string "signed")]])],
    .array [.ofNat 0, .ofNat 0, .ofNat 9, .ofNat 9, .null], .ofNat 0, .ofNat 3]

theorem levelsInBox_decodes :
    (∀ v ∈ levelsInBox, v.IsWellFormed) ∧
    Decodes 5 levelsInBox (.ok ⟨"consumer", 7000, ⟨[⟨"X", .floating, 8⟩]⟩,
      .quad (some ⟨.ofInt 0, .ofInt 0, .ofInt 9, .ofInt 9⟩) 0 3⟩) := by
  have well : ∀ v ∈ levelsInBox, v.IsWellFormed := by
    simp only [levelsInBox, List.forall_mem_cons, Json.isSound_null, Json.isSound_string, Json.isSound_array,
      Json.isSound_object, Json.isWellFormed_ofNat, List.not_mem_nil, false_implies, implies_true, and_true, true_and]
    decide +kernel
  refine ⟨well, ((decode_judges_requests 5 well).1 _).mp ?_⟩
  decide +kernel

end ReadRequest

end PointStream
