import Mathlib.Logic.Relation
import PointStream.Proofs.Json.WellFormed
import PointStream.Proofs.Number.Exact
import PointStream.Proofs.Read.Request

/-!
# Spellings of integers

A number is kept as a natural number, as a negative integer or as a binary64 number, according to how it was written.
Where a read takes an integer, only the exact value counts: two spellings of one value are the same integer or both
none, and a request is answered alike for both.
-/

namespace PointStream

/-! ### Values -/

/-- The exact value of a number; an infinity and what is no number have none. -/
def Json.Number.value? : Json.Number → Option ℚ
  | .natural n => some n.toNat
  | .negative n => some n.toInt
  | .real x => if x.isFinite then some x.value else none

theorem Json.Number.toInt?_eq_some_iff {number : Json.Number} {i : ℤ} :
    number.toInt? = some i ↔ number.value? = some (i : ℚ) := by
  cases number with
  | natural n =>
    simp only [toInt?, value?, Option.some.injEq]
    norm_cast
  | negative n =>
    simp only [toInt?, value?, Option.some.injEq]
    norm_cast
  | real x =>
    simp only [toInt?, value?, Binary64.toInt?_eq_some_iff]
    by_cases finite : x.isFinite = true
    · rw [if_pos finite, Option.some.injEq]
      exact and_iff_right finite
    · rw [if_neg finite]
      constructor
      · intro read
        exact absurd read.1 finite
      · intro none_valued
        cases none_valued

/-- A number is read as an integer exactly when that is its value and has 32 bits. -/
theorem ReadRequest.integer?_number_eq_some_iff {number : Json.Number} {n : ℕ} :
    integer? (.number number) = some n ↔ number.value? = some (n : ℚ) ∧ n < 2 ^ 32 := by
  have value_iff : number.toInt? = some (n : ℤ) ↔ number.value? = some (n : ℚ) :=
    number.toInt?_eq_some_iff.trans (by rw [Int.cast_natCast])
  rw [integer?_eq_some_iff, ← value_iff]
  constructor
  · rintro ⟨_, ⟨rfl⟩, value, small⟩
    exact ⟨value, small⟩
  · rintro ⟨value, small⟩
    exact ⟨number, rfl, value, small⟩

theorem Json.member?_append (name : String) (before after : List (String × Json)) :
    member? name (before ++ after) = (member? name before).or (member? name after) := by
  induction before with
  | nil => rfl
  | cons member before ih =>
    rw [List.cons_append, member?, member?, ih]
    split <;> rfl

/-! ### Reading by class -/

namespace ReadRequest

/-- Reads an integer by the class of the number: a natural number is compared as the word that it is, and a number of
another class as a binary64 number, which a negative integer is rounded to. -/
def integerByClass? : Json.Number → Option ℕ
  | .natural n => if n.toNat < UInt32.size then some n.toNat else none
  | number =>
    let x := number.toBinary64
    if x.isFinite && x.isIntegral && Binary64.zero.le x && x.le (.ofInt 0xFFFFFFFF) then
      some (x.clamp 0 0xFFFFFFFF).toNat
    else none

theorem integer?_real_of_not_finite {x : Binary64} (unbounded : x.isFinite = false) :
    integer? (.number (.real x)) = none := by
  have none_read : x.toInt? = none := by rw [Binary64.toInt?, unbounded, Bool.false_and, if_neg Bool.false_ne_true]
  simp only [integer?, Json.Number.toInt?, none_read]

/-- Of a binary64 number it is found whether it has a fraction, then whether it is in the range. -/
theorem integer?_real {x : Binary64} (finite : x.isFinite = true) :
    integer? (.number (.real x)) =
      if x.isIntegral ∧ 0 ≤ x.value ∧ x.value ≤ 0xFFFFFFFF then some x.truncate.toNat else none := by
  cases integral : x.isIntegral with
  | false =>
    have none_read : x.toInt? = none := by rw [Binary64.toInt?, integral, Bool.and_false, if_neg Bool.false_ne_true]
    simp [integer?, Json.Number.toInt?, none_read]
  | true =>
    obtain ⟨i, value⟩ := x.isIntegral_iff.mp integral
    have read : x.toInt? = some i := Binary64.toInt?_eq_some_iff.mpr ⟨finite, value⟩
    have whole : x.truncate = i := by rw [Binary64.truncate_eq, value, integerPart_intCast]
    have range : (0 ≤ x.value ∧ x.value ≤ 0xFFFFFFFF) ↔ 0 ≤ i ∧ i < UInt32.size := by
      rw [value]
      norm_cast
      exact and_congr_right fun _ => Int.lt_add_one_iff.symm
    simp only [integer?, Json.Number.toInt?, read, whole, range, true_and]

theorem integerByClass?_eq {number : Json.Number} (well : number.IsWellFormed) :
    integerByClass? number = integer? (.number number) := by
  cases number with
  | natural n =>
    have nonneg : (0 : ℤ) ≤ n.toNat := Int.natCast_nonneg _
    simp only [integerByClass?, integer?, Json.Number.toInt?, nonneg, true_and, Int.toNat_natCast, Nat.cast_lt]
  | negative n =>
    -- Rounding keeps a negative integer below zero.
    have key := Binary64.orderKey_ofInt_neg well
    have below : Binary64.zero.le (.ofInt n.toInt) = false := by
      have zero_key : Binary64.zero.orderKey = 0 := by decide
      simp [Binary64.le, zero_key, key]
    have negative : ¬(0 ≤ n.toInt ∧ n.toInt < UInt32.size) := fun range => absurd well (Int.not_lt.mpr range.1)
    simp only [integerByClass?, Json.Number.toBinary64, below, Bool.and_false, Bool.false_and, Bool.false_eq_true,
      if_false, integer?, Json.Number.toInt?, if_neg negative]
  | real x =>
    cases finite : x.isFinite with
    | false =>
      rw [integer?_real_of_not_finite finite]
      simp only [integerByClass?, Json.Number.toBinary64, finite, Bool.false_and, Bool.false_eq_true, if_false]
    | true =>
      have lower : Binary64.zero.le x = true ↔ 0 ≤ x.value := by
        rw [Binary64.le_iff (by decide) finite, Binary64.value_zero]
      have upper : x.le (.ofInt 0xFFFFFFFF) = true ↔ x.value ≤ 0xFFFFFFFF := by
        rw [Binary64.le_iff finite (by decide +kernel), Binary64.value_ofInt_greatest]
      rw [integer?_real finite]
      simp only [integerByClass?, Json.Number.toBinary64, finite, Bool.true_and, Bool.and_eq_true, lower, upper,
        and_assoc]
      split
      next read =>
        obtain ⟨integral, nonneg, small⟩ := read
        obtain ⟨i, value⟩ := x.isIntegral_iff.mp integral
        rw [value] at nonneg small
        have clamped : x.clamp 0 0xFFFFFFFF = i := by
          apply Binary64.clamp_of_value_eq finite value
          · exact_mod_cast nonneg
          · exact_mod_cast small
        rw [clamped, Binary64.truncate_eq, value, integerPart_intCast]
      next => rfl

/-! ### Respelled arguments -/

/-- Two numbers of the same value. -/
inductive SameNumber : Json → Json → Prop where
  | spelled {first second : Json.Number} {q : ℚ} (value : first.value? = some q) (same : second.value? = some q) :
    SameNumber (.number first) (.number second)

/-- The size of an entry of a schema is spelled in another way. -/
inductive EntryRespelled : Json → Json → Prop where
  | size {v w : Json} (same : SameNumber v w) (before after : List (String × Json)) :
    EntryRespelled (.object (before ++ ("size", v) :: after)) (.object (before ++ ("size", w) :: after))

/-- One entry of a schema is respelled. -/
inductive SchemaRespelled : List (String × Json) → List (String × Json) → Prop where
  | entry {e f : Json} (respelled : EntryRespelled e f) (earlier later : List Json)
    (before after : List (String × Json)) :
    SchemaRespelled (before ++ ("dimensions", .array (earlier ++ e :: later)) :: after)
      (before ++ ("dimensions", .array (earlier ++ f :: later)) :: after)

/-- One integer among the arguments of a read is spelled in another way: the port, the size of a dimension, the start or
the count of a range, or the first or the last level of the tree. -/
inductive Respelled : List Argument → List Argument → Prop where
  | port {v w : Json} (same : SameNumber v w) (host : Argument) (rest : List Argument) :
    Respelled (host :: .value v :: rest) (host :: .value w :: rest)
  | schema {s t : List (String × Json)} (respelled : SchemaRespelled s t) (host port : Argument)
    (rest : List Argument) :
    Respelled (host :: port :: .value (.object s) :: rest) (host :: port :: .value (.object t) :: rest)
  | start {v w : Json} (same : SameNumber v w) (host port schema count : Argument) :
    Respelled [host, port, schema, .value v, count] [host, port, schema, .value w, count]
  | count {v w : Json} (same : SameNumber v w) (host port schema start : Argument) :
    Respelled [host, port, schema, start, .value v] [host, port, schema, start, .value w]
  | depthBegin {v w : Json} (same : SameNumber v w) (host port schema box depthEnd : Argument) :
    Respelled [host, port, schema, box, .value v, depthEnd] [host, port, schema, box, .value w, depthEnd]
  | depthEnd {v w : Json} (same : SameNumber v w) (host port schema box depthBegin : Argument) :
    Respelled [host, port, schema, box, depthBegin, .value v] [host, port, schema, box, depthBegin, .value w]

theorem integer?_congr {v w : Json} (same : SameNumber v w) : integer? v = integer? w := by
  obtain ⟨value, same⟩ := same
  apply Option.ext
  intro n
  rw [integer?_number_eq_some_iff, integer?_number_eq_some_iff, value, same]

theorem size?_congr {v w : Json} (same : SameNumber v w) : size? v = size? w := by
  have integers := integer?_congr same
  cases same
  exact integers

theorem dimension?_congr {e f : Json} (respelled : EntryRespelled e f) : dimension? e = dimension? f := by
  obtain @⟨v, w, same, before, after⟩ := respelled
  have others (name : String) (other : name ≠ "size") :
      Json.member? name (before ++ ("size", v) :: after) = Json.member? name (before ++ ("size", w) :: after) := by
    rw [Json.member?_append, Json.member?_append, Json.member?, Json.member?, if_neg other.symm, if_neg other.symm]
  have sizes : Json.member? "size" (before ++ ("size", v) :: after) >>= size?
      = Json.member? "size" (before ++ ("size", w) :: after) >>= size? := by
    rw [Json.member?_append, Json.member?_append, Json.member?, Json.member?, if_pos rfl, if_pos rfl]
    -- A size that stands before the respelled one is found instead of it.
    cases Json.member? "size" before with
    | none => exact size?_congr same
    | some first => rfl
  simp only [dimension?, ← bind_assoc]
  rw [sizes, others "type" (by decide), others "name" (by decide)]

theorem schemaOf_congr {s t : List (String × Json)} (respelled : SchemaRespelled s t) : schemaOf s = schemaOf t := by
  obtain ⟨respelled, earlier, later, before, after⟩ := respelled
  have entries := dimension?_congr respelled
  unfold schemaOf entriesOf
  rw [Json.member?_append, Json.member?_append, Json.member?, Json.member?, if_pos rfl, if_pos rfl]
  cases Json.member? "dimensions" before with
  | none => simp [List.filterMap_append, List.filterMap_cons, entries]
  | some first => rfl

/-- Of the arguments of a range only the integers count. -/
theorem queryOf_pair (total : ℕ) (start count : Option Json) :
    queryOf total [start, count] =
      match start.bind integer?, count.bind integer? with
      | some start, some count => rangeOf start count total
      | _, _ => .error .unidentified := by
  -- A callback in one of the places is no integer.
  cases start with
  | none => cases count <;> simp [queryOf]
  | some start =>
    cases count with
    | none => simp [queryOf]
    | some count =>
      cases first : integer? start <;> cases second : integer? count <;> simp [queryOf, first, second]

theorem queryOf_triple (total : ℕ) (box depthBegin depthEnd : Option Json) :
    queryOf total [box, depthBegin, depthEnd] =
      match depthBegin.bind integer?, depthEnd.bind integer? with
      | some depthBegin, some depthEnd => quadOf box depthBegin depthEnd
      | _, _ => .error .unidentified := by
  cases depthBegin with
  | none => cases depthEnd <;> simp [queryOf]
  | some depthBegin =>
    cases depthEnd with
    | none => simp [queryOf]
    | some depthEnd =>
      cases first : integer? depthBegin <;> cases second : integer? depthEnd <;> simp [queryOf, first, second]

/-- A request depends on the port through the integer that it is, on the schema through the fields it asks for, and on
the arguments behind it through their query. -/
theorem decode_eq (total : ℕ) (host port schema : Argument) (rest : List Argument) :
    decode total (host :: port :: schema :: rest) =
      match host.value?, schema.value? with
      | some (.string host), some (.object members) =>
        match port.value?.bind integer? with
        | some port =>
          if port < UInt16.size then
            (queryOf total (rest.map Argument.value?)).map fun query => ⟨host, port, schemaOf members, query⟩
          else .error .hostPortRequired
        | none => .error .hostPortRequired
      | _, _ => .error .hostPortRequired := by
  unfold decode split?
  simp only [List.map_cons]
  -- The port is read only when a host stands before it and a schema behind it.
  cases host.value? with
  | none => rfl
  | some host =>
    cases host with
    | string host =>
      cases schema.value? with
      | none => cases port.value? <;> rfl
      | some schema =>
        cases schema with
        | object members =>
          cases port.value? with
          | none => rfl
          | some port =>
            dsimp only [Option.bind_some]
            cases integer? port with
            | none => rfl
            | some port => by_cases small : port < UInt16.size <;> simp [small]
        | _ => cases port.value? <;> rfl
    | _ => rfl

/-- A request is answered alike for both spellings of one integer. -/
theorem decode_of_respelled {given other : List Argument} (respelled : Respelled given other) (total : ℕ) :
    decode total given = decode total other := by
  cases respelled with
  | port same host rest =>
    have integers := integer?_congr same
    rcases rest with - | ⟨schema, rest⟩
    · -- Without a schema there is no request.
      cases host with
      | callback c => rfl
      | value host => cases host <;> rfl
    · rw [decode_eq, decode_eq, Argument.value?, Argument.value?, Option.bind_some, Option.bind_some, integers]
  | schema respelled host port rest =>
    have schemas := schemaOf_congr respelled
    rw [decode_eq, decode_eq]
    cases host with
    | callback c => rfl
    | value host =>
      -- Without a text for a host both are refused.
      cases host with
      | string host => simp only [Argument.value?, schemas]
      | _ => rfl
  | start same host port schema count =>
    simp only [decode_eq, List.map_cons, List.map_nil, queryOf_pair, Argument.value?, Option.bind_some,
      integer?_congr same]
  | count same host port schema start =>
    simp only [decode_eq, List.map_cons, List.map_nil, queryOf_pair, Argument.value?, Option.bind_some,
      integer?_congr same]
  | depthBegin same host port schema box depthEnd =>
    simp only [decode_eq, List.map_cons, List.map_nil, queryOf_triple, Argument.value?, Option.bind_some,
      integer?_congr same]
  | depthEnd same host port schema box depthBegin =>
    simp only [decode_eq, List.map_cons, List.map_nil, queryOf_triple, Argument.value?, Option.bind_some,
      integer?_congr same]

/-- Integers are read by their values: a number is taken for an integer exactly when that is its value and has 32 bits,
whatever class it is read in, and a request is decoded to the same result, or refused for the same reason, when its
integers are spelled in other ways. -/
theorem integers_read_by_value :
    (∀ (number : Json.Number) (n : ℕ),
      integer? (.number number) = some n ↔ number.value? = some (n : ℚ) ∧ n < 2 ^ 32) ∧
    (∀ number : Json.Number, number.IsWellFormed → integerByClass? number = integer? (.number number)) ∧
    ∀ (total : ℕ) (given other : List Argument), Relation.ReflTransGen Respelled given other →
      decode total given = decode total other := by
  refine ⟨fun number n => integer?_number_eq_some_iff, fun number well => integerByClass?_eq well, ?_⟩
  intro total given other respelled
  -- The integers are respelled one after the other.
  induction respelled with
  | refl => rfl
  | tail _ last ih => exact ih.trans (decode_of_respelled last total)

/-- Arguments that ask for the first axis of some points, by the size of its field, the start and the count. -/
def pointsOnAxis (size start count : Json.Number) : List Argument := [.value (.string "consumer"), .value (.ofNat 7000),
  .value (.object [("dimensions", .array
    [.object [("name", .string "X"), ("size", .number size), ("type", .string "floating")]])]),
  .value (.number start), .value (.number count)]

/-- Five points are asked for by numbers with a fraction of zero, a zero with a sign among them, and no point by a
negative number. -/
theorem pointsOnAxis_by_value :
    decode 6 (pointsOnAxis (.real ⟨0x4020000000000000⟩) (.real ⟨0x8000000000000000⟩) (.real ⟨0x4014000000000000⟩))
      = .ok ⟨"consumer", 7000, ⟨[⟨"X", .floating, 8⟩]⟩, .range 0 5⟩ ∧
    integerByClass? (.negative (-1)) = none := by
  obtain ⟨-, by_class, by_value⟩ := integers_read_by_value
  have same (i : ℤ) {first second : Json.Number} (value : first.toInt? = some i) (same : second.toInt? = some i) :
      SameNumber (.number first) (.number second) :=
    .spelled (Json.Number.toInt?_eq_some_iff.mp value) (Json.Number.toInt?_eq_some_iff.mp same)
  constructor
  · have plain : decode 6 (pointsOnAxis (.natural 8) (.natural 0) (.natural 5))
        = .ok ⟨"consumer", 7000, ⟨[⟨"X", .floating, 8⟩]⟩, .range 0 5⟩ := by decide +kernel
    rw [← plain]
    symm
    apply by_value
    have size : SameNumber (.number (.natural 8)) (.number (.real ⟨0x4020000000000000⟩)) :=
      same 8 (by decide +kernel) (by decide +kernel)
    have start : SameNumber (.number (.natural 0)) (.number (.real ⟨0x8000000000000000⟩)) :=
      same 0 (by decide +kernel) (by decide +kernel)
    have count : SameNumber (.number (.natural 5)) (.number (.real ⟨0x4014000000000000⟩)) :=
      same 5 (by decide +kernel) (by decide +kernel)
    apply Relation.ReflTransGen.tail _ (.count count _ _ _ _)
    apply Relation.ReflTransGen.tail _ (.start start _ _ _ _)
    exact .single (.schema (.entry (.size size [("name", _)] [("type", _)]) [] [] [] []) _ _ _)
  · have negative : (Json.Number.negative (-1)).IsWellFormed := Int.negSucc_lt_zero 0
    rw [by_class _ negative]
    decide

end ReadRequest

end PointStream
