import PointStream.Proofs.Read.Spelling

/-!
# Callbacks among the values

The callback of a read is the last of its arguments and is taken off before the others are decoded. Another callback
among them stands for no value, so it completes no host, port or schema, and no shape of a query but one: where the
bounds of levels belong it is taken for bounds that are left out.
-/

namespace PointStream

theorem Argument.value?_eq_some_iff {a : Argument} {v : Json} : a.value? = some v ↔ a = .value v := by
  cases a <;> simp [value?]

theorem Argument.value?_eq_none_iff {a : Argument} : a.value? = none ↔ ∃ c, a = .callback c := by
  cases a <;> simp [value?]

namespace ReadRequest

/-- The arguments begin with the values of a host, a port and a schema. -/
inductive IsHeaded : List Argument → String → Nat → List (String × Json) → List Argument → Prop where
  | head {host : String} {v : Json} {port : Nat} {members : List (String × Json)} {rest : List Argument}
    (integer : IsInteger v port) (small : port ≤ 65535) :
    IsHeaded (.value (.string host) :: .value v :: .value (.object members) :: rest) host port members rest

/-- A host, a port and a schema are there. -/
def IsAddressed (positional : List Argument) : Prop :=
  ∃ host port members rest, IsHeaded positional host port members rest

/-- The arguments are those of a request for levels, save that a callback stands where the bounds belong. -/
inductive LacksBounds : List Argument → ReadRequest → Prop where
  | levels {positional : List Argument} {host : String} {port : Nat} {members : List (String × Json)} {c : Callback}
    {v w : Json} {schema : Schema} {depthBegin depthEnd : Nat}
    (head : IsHeaded positional host port members [.callback c, .value v, .value w]) (asked : IsSchema members schema)
    (first : IsInteger v depthBegin) (second : IsInteger w depthEnd) :
    LacksBounds positional ⟨host, port, schema, .quad none depthBegin depthEnd⟩

/-- What arguments with a callback among them are answered with. -/
inductive DecodesMisplaced (positional : List Argument) : Except Refusal ReadRequest → Prop where
  | headless (headless : ¬IsAddressed positional) : DecodesMisplaced positional (.error .hostPortRequired)
  | shapeless (addressed : IsAddressed positional) (shapeless : ∀ request, ¬LacksBounds positional request) :
    DecodesMisplaced positional (.error .unidentified)
  | levels {request : ReadRequest} (lacking : LacksBounds positional request) :
    DecodesMisplaced positional (.ok request)

variable {positional rest : List Argument} {host : String} {port : Nat}
  {members : List (String × Json)} {others : List (Option Json)} {c : Callback}

/-! ### Host, port and schema -/

theorem IsHeaded.split?_eq (head : IsHeaded positional host port members rest) :
    split? positional = some (host, port, members, rest.map Argument.value?) := by
  cases head with
  | head integer small =>
    have below : port < UInt16.size := Nat.lt_succ_of_le small
    simp only [split?, List.map_cons, Argument.value?, integer?_eq_some_iff.mpr integer, if_pos below]

theorem exists_isHeaded_of_split? (cut : split? positional = some (host, port, members, others)) :
    ∃ rest, others = rest.map Argument.value? ∧ IsHeaded positional host port members rest := by
  unfold split? at cut
  split at cut
  next host v members others shown =>
    obtain ⟨first, positional, rfl, is_host, shown⟩ := List.map_eq_cons_iff.mp shown
    obtain ⟨second, positional, rfl, is_port, shown⟩ := List.map_eq_cons_iff.mp shown
    obtain ⟨third, rest, rfl, is_schema, rfl⟩ := List.map_eq_cons_iff.mp shown
    rw [Argument.value?_eq_some_iff] at is_host is_port is_schema
    subst is_host is_port is_schema
    split at cut
    next number integer =>
      split at cut
      next small =>
        cases cut
        exact ⟨rest, rfl, .head (integer?_eq_some_iff.mp integer) (Nat.le_of_lt_succ small)⟩
      next => cases cut
    next => cases cut
  next => cases cut

theorem IsHeaded.decode_eq (head : IsHeaded positional host port members rest) (total : Nat) :
    decode total positional
      = (queryOf total (rest.map Argument.value?)).map fun query => ⟨host, port, schemaOf members, query⟩ := by
  simp only [decode, head.split?_eq]

/-- What is missing of the head is asked for first, whatever follows. -/
theorem decode_of_not_isAddressed (headless : ¬IsAddressed positional) (total : Nat) :
    decode total positional = .error .hostPortRequired := by
  unfold decode
  split
  next host port members others cut =>
    obtain ⟨rest, -, head⟩ := exists_isHeaded_of_split? cut
    exact absurd ⟨host, port, members, rest, head⟩ headless
  next => rfl

/-- A head is made of values, so a callback stands behind it. -/
theorem IsHeaded.mem_of_callback (head : IsHeaded positional host port members rest)
    (misplaced : .callback c ∈ positional) : .callback c ∈ rest := by
  cases head
  simpa using misplaced

/-! ### Queries -/

/-- When a value is missing, the only query there can be is one for levels, whose bounds are missing. -/
theorem queryOf_of_none (absent : none ∈ others) (total : Nat) :
    queryOf total others = .error .unidentified ∨
      ∃ v w depthBegin depthEnd, others = [none, some v, some w] ∧ IsInteger v depthBegin ∧ IsInteger w depthEnd ∧
        queryOf total others = .ok (.quad none depthBegin depthEnd) := by
  unfold queryOf
  split
  next start count => simp at absent
  next box v w =>
    obtain rfl : box = none := by simpa [eq_comm] using absent
    split
    next depthBegin depthEnd first second =>
      right
      exact ⟨v, w, depthBegin, depthEnd, rfl, integer?_eq_some_iff.mp first, integer?_eq_some_iff.mp second, rfl⟩
    next => exact .inl rfl
  next inSpace r x y z => simp at absent
  next => exact .inl rfl

theorem queryOf_of_callback (misplaced : .callback c ∈ rest) (total : Nat) :
    queryOf total (rest.map Argument.value?) = .error .unidentified ∨
      ∃ d v w depthBegin depthEnd, rest = [.callback d, .value v, .value w] ∧ IsInteger v depthBegin ∧
        IsInteger w depthEnd ∧ queryOf total (rest.map Argument.value?) = .ok (.quad none depthBegin depthEnd) := by
  have absent : none ∈ rest.map Argument.value? := List.mem_map.mpr ⟨_, misplaced, rfl⟩
  rcases queryOf_of_none absent total with refused | ⟨v, w, depthBegin, depthEnd, shown, first, second, asked⟩
  · exact .inl refused
  · right
    obtain ⟨box, rest, rfl, no_box, shown⟩ := List.map_eq_cons_iff.mp shown
    obtain ⟨begins, rest, rfl, is_begin, shown⟩ := List.map_eq_cons_iff.mp shown
    obtain ⟨ends, rest, rfl, is_end, shown⟩ := List.map_eq_cons_iff.mp shown
    obtain rfl : rest = [] := List.map_eq_nil_iff.mp shown
    obtain ⟨d, rfl⟩ := Argument.value?_eq_none_iff.mp no_box
    rw [Argument.value?_eq_some_iff] at is_begin is_end
    subst is_begin is_end
    exact ⟨d, v, w, depthBegin, depthEnd, rfl, first, second, asked⟩

/-! ### Requests -/

theorem LacksBounds.decode_eq {request : ReadRequest} (lacking : LacksBounds positional request) (total : Nat) :
    decode total positional = .ok request := by
  cases lacking with
  | levels head asked first second =>
    rw [head.decode_eq]
    simp only [List.map_cons, List.map_nil, queryOf_triple, Argument.value?, Option.bind_some,
      integer?_eq_some_iff.mpr first, integer?_eq_some_iff.mpr second, schemaOf_eq_iff.mpr asked]
    rfl

/-- The bounds that a callback takes the place of are read as if they were null. -/
theorem decode_of_callback_for_bounds (total : Nat) (host port schema : Argument) (c : Callback)
    (first last : Argument) :
    decode total [host, port, schema, .callback c, first, last]
      = decode total [host, port, schema, .value .null, first, last] := by
  have same_bounds (depthBegin depthEnd : Nat) :
      quadOf none depthBegin depthEnd = quadOf (some .null) depthBegin depthEnd := rfl
  simp only [ReadRequest.decode_eq, List.map_cons, List.map_nil, queryOf_triple, Argument.value?, same_bounds]

/-- Behind a head, a callback among the values leaves a request without bounds or none. -/
theorem IsHeaded.decode_of_callback (head : IsHeaded positional host port members rest)
    (misplaced : .callback c ∈ positional) (total : Nat) :
    decode total positional = .error .unidentified ∨
      ∃ request, LacksBounds positional request ∧ decode total positional = .ok request := by
  rw [head.decode_eq]
  rcases queryOf_of_callback (head.mem_of_callback misplaced) total with
    refused | ⟨d, v, w, depthBegin, depthEnd, rfl, first, second, asked⟩
  · rw [refused]
    exact .inl rfl
  · rw [asked]
    exact .inr ⟨_, .levels head (schemaOf_eq_iff.mp rfl) first second, rfl⟩

theorem decodesMisplaced_decode (misplaced : .callback c ∈ positional) (total : Nat) :
    DecodesMisplaced positional (decode total positional) := by
  by_cases addressed : IsAddressed positional
  · obtain ⟨host, port, members, rest, head⟩ := addressed
    rcases head.decode_of_callback misplaced total with refused | ⟨request, lacking, accepted⟩
    · rw [refused]
      apply DecodesMisplaced.shapeless ⟨host, port, members, rest, head⟩
      intro request lacking
      cases refused.symm.trans (lacking.decode_eq total)
    · rw [accepted]
      exact .levels lacking
  · rw [decode_of_not_isAddressed addressed]
    exact .headless addressed

/-- Arguments with a callback among them are refused, for the head if one of its values is missing and otherwise for the
shape, unless a callback stands for the bounds of levels and the other arguments are in order. Then they are taken for a
request without bounds, as they would be with a null instead of the callback. -/
theorem decode_misplaced_callback (total : Nat) (misplaced : .callback c ∈ positional) :
    (∀ r, decode total positional = r ↔ DecodesMisplaced positional r) ∧
    ∀ host port schema first last, positional = [host, port, schema, .callback c, first, last] →
      decode total positional = decode total [host, port, schema, .value .null, first, last] := by
  refine ⟨fun r => ⟨?_, ?_⟩, ?_⟩
  · rintro rfl
    exact decodesMisplaced_decode misplaced total
  · intro judged
    cases judged with
    | headless headless => exact decode_of_not_isAddressed headless total
    | shapeless addressed shapeless =>
      obtain ⟨host, port, members, rest, head⟩ := addressed
      rcases head.decode_of_callback misplaced total with refused | ⟨request, lacking, -⟩
      · exact refused
      · exact absurd lacking (shapeless request)
    | levels lacking => exact lacking.decode_eq total
  · rintro host port schema first last rfl
    exact decode_of_callback_for_bounds total host port schema c first last

/-- A callback in place of the count of a range. -/
def rangeToCallback : List Argument :=
  [.value (.string "h"), .value (.ofNat 9), .value (.object []), .value (.ofNat 0), .callback ⟨0, false⟩]

theorem rangeToCallback_refused :
    .callback ⟨0, false⟩ ∈ rangeToCallback ∧ decode 100 rangeToCallback = .error .unidentified := by
  have misplaced : .callback ⟨0, false⟩ ∈ rangeToCallback := by simp [rangeToCallback]
  refine ⟨misplaced, ((decode_misplaced_callback 100 misplaced).1 _).mpr (.shapeless ?_ ?_)⟩
  · exact ⟨"h", 9, [], _, .head (integer?_eq_some_iff.mp (by decide)) (by decide)⟩
  · intro request lacking
    cases lacking with
    | levels head => cases head

/-- A callback in place of the bounds of the two coarsest levels. -/
def levelsInCallback : List Argument :=
  [.value (.string "h"), .value (.ofNat 9), .value (.object []), .callback ⟨0, false⟩, .value (.ofNat 0),
    .value (.ofNat 2)]

/-- Not every callback among the values is refused. -/
theorem levelsInCallback_accepted : ¬∀ (total : Nat) (positional : List Argument) (c : Callback),
    .callback c ∈ positional → ∃ refusal, decode total positional = .error refusal := by
  intro refused
  have accepted : decode 100 levelsInCallback = .ok ⟨"h", 9, ⟨[]⟩, .quad none 0 2⟩ := by decide +kernel
  obtain ⟨refusal, decoded⟩ := refused 100 levelsInCallback ⟨0, false⟩ (by simp [levelsInCallback])
  cases accepted.symm.trans decoded

end ReadRequest

end PointStream
