import PointStream.Json.Reader
import PointStream.Proofs.Number.Decimal

/-!
# Well-formed values

What a reader gives is well-formed: its numbers are numbers, its negative integers are below zero, and the
members of its objects stand in the strict order of their names. A value that is put together from well-formed
ones by `ofMembers` is well-formed again.
-/

namespace PointStream.Json

/-- No NaN, and nothing but integers below zero in the class of the negative ones. -/
def Number.IsWellFormed : Number → Prop
  | .natural _ => True
  | .negative n => n.toInt < 0
  | .real x => x.isNaN = false

/-- Every number in a value is fine, and the members of every object stand in the strict order of their names. -/
inductive IsSound (fine : Number → Prop) : Json → Prop where
  | null : IsSound fine .null
  | bool (b : Bool) : IsSound fine (.bool b)
  | number {n : Number} (fits : fine n) : IsSound fine (.number n)
  | string (s : String) : IsSound fine (.string s)
  | array {items : List Json} (each : ∀ item ∈ items, IsSound fine item) : IsSound fine (.array items)
  | object {members : List (String × Json)} (sorted : members.Pairwise (·.1 < ·.1))
    (each : ∀ member ∈ members, IsSound fine member.2) : IsSound fine (.object members)

abbrev IsWellFormed : Json → Prop := IsSound Number.IsWellFormed

section

variable {fine : Number → Prop}

@[simp] theorem isSound_null : IsSound fine .null := .null

@[simp] theorem isSound_bool (b : Bool) : (bool b).IsSound fine := .bool b

@[simp] theorem isSound_string (s : String) : (string s).IsSound fine := .string s

@[simp] theorem isSound_number {n : Number} : (number n).IsSound fine ↔ fine n :=
  ⟨fun | .number fits => fits, .number⟩

@[simp] theorem isSound_array {items : List Json} : (array items).IsSound fine ↔ ∀ item ∈ items, item.IsSound fine :=
  ⟨fun | .array each => each, .array⟩

@[simp] theorem isSound_object {members : List (String × Json)} :
    (object members).IsSound fine ↔ members.Pairwise (·.1 < ·.1) ∧ ∀ member ∈ members, member.2.IsSound fine :=
  ⟨fun | .object sorted each => ⟨sorted, each⟩, fun sound => .object sound.1 sound.2⟩

end

@[simp] theorem isWellFormed_ofNat (n : Nat) : (ofNat n).IsWellFormed := .number trivial

theorem Number.isNaN_toBinary64 {n : Number} (well : n.IsWellFormed) : n.toBinary64.isNaN = false := by
  cases n with
  | natural n => exact Binary64.isNaN_ofInt _
  | negative n => exact Binary64.isNaN_ofInt _
  | real x => exact well

/-! ### Members in order -/

theorem keepLast_sublist (members : List (String × Json)) : (keepLast members).Sublist members := by
  fun_induction keepLast members with
  | case1 | case2 => exact .refl _
  | case3 first second rest same ih => exact .cons _ ih
  | case4 first second rest distinct ih => exact .cons_cons _ ih

theorem keepLast_sorted {members : List (String × Json)} (ordered : members.Pairwise (·.1 ≤ ·.1)) :
    (keepLast members).Pairwise (·.1 < ·.1) := by
  fun_induction keepLast members with
  | case1 => exact .nil
  | case2 member => exact List.pairwise_singleton _ _
  | case3 first second rest same ih => exact ih (List.pairwise_cons.mp ordered).2
  | case4 first second rest distinct ih =>
    obtain ⟨least, others⟩ := List.pairwise_cons.mp ordered
    refine List.pairwise_cons.mpr ⟨?_, ih others⟩
    intro member kept
    have next : first.1 < second.1 := by
      apply Std.lt_of_le_of_ne (least _ List.mem_cons_self) distinct
    rcases List.mem_cons.mp ((keepLast_sublist _).subset kept) with rfl | later
    · exact next
    · exact Std.lt_of_lt_of_le next ((List.pairwise_cons.mp others).1 _ later)

theorem keepLast_of_sorted {members : List (String × Json)} (sorted : members.Pairwise (·.1 < ·.1)) :
    keepLast members = members := by
  fun_induction keepLast members with
  | case1 | case2 => rfl
  | case3 first second rest same ih =>
    have below := (List.pairwise_cons.mp sorted).1 second List.mem_cons_self
    exact absurd (same ▸ below) (String.lt_irrefl _)
  | case4 first second rest distinct ih => rw [ih (List.pairwise_cons.mp sorted).2]

theorem ofMembers_of_sorted {members : List (String × Json)} (sorted : members.Pairwise (·.1 < ·.1)) :
    ofMembers members = .object members := by
  unfold ofMembers
  rw [List.mergeSort_of_pairwise, keepLast_of_sorted sorted]
  exact sorted.imp fun below => decide_eq_true (Std.le_of_lt below)

theorem keepLast_of_distinct {members : List (String × Json)} (distinct : (members.map Prod.fst).Nodup) :
    keepLast members = members := by
  fun_induction keepLast members with
  | case1 | case2 => rfl
  | case3 first second rest same ih => simp [same] at distinct
  | case4 first second rest apart ih => rw [ih (List.nodup_cons.mp distinct).2]

/-- Members of distinct names are all kept, in some order. -/
theorem exists_ofMembers {members : List (String × Json)} (distinct : (members.map Prod.fst).Nodup) :
    ∃ sorted, ofMembers members = .object sorted ∧ sorted.Perm members := by
  have sorted := List.mergeSort_perm members fun a b => decide (a.1 ≤ b.1)
  refine ⟨_, ?_, sorted⟩
  rw [ofMembers, keepLast_of_distinct]
  exact (sorted.map Prod.fst).nodup_iff.mpr distinct

theorem member?_of_mem {name : String} {v : Json} {members : List (String × Json)}
    (distinct : (members.map Prod.fst).Nodup) (listed : (name, v) ∈ members) : member? name members = some v := by
  induction members with
  | nil => cases listed
  | cons member members ih =>
    obtain ⟨apart, others⟩ := List.nodup_cons.mp distinct
    rw [member?]
    rcases List.mem_cons.mp listed with rfl | later
    · exact if_pos rfl
    · rw [if_neg, ih others later]
      intro same
      exact apart (same ▸ List.mem_map_of_mem later)

theorem isSound_ofMembers {fine : Number → Prop} {members : List (String × Json)}
    (each : ∀ member ∈ members, member.2.IsSound fine) : (ofMembers members).IsSound fine := by
  refine .object (keepLast_sorted ?_) ?_
  · have ordered : (members.mergeSort fun a b => decide (a.1 ≤ b.1)).Pairwise
        fun a b => decide (a.1 ≤ b.1) = true := by
      apply List.pairwise_mergeSort
      · intro a b c first second
        exact decide_eq_true (String.le_trans (of_decide_eq_true first) (of_decide_eq_true second))
      · intro a b
        simpa using String.le_total a.1 b.1
    exact ordered.imp of_decide_eq_true
  · intro member kept
    exact each member (List.mem_mergeSort.mp ((keepLast_sublist _).subset kept))

/-! ### Reading -/

theorem Literal.isWellFormed_of_toNumber? {l : Literal} {n : Number} (read : l.toNumber? = some n) :
    n.IsWellFormed := by
  unfold toNumber? at read
  split at read
  next magnitude _ =>
    split at read
    next => cases read; trivial
    next =>
      split at read
      next bounded =>
        cases read
        simp only [Number.IsWellFormed]
        rw [Int64.toInt_ofInt_of_le (by omega) (by omega)]
        omega
      next =>
        cases read
        exact (Binary64.isNaN_neg _).trans (Binary64.isNaN_ofInt _)
  next =>
    obtain ⟨x, decimal, rfl⟩ := Option.map_eq_some_iff.mp read
    exact Binary64.isNaN_of_ofDecimal decimal

namespace Tree

-- The induction follows the decoder, which collects items and members in reverse order before what is still to come.
mutual

theorem isWellFormed_of_decode? : ∀ {depth : Nat} {t : Tree} {v : Json},
    decode? depth t = some v → v.IsWellFormed
  | _, .null, _, read => by
    cases read
    exact .null
  | _, .bool b, _, read => by
    cases read
    exact .bool b
  | _, .number l, _, read => by
    obtain ⟨n, number, rfl⟩ := Option.map_eq_some_iff.mp read
    exact .number (Literal.isWellFormed_of_toNumber? number)
  | _, .text pieces, _, read => by
    obtain ⟨s, _, rfl⟩ := Option.map_eq_some_iff.mp read
    exact .string s
  | depth + 1, .array items, _, read => by
    obtain ⟨values, decoded, rfl⟩ := Option.map_eq_some_iff.mp read
    exact .array (isWellFormed_of_decodeItems (List.forall_mem_nil _) decoded)
  | depth + 1, .object members, _, read => by
    obtain ⟨values, decoded, rfl⟩ := Option.map_eq_some_iff.mp read
    exact isSound_ofMembers (isWellFormed_of_decodeMembers (List.forall_mem_nil _) decoded)

theorem isWellFormed_of_decodeItems : ∀ {depth : Nat} {trees : List Tree} {before values : List Json},
    (∀ v ∈ before, v.IsWellFormed) → decodeItems depth before trees = some values →
    ∀ v ∈ values, v.IsWellFormed
  | _, [], before, _, fine, read => by
    cases read
    exact fun v member => fine v (List.mem_reverse.mp member)
  | depth, t :: rest, before, values, fine, read => by
    unfold decodeItems at read
    split at read
    next v first =>
      exact isWellFormed_of_decodeItems (List.forall_mem_cons.mpr ⟨isWellFormed_of_decode? first, fine⟩) read
    next => cases read

theorem isWellFormed_of_decodeMembers : ∀ {depth : Nat} {trees : List (List Piece × Tree)}
    {before members : List (String × Json)}, (∀ member ∈ before, member.2.IsWellFormed) →
    decodeMembers depth before trees = some members → ∀ member ∈ members, member.2.IsWellFormed
  | _, [], before, _, fine, read => by
    cases read
    exact fun member listed => fine member (List.mem_reverse.mp listed)
  | depth, (name, t) :: rest, before, members, fine, read => by
    unfold decodeMembers at read
    split at read
    next decoded v _ first =>
      exact isWellFormed_of_decodeMembers (List.forall_mem_cons.mpr ⟨isWellFormed_of_decode? first, fine⟩) read
    next => cases read

end

end Tree

/-- Whatever is read is well-formed. -/
theorem isWellFormed_of_read? {depth : Nat} {glyphs : List Text.Glyph} {v : Json}
    (read : read? depth glyphs = some v) : v.IsWellFormed := by
  obtain ⟨t, _, decoded⟩ := Option.bind_eq_some_iff.mp read
  exact Tree.isWellFormed_of_decode? decoded

end PointStream.Json
