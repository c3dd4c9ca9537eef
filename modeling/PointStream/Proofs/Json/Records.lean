import PointStream.Proofs.Json.RoundTrip
import PointStream.Proofs.Text.Parts

/-!
# Reading records that were written

A record that is written as an object is read field by field, whatever the order of its members: a string as the text
it is, a natural number as itself, an array item by item. The tree of a value needs no more depth than its deepest
member.
-/

namespace PointStream.Json

open Text (Glyph)

variable {members : List (String × Json)} {items : List Json}

/-! ### Trees -/

/-- The tree of a value is read from its text. -/
theorem Tree.parse?_render {v : Json} (sound : v.IsSound Number.IsExact) {rest : List Glyph} (blank : IsBlank rest) :
    Tree.parse? (v.render.map some ++ rest) = some (treeOf v) := by
  have scanned := Token.scanFrom_render v [] sound blank.delimits
  have parsed := Tree.parseFrom_value v [] [] sound
  rw [List.append_nil] at scanned parsed
  have tokens : Token.scan (v.render.map some ++ rest) = some (tokensOf v) := by
    rw [Token.scan, scanned, scanFrom_blank blank, List.reverse_reverse]
  rw [Tree.parse?, tokens, Option.bind_eq_bind, Option.bind_some, parsed]
  rfl

theorem Tree.ofString?_toText {v : Json} (sound : v.IsSound Number.IsExact) :
    Tree.ofString? v.toText = some (treeOf v) := by
  have parsed := @Tree.parse?_render v sound [] nofun
  rwa [List.append_nil, ← String.toList_ofList (l := v.render)] at parsed

theorem ofString?_toText {v : Json} (sound : v.IsSound Number.IsExact) (within : v.nesting ≤ nestingLimit) :
    ofString? v.toText = some v := by
  have read := @read?_render v sound nestingLimit within [] nofun
  rwa [List.append_nil, ← String.toList_ofList (l := v.render)] at read

theorem itemTrees_eq_map (items : List Json) : itemTrees items = items.map treeOf := by
  induction items with
  | nil => rfl
  | cons item items ih => rw [itemTrees, ih, List.map_cons]

theorem memberTrees_eq_map (members : List (String × Json)) :
    memberTrees members = members.map fun member => (piecesOf member.1, treeOf member.2) := by
  induction members with
  | nil => rfl
  | cons member members ih => rw [memberTrees, ih, List.map_cons]

/-! ### Nesting -/

theorem itemNesting_le_iff {depth : Nat} : itemNesting items ≤ depth ↔ ∀ item ∈ items, item.nesting ≤ depth := by
  induction items with
  | nil => simp [itemNesting]
  | cons item items ih => rw [itemNesting, Nat.max_le, ih, List.forall_mem_cons]

theorem memberNesting_le_iff {depth : Nat} :
    memberNesting members ≤ depth ↔ ∀ member ∈ members, member.2.nesting ≤ depth := by
  induction members with
  | nil => simp [memberNesting]
  | cons member members ih => rw [memberNesting, Nat.max_le, ih, List.forall_mem_cons]

theorem nesting_ofMembers_le {depth : Nat} (each : ∀ member ∈ members, member.2.nesting ≤ depth) :
    (ofMembers members).nesting ≤ depth + 1 := by
  rw [ofMembers, nesting]
  apply Nat.succ_le_succ
  apply memberNesting_le_iff.mpr
  intro member kept
  exact each member (List.mem_mergeSort.mp ((keepLast_sublist _).subset kept))

/-! ### Fields -/

theorem mem_of_member? {name : String} {v : Json} (found : member? name members = some v) : (name, v) ∈ members := by
  induction members with
  | nil => cases found
  | cons member members ih =>
    rw [member?] at found
    split at found
    next same =>
      cases found
      exact same ▸ List.mem_cons_self
    next => exact List.mem_cons_of_mem _ (ih found)

/-- Members of distinct names are found by name in any order. -/
theorem member?_of_perm {sorted : List (String × Json)} (perm : sorted.Perm members)
    (distinct : (members.map Prod.fst).Nodup) (name : String) : member? name sorted = member? name members := by
  have distinct_sorted : (sorted.map Prod.fst).Nodup := (perm.map Prod.fst).nodup_iff.mpr distinct
  apply Option.ext
  intro v
  constructor
  · intro found
    exact member?_of_mem distinct (perm.mem_iff.mp (mem_of_member? found))
  · intro found
    exact member?_of_mem distinct_sorted (perm.mem_iff.mpr (mem_of_member? found))

/-- Of members of distinct names at most one has a name. -/
theorem filter_name (distinct : (members.map Prod.fst).Nodup) (name : String) :
    (members.map fun member => (member.1, treeOf member.2)).filter (·.1 == name)
      = ((member? name members).map fun v => (name, treeOf v)).toList := by
  induction members with
  | nil => rfl
  | cons member members ih =>
    obtain ⟨apart, others⟩ := List.nodup_cons.mp distinct
    rw [List.map_cons, List.filter_cons, ih others, member?]
    by_cases same : member.1 = name
    · -- No later member has the name of this one.
      have alone : member? name members = none := by
        apply Option.eq_none_iff_forall_ne_some.mpr
        intro v found
        exact apart (same ▸ List.mem_map_of_mem (mem_of_member? found))
      rw [if_pos same, alone]
      simp [same]
    · rw [if_neg same]
      simp [same]

theorem fields?_object (distinct : (members.map Prod.fst).Nodup) (names : List String) :
    (treeOf (.object members)).fields? names = some (names.map fun name => (member? name members).map treeOf) := by
  rw [treeOf, Tree.fields?, memberTrees_eq_map, List.mapM_map,
    mapM_of_each (fun member : String × Json => (member.1, treeOf member.2))]
  · -- By name, which no two members share.
    rw [Option.bind_eq_bind, Option.bind_some]
    apply mapM_of_each
    intro name _
    rw [filter_name distinct]
    cases member? name members <;> rfl
  · intro member _
    rw [Function.comp_apply]
    dsimp only
    rw [textOf?_piecesOf, Option.map_some]

/-- A record is read field by field, in whatever order its members were put together. -/
theorem fields?_ofMembers (distinct : (members.map Prod.fst).Nodup) (names : List String) :
    (treeOf (ofMembers members)).fields? names
      = some (names.map fun name => (member? name members).map treeOf) := by
  obtain ⟨sorted, object, perm⟩ := exists_ofMembers distinct
  have distinct_sorted : (sorted.map Prod.fst).Nodup := (perm.map Prod.fst).nodup_iff.mpr distinct
  rw [object, fields?_object distinct_sorted]
  simp only [member?_of_perm perm distinct]

@[simp] theorem text?_string (s : String) : (treeOf (.string s)).text? = some s := textOf?_piecesOf s

@[simp] theorem variant?_string (s : String) (depth : Nat) : (treeOf (.string s)).variant? depth = some s :=
  textOf?_piecesOf s

theorem natural?_ofNat {n limit : Nat} (small : n < limit) (word : n < UInt64.size) :
    (treeOf (ofNat n)).natural? limit = some n := by
  have size : (UInt64.ofNat n).toNat = n := UInt64.toNat_ofNat_of_lt' word
  have number : (Number.natural (UInt64.ofNat n)).literal.toNumber? = some (.natural (UInt64.ofNat n)) :=
    Number.toNumber?_literal ⟨trivial, nofun⟩
  rw [ofNat, treeOf, Tree.natural?, number]
  dsimp only
  rw [size, if_pos small]

/-- What is written as an array is read item by item. -/
theorem items?_array {α : Type} {read : Nat → Tree → Option α} {write : α → Json} {as : List α} {depth : Nat}
    (open_ : depth ≠ 0) (each : ∀ a ∈ as, read (depth - 1) (treeOf (write a)) = some a) :
    (treeOf (.array (as.map write))).items? read depth = some as := by
  rw [treeOf, Tree.items?, if_neg open_, itemTrees_eq_map, List.map_map, List.mapM_map]
  have same := mapM_of_each id each
  rwa [List.map_id] at same

end PointStream.Json
