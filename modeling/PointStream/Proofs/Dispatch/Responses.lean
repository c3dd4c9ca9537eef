import PointStream.Proofs.Json.RoundTrip
import PointStream.Proofs.Text.Utf8

/-!
# Reading messages

A client reads each line as one object, whose members are the kind of the message and its fields, and with these it
knows the message: every string character by character, every count of 64 bits, and every schema in which numbers
are integers.
-/

namespace PointStream.Message

/-- The members of the object that a message is written as. -/
def members (m : Message) : List (String × Json) := ("kind", .string m.kind) :: m.fields

/-- How many brackets are open at once in the text of a message. -/
def nesting (m : Message) : Nat := Json.memberNesting m.members + 1

/-- What a message says is written without loss: counts have 64 bits, and a schema holds no number but integers. -/
def IsExact : Message → Prop
  | numPoints value => value < UInt64.size
  | accepted points bytes => points < UInt64.size ∧ bytes < UInt64.size
  | schema v => v.IsSound Json.Number.IsExact
  | _ => True

theorem distinct_members (m : Message) : (m.members.map Prod.fst).Nodup := by
  cases m <;> simp [members, fields]

theorem isSound_of_mem {m : Message} (exact_ : m.IsExact) :
    ∀ member ∈ m.members, member.2.IsSound Json.Number.IsExact := by
  have count (n : Nat) : (Json.ofNat n).IsSound Json.Number.IsExact := .number ⟨trivial, nofun⟩
  cases m with
  | created e | parsed e => cases e <;> simp [members, fields]
  | numPoints value => simp [members, fields, count]
  | accepted points bytes => simp [members, fields, count]
  | schema v =>
    have sound : v.IsSound Json.Number.IsExact := exact_
    simpa [members, fields] using sound
  | destroyed | rejected | cancelled | error => simp [members, fields]

/-! ### What a client makes of a line -/

/-- The reason of an outcome, null when there is none. -/
def reasonOf? (members : List (String × Json)) : Option (Option String) :=
  match Json.member? "error" members with
  | some .null => some none
  | some (.string reason) => some (some reason)
  | _ => none

def count? (name : String) (members : List (String × Json)) : Option Nat :=
  match Json.member? name members with
  | some (.number (.natural n)) => some n.toNat
  | _ => none

def text? (name : String) (members : List (String × Json)) : Option String :=
  match Json.member? name members with
  | some (.string s) => some s
  | _ => none

/-- The message that the members of an object make up. -/
def ofMembers? (members : List (String × Json)) : Option Message :=
  match text? "kind" members with
  | some "created" => (reasonOf? members).map .created
  | some "parsed" => (reasonOf? members).map .parsed
  | some "destroyed" => some .destroyed
  | some "num_points" => (count? "value" members).map .numPoints
  | some "schema" => (Json.member? "schema" members).map .schema
  | some "accepted" => do return .accepted (← count? "num_points" members) (← count? "num_bytes" members)
  | some "rejected" => (text? "error" members).map .rejected
  | some "cancelled" =>
    match Json.member? "cancelled" members with
    | some (.bool found) => some (.cancelled found)
    | _ => none
  | some "error" => (text? "message" members).map .error
  | _ => none

/-- The message of a line, for a client that reads values of some depth. -/
def ofLine? (depth : Nat) (line : List UInt8) : Option Message :=
  match Json.read? depth (Text.Utf8.decode line) with
  | some (.object members) => ofMembers? members
  | _ => none

/-- The members tell the message, in whatever order they stand. -/
theorem ofMembers?_of_perm {m : Message} (exact_ : m.IsExact) {sorted : List (String × Json)}
    (perm : sorted.Perm m.members) : ofMembers? sorted = some m := by
  have found (name : String) (v : Json) (listed : (name, v) ∈ m.members) : Json.member? name sorted = some v :=
    Json.member?_of_mem ((perm.map Prod.fst).nodup_iff.mpr m.distinct_members) (perm.mem_iff.mpr listed)
  have kind : text? "kind" sorted = some m.kind := by
    rw [text?, found "kind" _ List.mem_cons_self]
  unfold ofMembers?
  rw [kind]
  cases m with
  | created e | parsed e =>
    have reason := found "error" (e.elim .null .string) (by simp [members, fields])
    cases e <;> simp [Message.kind, reasonOf?, reason]
  | destroyed => rfl
  | numPoints value =>
    have count := found "value" (.ofNat value) (by simp [members, fields])
    have size : (UInt64.ofNat value).toNat = value := UInt64.toNat_ofNat_of_lt' exact_
    simp [Message.kind, count?, count, Json.ofNat, size]
  | schema v =>
    have value := found "schema" v (by simp [members, fields])
    simp [Message.kind, value]
  | accepted points bytes =>
    have first := found "num_points" (.ofNat points) (by simp [members, fields])
    have second := found "num_bytes" (.ofNat bytes) (by simp [members, fields])
    have points_size : (UInt64.ofNat points).toNat = points := UInt64.toNat_ofNat_of_lt' exact_.1
    have bytes_size : (UInt64.ofNat bytes).toNat = bytes := UInt64.toNat_ofNat_of_lt' exact_.2
    simp [Message.kind, count?, first, second, Json.ofNat, points_size, bytes_size]
  | rejected e =>
    have reason := found "error" (.string e) (by simp [members, fields])
    simp [Message.kind, text?, reason]
  | cancelled any =>
    have value := found "cancelled" (.bool any) (by simp [members, fields])
    simp [Message.kind, value]
  | error message =>
    have value := found "message" (.string message) (by simp [members, fields])
    simp [Message.kind, text?, value]

/-- The text of a message is read as an object of exactly its members, with the line feed behind it or without. -/
theorem read_text {m : Message} (exact_ : m.IsExact) {depth : Nat} (deep : m.nesting ≤ depth) {rest : List UInt8}
    (blank : rest = [] ∨ rest = [lineFeed]) :
    ∃ sorted, Json.read? depth (Text.Utf8.decode (Text.Utf8.encode m.text ++ rest)) = some (.object sorted) ∧
      sorted.Perm m.members := by
  obtain ⟨depth, rfl⟩ : ∃ d, depth = d + 1 := Nat.exists_eq_add_of_le' (Nat.le_trans (Nat.succ_pos _) deep)
  obtain ⟨sorted, object, perm⟩ := Json.exists_ofMembers m.distinct_members
  have space : Json.IsBlank (Text.Utf8.decode rest) := by
    rcases blank with rfl | rfl
    · exact nofun
    · intro g member
      obtain rfl : g = some '\n' := List.mem_singleton.mp member
      exact ⟨_, rfl, rfl⟩
  have read := Json.read?_recordText (isSound_of_mem exact_) (Nat.le_of_succ_le_succ deep) space
  refine ⟨sorted, ?_, perm⟩
  rw [Text.Utf8.decode_encode_append]
  exact read.trans (congrArg some object)

/-- A client knows the message from its line. -/
theorem ofLine?_wire {m : Message} (exact_ : m.IsExact) {depth : Nat} (deep : m.nesting ≤ depth) :
    ofLine? depth m.wire = some m := by
  obtain ⟨sorted, read, perm⟩ := read_text exact_ deep (.inr rfl)
  rw [ofLine?, wire, read]
  exact ofMembers?_of_perm exact_ perm

end PointStream.Message
