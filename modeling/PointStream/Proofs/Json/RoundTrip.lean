import Mathlib.Data.List.TakeWhile
import PointStream.Proofs.Json.Scanning

/-!
# Reading what was written

Every value whose numbers are integers is read back from its text, with white space around it or without, by a
reader that allows for its nesting. A record is read as the object of its members, in whatever order they were
written.
-/

namespace PointStream.Json

open Text (Glyph)

/-! ### Numbers -/

namespace Literal

/-- The literal of an integer. -/
def ofInteger (negative : Bool) (n : Nat) : Literal :=
  ⟨negative, (Nat.toDigits 10 n).map digitValue, none, none⟩

theorem digitValue_digitChar {d : Nat} (digit : d < 10) : digitValue (Nat.digitChar d) = d := by
  rw [digitValue, Nat.toNat_digitChar_of_lt_ten digit]
  exact Nat.add_sub_cancel_left ..

/-- Only zero is written with a zero in front. -/
theorem eq_zero_of_head {n : Nat} (leading : (Nat.toDigits 10 n).head?.map digitValue = some 0) : n = 0 := by
  induction n using Nat.strongRecOn with
  | ind n ih =>
    rw [Nat.toDigits_eq_if (by decide)] at leading
    split at leading
    next small => simpa [digitValue_digitChar small] using leading
    next large =>
      obtain ⟨first, others, front⟩ := List.exists_cons_of_ne_nil (Nat.toDigits_ne_nil (n := n / 10) (b := 10))
      rw [front] at leading
      have zero := ih (n / 10) (by omega) (front ▸ leading)
      omega

theorem isDigit_of_mem {n : Nat} {c : Char} (member : c ∈ Nat.toDigits 10 n) : c.isDigit = true :=
  Nat.isDigit_of_mem_toDigits (by decide) (by decide) member

theorem whole?_digits (n : Nat) : whole? (Nat.toDigits 10 n) = some ((Nat.toDigits 10 n).map digitValue, []) := by
  have all : (Nat.toDigits 10 n).takeWhile Char.isDigit = Nat.toDigits 10 n :=
    List.takeWhile_eq_self_iff.mpr fun _ => isDigit_of_mem
  have nothing : (Nat.toDigits 10 n).dropWhile Char.isDigit = [] :=
    List.dropWhile_eq_nil_iff.mpr fun _ => isDigit_of_mem
  have digits : digits? (Nat.toDigits 10 n) = some ((Nat.toDigits 10 n).map digitValue, []) := by
    rw [digits?, all, nothing]
    split
    next empty => exact absurd empty Nat.toDigits_ne_nil
    next first others same => rw [same]
  have alone : ¬(((Nat.toDigits 10 n).map digitValue).head? = some 0 ∧
      ((Nat.toDigits 10 n).map digitValue).length ≠ 1) := by
    rintro ⟨leading, longer⟩
    rw [List.head?_map] at leading
    obtain rfl := eq_zero_of_head leading
    exact longer rfl
  simp only [whole?, digits, Option.bind_eq_bind, Option.bind_some, if_neg alone]

theorem ofChars?_negative (n : Nat) : ofChars? ('-' :: Nat.toDigits 10 n) = some (ofInteger true n) := by
  simp [ofChars?, whole?_digits, fraction?, exponent?, ofInteger]

theorem ofChars?_natural (n : Nat) : ofChars? (Nat.toDigits 10 n) = some (ofInteger false n) := by
  have no_sign (rest : List Char) : Nat.toDigits 10 n ≠ '-' :: rest := by
    intro signed
    have digit := isDigit_of_mem (n := n) (signed ▸ List.mem_cons_self)
    exact absurd digit (by decide)
  unfold ofChars?
  split
  next signed =>
    split at signed
    next rest digits => exact absurd digits (no_sign rest)
    next =>
      cases signed
      simp [whole?_digits, fraction?, exponent?, ofInteger]

/-- Below the limit, the limit does not matter. -/
theorem ofDigitsUpTo_digits {limit n : Nat} (small : n < limit) :
    ofDigitsUpTo limit ((Nat.toDigits 10 n).map digitValue) = n := by
  have limited (digits : List Char) (value : Nat) :
      (digits.map digitValue).foldl (fun n d => min limit (n * 10 + d)) (min limit value)
        = min limit (Nat.ofDigitChars 10 digits value) := by
    rw [Nat.ofDigitChars_eq_foldl]
    induction digits generalizing value with
    | nil => rfl
    | cons c digits ih =>
      have next : min limit (min limit value * 10 + digitValue c)
          = min limit (10 * value + (c.toNat - '0'.toNat)) := by
        rw [digitValue]
        omega
      rw [List.map_cons, List.foldl_cons, next, ih, List.foldl_cons]
  have whole := limited (Nat.toDigits 10 n) 0
  rw [Nat.ofDigitChars_toDigits (by decide) (by decide), Nat.min_eq_right (Nat.zero_le limit)] at whole
  exact whole.trans (Nat.min_eq_right (Nat.le_of_lt small))

theorem word?_ofInteger {negative : Bool} {n : Nat} (small : n < UInt64.size) :
    (ofInteger negative n).word? = some n := by
  simp [word?, ofInteger, ofDigitsUpTo_digits small, small]

theorem toNumber?_ofInteger (negative : Bool) {n : Nat} (small : n < UInt64.size) :
    (ofInteger negative n).toNumber?
      = if !negative then some (.natural (UInt64.ofNat n))
        else if 0 < n ∧ n ≤ 0x8000000000000000 then some (.negative (Int64.ofInt (-n)))
        else some (.real (Binary64.ofInt n).neg) := by
  rw [toNumber?, word?_ofInteger small]
  rfl

end Literal

/-- The literal that an integer is written as. -/
def Number.literal : Number → Literal
  | .natural n => .ofInteger false n.toNat
  | .negative n => .ofInteger true n.toInt.natAbs
  | .real _ => default

theorem Number.toNumber?_literal {n : Number} (exact_ : n.IsExact) : n.literal.toNumber? = some n := by
  cases n with
  | natural n => simp [literal, Literal.toNumber?_ofInteger false n.toNat_lt_size]
  | negative n =>
    have below : n.toInt < 0 := exact_.well
    have least := n.le_toInt
    have small : n.toInt.natAbs < UInt64.size := by unfold UInt64.size; omega
    have bounded : 0 < n.toInt.natAbs ∧ n.toInt.natAbs ≤ 0x8000000000000000 := by omega
    have value : (-(n.toInt.natAbs : Int)) = n.toInt := by omega
    rw [literal, Literal.toNumber?_ofInteger true small, if_neg (by decide), if_pos bounded, value, Int64.ofInt_toInt]
  | real x => exact absurd rfl (exact_.integer x)

theorem Number.ofWord?_render {n : Number} (exact_ : n.IsExact) :
    Tree.ofWord? n.render = some (.number n.literal) := by
  have not_word {word : List Char} (c : Char) (member : c ∈ word) (other : c.isDigit = false ∧ c ≠ '-') :
      n.render ≠ word := by
    rintro rfl
    rcases isDigit_of_mem_render exact_ member with digit | sign
    · simp [other.1] at digit
    · exact other.2 sign
  have read : Literal.ofChars? n.render = some n.literal := by
    cases n with
    | natural n => exact Literal.ofChars?_natural _
    | negative n =>
      rw [render, if_pos (show n.toInt < 0 from exact_.well)]
      exact Literal.ofChars?_negative _
    | real x => exact absurd rfl (exact_.integer x)
  rw [Tree.ofWord?, if_neg (not_word 'u' (by decide) (by decide)), if_neg (not_word 'u' (by decide) (by decide)),
    if_neg (not_word 'e' (by decide) (by decide)), read, Option.map_some]

/-! ### Trees -/

mutual

/-- The tree of the text of a value. -/
def treeOf : Json → Tree
  | .null => .null
  | .bool b => .bool b
  | .number n => .number n.literal
  | .string s => .text (piecesOf s)
  | .array items => .array (itemTrees items)
  | .object members => .object (memberTrees members)

def itemTrees : List Json → List Tree
  | [] => []
  | item :: rest => treeOf item :: itemTrees rest

def memberTrees : List (String × Json) → List (List Piece × Tree)
  | [] => []
  | (name, value) :: rest => (piecesOf name, treeOf value) :: memberTrees rest

end

namespace Tree

theorem parseFrom_cons {s s' : Expect × List Frame} {token : Token} (stepped : step s token = some s')
    (rest : List Token) : parseFrom s (token :: rest) = parseFrom s' rest := by
  rw [parseFrom, stepped]

/-- No value begins with the end of an array. -/
theorem parseFrom_firstItem (item : Json) (items : List Json) (stack : List Frame) (rest : List Token) :
    parseFrom (.firstItem, stack) (itemTokens (item :: items) ++ rest)
      = parseFrom (.value, .array [] :: stack) (itemTokens (item :: items) ++ rest) := by
  cases items <;> cases item <;> rfl

theorem parseFrom_firstMember (member : String × Json) (members : List (String × Json)) (stack : List Frame)
    (rest : List Token) :
    parseFrom (.firstMember, stack) (memberTokens (member :: members) ++ rest)
      = parseFrom (.nextMember [], stack) (memberTokens (member :: members) ++ rest) := by
  cases members <;> rfl

/-- The name of a member stands before its value until that is finished. -/
theorem parseFrom_name (name : String) (done : List (List Piece × Tree)) (stack : List Frame) (rest : List Token) :
    parseFrom (.nextMember done, stack) (.text (piecesOf name) :: .colon :: rest)
      = parseFrom (.value, .object done (piecesOf name) :: stack) rest := rfl

/-- An object is parsed as its members are, in whatever order they stand. -/
theorem parseFrom_braces {members : List (String × Json)} {stack : List Frame} {rest : List Token}
    (between : members ≠ [] → parseFrom (.nextMember [], stack) (memberTokens members ++ ([.closeBrace] ++ rest))
      = parseFrom (.finished (.object ([].reverse ++ memberTrees members)), stack) rest) :
    parseFrom (.value, stack) (tokensOf (.object members) ++ rest)
      = parseFrom (.finished (treeOf (.object members)), stack) rest := by
  cases members with
  | nil => rfl
  | cons member members =>
    have opened : step (.value, stack) .openBrace = some (.firstMember, stack) := rfl
    rw [tokensOf, List.cons_append, List.cons_append, parseFrom_cons opened, List.append_assoc, parseFrom_firstMember]
    exact between (List.cons_ne_nil _ _)

-- The induction is on the value. The frames of what stands around it are below it on the stack and stay as they are.
mutual

theorem parseFrom_value : ∀ (v : Json) (stack : List Frame) (rest : List Token), v.IsSound Number.IsExact →
    parseFrom (.value, stack) (tokensOf v ++ rest) = parseFrom (.finished (treeOf v), stack) rest
  | .null, _, _, _ => rfl
  | .bool true, _, _, _ | .bool false, _, _, _ => rfl
  | .number n, stack, rest, sound => by
    have exact_ : n.IsExact := isSound_number.mp sound
    have stepped : step (.value, stack) (.word n.render) = some (.finished (treeOf (.number n)), stack) := by
      simp [step, beginValue, Number.ofWord?_render exact_, treeOf]
    exact parseFrom_cons stepped rest
  | .string s, _, _, _ => rfl
  | .array [], _, _, _ => rfl
  | .array (item :: items), stack, rest, sound => by
    have opened : step (.value, stack) .openBracket = some (.firstItem, stack) := rfl
    rw [tokensOf, List.cons_append, List.cons_append, parseFrom_cons opened, List.append_assoc, parseFrom_firstItem]
    exact parseFrom_items (item :: items) [] stack rest nofun (isSound_array.mp sound)
  | .object members, stack, rest, sound =>
    parseFrom_braces fun some_member => parseFrom_members members [] stack rest some_member (isSound_object.mp sound).2

theorem parseFrom_items : ∀ (items : List Json) (done : List Tree) (stack : List Frame) (rest : List Token),
    items ≠ [] → (∀ v ∈ items, v.IsSound Number.IsExact) →
    parseFrom (.value, .array done :: stack) (itemTokens items ++ ([.closeBracket] ++ rest))
      = parseFrom (.finished (.array (done.reverse ++ itemTrees items)), stack) rest
  | [], _, _, _, nonempty, _ => absurd rfl nonempty
  | [item], done, stack, rest, _, sound => by
    have closed : step (.finished (treeOf item), .array done :: stack) .closeBracket
        = some (.finished (.array (treeOf item :: done).reverse), stack) := rfl
    rw [itemTokens, parseFrom_value item _ _ (sound item List.mem_cons_self), List.singleton_append,
      parseFrom_cons closed]
    simp [itemTrees]
  | item :: next :: items, done, stack, rest, _, sound => by
    obtain ⟨first, others⟩ := List.forall_mem_cons.mp sound
    have comma : step (.finished (treeOf item), .array done :: stack) .comma
        = some (.value, .array (treeOf item :: done) :: stack) := rfl
    rw [itemTokens, List.append_assoc, parseFrom_value item _ _ first, List.cons_append, parseFrom_cons comma,
      parseFrom_items (next :: items) _ stack rest nofun others]
    · simp [itemTrees]
    · nofun

theorem parseFrom_members : ∀ (members : List (String × Json)) (done : List (List Piece × Tree))
    (stack : List Frame) (rest : List Token), members ≠ [] → (∀ member ∈ members, member.2.IsSound Number.IsExact) →
    parseFrom (.nextMember done, stack) (memberTokens members ++ ([.closeBrace] ++ rest))
      = parseFrom (.finished (.object (done.reverse ++ memberTrees members)), stack) rest
  | [], _, _, _, nonempty, _ => absurd rfl nonempty
  | [(name, value)], done, stack, rest, _, sound => by
    have closed : step (.finished (treeOf value), .object done (piecesOf name) :: stack) .closeBrace
        = some (.finished (.object ((piecesOf name, treeOf value) :: done).reverse), stack) := rfl
    rw [memberTokens, List.cons_append, List.cons_append, parseFrom_name,
      parseFrom_value value _ _ (sound _ List.mem_cons_self), List.singleton_append, parseFrom_cons closed]
    simp [memberTrees]
  | (name, value) :: next :: members, done, stack, rest, _, sound => by
    obtain ⟨first, others⟩ := List.forall_mem_cons.mp sound
    have comma : step (.finished (treeOf value), .object done (piecesOf name) :: stack) .comma
        = some (.nextMember ((piecesOf name, treeOf value) :: done), stack) := rfl
    rw [memberTokens, List.append_assoc, List.cons_append, List.cons_append, parseFrom_name,
      parseFrom_value value _ _ first, List.cons_append, parseFrom_cons comma,
      parseFrom_members (next :: members) _ stack rest nofun others]
    · simp [memberTrees]
    · nofun

end

end Tree

/-! ### Values -/

/-- A unit that is no surrogate is a character by itself, whatever follows. -/
theorem decodePieces_unit {n : Nat} (single : n < 0xD800) (decoded : List Char) (rest : List Piece) :
    decodePieces decoded (.unit n :: rest) = decodePieces (Char.ofNat n :: decoded) rest := by
  have not_high : ¬(0xD800 ≤ n ∧ n < 0xDC00) := by omega
  have not_low : ¬(0xDC00 ≤ n ∧ n < 0xE000) := by omega
  have no_surrogate : ¬(0xD800 ≤ n ∧ n < 0xE000) := by omega
  match rest with
  | [] | .glyph g :: rest => simp [decodePieces, no_surrogate]
  | .unit low :: rest => rw [decodePieces, if_neg not_high, if_neg not_low]

theorem decodePieces_pieceOf (c : Char) (decoded : List Char) (rest : List Piece) :
    decodePieces decoded (pieceOf c :: rest) = decodePieces (c :: decoded) rest := by
  unfold pieceOf
  split
  next control =>
    rw [decodePieces_unit (by omega), Char.ofNat_toNat]
  next => rw [decodePieces]

/-- A string comes back character for character. -/
theorem textOf?_piecesOf (s : String) : textOf? (piecesOf s) = some s := by
  have all (cs : List Char) (decoded : List Char) :
      decodePieces decoded (cs.map pieceOf) = some (String.ofList (decoded.reverse ++ cs)) := by
    induction cs generalizing decoded with
    | nil => rw [List.map_nil, decodePieces, List.append_nil]
    | cons c cs ih =>
      rw [List.map_cons, decodePieces_pieceOf, ih]
      simp
  rw [textOf?, piecesOf, all]
  simp

mutual

/-- How many brackets are open at once inside a value. -/
def nesting : Json → Nat
  | .array items => itemNesting items + 1
  | .object members => memberNesting members + 1
  | _ => 0

def itemNesting : List Json → Nat
  | [] => 0
  | item :: rest => max (nesting item) (itemNesting rest)

def memberNesting : List (String × Json) → Nat
  | [] => 0
  | (_, value) :: rest => max (nesting value) (memberNesting rest)

end

mutual

theorem decode?_treeOf : ∀ (v : Json) {depth : Nat}, v.IsSound Number.IsExact → v.nesting ≤ depth →
    Tree.decode? depth (treeOf v) = some v
  | .null, _, _, _ | .bool _, _, _, _ => rfl
  | .number n, depth, sound, _ => by
    rw [treeOf, Tree.decode?, Number.toNumber?_literal (isSound_number.mp sound), Option.map_some]
  | .string s, depth, _, _ => by
    rw [treeOf, Tree.decode?, textOf?_piecesOf, Option.map_some]
  | .array items, depth, sound, within => by
    obtain ⟨depth, rfl⟩ := Nat.exists_eq_add_one_of_ne_zero (Nat.ne_of_gt (Nat.lt_of_lt_of_le (Nat.succ_pos _) within))
    rw [treeOf, Tree.decode?, decodeItems_trees items [] (isSound_array.mp sound) (Nat.le_of_succ_le_succ within)]
    rfl
  | .object members, depth, sound, within => by
    obtain ⟨depth, rfl⟩ := Nat.exists_eq_add_one_of_ne_zero (Nat.ne_of_gt (Nat.lt_of_lt_of_le (Nat.succ_pos _) within))
    obtain ⟨sorted, each⟩ := isSound_object.mp sound
    rw [treeOf, Tree.decode?, decodeMembers_trees members [] each (Nat.le_of_succ_le_succ within), Option.map_some,
      List.reverse_nil, List.nil_append, ofMembers_of_sorted sorted]

theorem decodeItems_trees : ∀ (items : List Json) {depth : Nat} (decoded : List Json),
    (∀ item ∈ items, item.IsSound Number.IsExact) → itemNesting items ≤ depth →
    Tree.decodeItems depth decoded (itemTrees items) = some (decoded.reverse ++ items)
  | [], _, decoded, _, _ => by rw [itemTrees, Tree.decodeItems, List.append_nil]
  | item :: items, depth, decoded, sound, within => by
    obtain ⟨first, others⟩ := List.forall_mem_cons.mp sound
    obtain ⟨first_within, others_within⟩ := Nat.max_le.mp within
    rw [itemTrees, Tree.decodeItems, decode?_treeOf item first first_within]
    dsimp only
    rw [decodeItems_trees items _ others others_within]
    simp

theorem decodeMembers_trees : ∀ (members : List (String × Json)) {depth : Nat} (decoded : List (String × Json)),
    (∀ member ∈ members, member.2.IsSound Number.IsExact) → memberNesting members ≤ depth →
    Tree.decodeMembers depth decoded (memberTrees members) = some (decoded.reverse ++ members)
  | [], _, decoded, _, _ => by rw [memberTrees, Tree.decodeMembers, List.append_nil]
  | (name, value) :: members, depth, decoded, sound, within => by
    obtain ⟨first, others⟩ := List.forall_mem_cons.mp sound
    obtain ⟨first_within, others_within⟩ := Nat.max_le.mp within
    rw [memberTrees, Tree.decodeMembers, textOf?_piecesOf, decode?_treeOf value first first_within]
    dsimp only
    rw [decodeMembers_trees members _ others others_within]
    simp

end

/-! ### Texts -/

/-- Nothing but white space. -/
def IsBlank (rest : List Glyph) : Prop := ∀ g ∈ rest, ∃ c, g = some c ∧ Token.isSpace c = true

theorem scanFrom_blank {rest : List Glyph} (blank : IsBlank rest) (tokens : List Token) :
    Token.scanFrom .between tokens rest = some tokens.reverse := by
  induction rest with
  | nil => rfl
  | cons g rest ih =>
    obtain ⟨⟨c, rfl, space⟩, others⟩ := List.forall_mem_cons.mp blank
    have stepped : Token.step .between (some c) = some (.between, []) := by
      simp [Token.step, space]
    rw [Token.scanFrom_cons stepped, List.nil_append, ih others]

theorem IsBlank.delimits {rest : List Glyph} (blank : IsBlank rest) : Token.Delimits rest := by
  cases rest with
  | nil => exact .ends
  | cons g rest =>
    obtain ⟨c, rfl, space⟩ := blank g List.mem_cons_self
    exact .space space rest

/-- What is scanned and parsed into a tree is read as the tree is decoded. -/
theorem read?_eq {v : Json} {rest : List Glyph}
    (scanned : Token.scanFrom .between [] (v.render.map some ++ rest)
      = Token.scanFrom .between (tokensOf v).reverse rest)
    (parsed : Tree.parseFrom (.value, []) (tokensOf v) = some (treeOf v)) (blank : IsBlank rest) (depth : Nat) :
    read? depth (v.render.map some ++ rest) = (treeOf v).decode? depth := by
  have tokens : Token.scan (v.render.map some ++ rest) = some (tokensOf v) := by
    rw [Token.scan, scanned, scanFrom_blank blank, List.reverse_reverse]
  simp only [read?, Tree.parse?, tokens, Option.bind_eq_bind, Option.bind_some, parsed]

/-- A value is read from its text. -/
theorem read?_render {v : Json} (sound : v.IsSound Number.IsExact) {depth : Nat} (within : v.nesting ≤ depth)
    {rest : List Glyph} (blank : IsBlank rest) : read? depth (v.render.map some ++ rest) = some v := by
  have scanned := Token.scanFrom_render v [] sound blank.delimits
  have parsed := Tree.parseFrom_value v [] [] sound
  rw [List.append_nil] at scanned parsed
  rw [read?_eq scanned parsed blank, decode?_treeOf v sound within]

/-- A record is read as the object of its members, in whatever order they were written. -/
theorem read?_recordText {members : List (String × Json)} (sound : ∀ member ∈ members, member.2.IsSound Number.IsExact)
    {depth : Nat} (within : memberNesting members ≤ depth) {rest : List Glyph} (blank : IsBlank rest) :
    read? (depth + 1) ((recordText members).toList.map some ++ rest) = some (ofMembers members) := by
  have text : (recordText members).toList = render (.object members) := by
    rw [recordText, String.toList_ofList, render]
  have scanned := Token.scanFrom_braces (Token.scanFrom_renderMembers members [.openBrace] sound
    (.punctuation (c := '}') rfl rest))
  have parsed := Tree.parseFrom_braces fun some_member => Tree.parseFrom_members members [] [] [] some_member sound
  rw [List.append_nil] at scanned parsed
  rw [text, read?_eq scanned parsed blank, treeOf, Tree.decode?, decodeMembers_trees members [] sound within]
  rfl

end PointStream.Json
