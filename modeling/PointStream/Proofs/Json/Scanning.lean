import PointStream.Proofs.Json.WellFormed
import PointStream.Json.Printer

/-!
# Scanning what was written

The text of a value is cut into the tokens that the value is made of, whatever follows the text, as long as a number
cannot go on there. Strings come back in pieces: a control character without an escape of its own as its unit, every
other character as it is.
-/

namespace PointStream.Json

open Text (Glyph)

/-- A number that is written and read without loss: an integer. -/
structure Number.IsExact (n : Number) : Prop where
  well : n.IsWellFormed
  integer : ∀ x, n ≠ .real x

/-- The piece of a string literal that a character is written as. -/
def pieceOf (c : Char) : Piece :=
  if c.toNat < 0x20 ∧ c ∉ ['\x08', '\x0c', '\n', '\r', '\t'] then .unit c.toNat else .glyph (some c)

def piecesOf (s : String) : List Piece := s.toList.map pieceOf

mutual

/-- The tokens of the text of a value. -/
def tokensOf : Json → List Token
  | .string s => [.text (piecesOf s)]
  | .array items => .openBracket :: itemTokens items ++ [.closeBracket]
  | .object members => .openBrace :: memberTokens members ++ [.closeBrace]
  | v => [.word v.render]

def itemTokens : List Json → List Token
  | [] => []
  | [item] => tokensOf item
  | item :: rest => tokensOf item ++ .comma :: itemTokens rest

def memberTokens : List (String × Json) → List Token
  | [] => []
  | [(name, value)] => .text (piecesOf name) :: .colon :: tokensOf value
  | (name, value) :: rest => .text (piecesOf name) :: .colon :: tokensOf value ++ .comma :: memberTokens rest

end

namespace Token

theorem scanFrom_cons {s s' : Scan} {g : Glyph} {new : List Token} (stepped : step s g = some (s', new))
    (tokens : List Token) (rest : List Glyph) :
    scanFrom s tokens (g :: rest) = scanFrom s' (new ++ tokens) rest := by
  rw [scanFrom, stepped]

/-! ### Strings -/

theorem hexValue?_hexDigit {n : Nat} (hex : n < 16) : hexValue? (hexDigit n) = some n := by
  revert n
  decide

theorem scanFrom_escapeChar (c : Char) (pieces : List Piece) (tokens : List Token) (rest : List Glyph) :
    scanFrom (.text pieces) tokens ((escapeChar c).map some ++ rest)
      = scanFrom (.text (pieceOf c :: pieces)) tokens rest := by
  unfold escapeChar
  -- Seven characters have escapes of two characters, the other control characters are written by their number.
  iterate 7
    split
    next same =>
      subst same
      rfl
  split
  next control =>
    have high := hexValue?_hexDigit (n := c.toNat / 16) (by omega)
    have low := hexValue?_hexDigit (n := c.toNat % 16) (by omega)
    have piece : pieceOf c = .unit ((0 * 16 + c.toNat / 16) * 16 + c.toNat % 16) := by
      have value : (0 * 16 + c.toNat / 16) * 16 + c.toNat % 16 = c.toNat := by omega
      rw [value]
      simp [pieceOf, *]
    have third : step (.unit pieces 2 0) (some (hexDigit (c.toNat / 16)))
        = some (.unit pieces 1 (0 * 16 + c.toNat / 16), []) := by
      simp [step, high]
    have fourth : step (.unit pieces 1 (0 * 16 + c.toNat / 16)) (some (hexDigit (c.toNat % 16)))
        = some (.text (pieceOf c :: pieces), []) := by
      simp [step, low, piece]
    have opened : step (.text pieces) (some '\\') = some (.escape pieces, []) := rfl
    have named : step (.escape pieces) (some 'u') = some (.unit pieces 4 0, []) := rfl
    have first : step (.unit pieces 4 0) (some '0') = some (.unit pieces 3 0, []) := rfl
    have second : step (.unit pieces 3 0) (some '0') = some (.unit pieces 2 0, []) := rfl
    simp only [List.map_cons, List.map_nil, List.cons_append, List.nil_append]
    rw [scanFrom_cons opened, scanFrom_cons named, scanFrom_cons first, scanFrom_cons second, scanFrom_cons third,
      scanFrom_cons fourth]
    rfl
  next printed =>
    have piece : pieceOf c = .glyph (some c) := by
      simp [pieceOf, printed]
    have stepped : step (.text pieces) (some c) = some (.text (pieceOf c :: pieces), []) := by
      simp [step, *]
    exact scanFrom_cons stepped tokens rest

theorem scanFrom_escaped (cs : List Char) (pieces : List Piece) (tokens : List Token) (rest : List Glyph) :
    scanFrom (.text pieces) tokens ((cs.flatMap escapeChar).map some ++ rest)
      = scanFrom (.text ((cs.map pieceOf).reverse ++ pieces)) tokens rest := by
  induction cs generalizing pieces with
  | nil => rfl
  | cons c cs ih =>
    rw [List.flatMap_cons, List.map_append, List.append_assoc, scanFrom_escapeChar, ih]
    simp

theorem scanFrom_quote (s : String) (tokens : List Token) (rest : List Glyph) :
    scanFrom .between tokens ((quote s).map some ++ rest) = scanFrom .between (.text (piecesOf s) :: tokens) rest := by
  have opened : step .between (some '"') = some (.text [], []) := rfl
  have closed (pieces : List Piece) : step (.text pieces) (some '"') = some (.between, [.text pieces.reverse]) := rfl
  rw [quote, List.cons_append, List.map_cons, List.cons_append, scanFrom_cons opened, List.map_append,
    List.append_assoc, scanFrom_escaped, List.map_singleton, List.singleton_append, scanFrom_cons (closed _)]
  simp [piecesOf]

theorem scanFrom_name (name : String) (tokens : List Token) (rest : List Glyph) :
    scanFrom .between tokens ((quote name).map some ++ some ':' :: rest)
      = scanFrom .between (.colon :: .text (piecesOf name) :: tokens) rest := by
  have colon : step .between (some ':') = some (.between, [.colon]) := rfl
  rw [scanFrom_quote, scanFrom_cons colon]
  rfl

/-! ### Words -/

/-- A character that can stand in a word. -/
def IsLetter (c : Char) : Prop := isSpace c = false ∧ c ≠ '"' ∧ punctuation? c = none

instance : DecidablePred IsLetter := fun _ => inferInstanceAs (Decidable (_ ∧ _ ∧ _))

theorem isLetter_of_all {letters : List Char} (plain : letters.all (decide <| IsLetter ·) = true) :
    ∀ c ∈ letters, IsLetter c :=
  fun c member => of_decide_eq_true (List.all_eq_true.mp plain c member)

theorem isLetter_of_isDigit {c : Char} (digit : c.isDigit = true) : IsLetter c := by
  have apart (other : Char) (no_digit : other.isDigit = false) : c ≠ other := by
    rintro rfl
    simp [digit] at no_digit
  refine ⟨?_, ?_, ?_⟩
  · simp [isSpace, apart ' ' rfl, apart '\t' rfl, apart '\n' rfl, apart '\r' rfl]
  · exact apart '"' rfl
  · simp [punctuation?, apart '{' rfl, apart '}' rfl, apart '[' rfl, apart ']' rfl, apart ',' rfl, apart ':' rfl]

/-- No word goes on here. -/
inductive Delimits : List Glyph → Prop where
  | ends : Delimits []
  | space {c : Char} (space : isSpace c = true) (rest : List Glyph) : Delimits (some c :: rest)
  | punctuation {c : Char} {token : Token} (mark : punctuation? c = some token) (rest : List Glyph) :
    Delimits (some c :: rest)

theorem scanFrom_letters {letters : List Char} (plain : ∀ c ∈ letters, IsLetter c) (before : List Char)
    (tokens : List Token) (rest : List Glyph) :
    scanFrom (.word before) tokens (letters.map some ++ rest)
      = scanFrom (.word (letters.reverse ++ before)) tokens rest := by
  induction letters generalizing before with
  | nil => rfl
  | cons c letters ih =>
    obtain ⟨letter, others⟩ := List.forall_mem_cons.mp plain
    have stepped : step (.word before) (some c) = some (.word (c :: before), []) := by
      simp [step, letter.1, letter.2.1, letter.2.2]
    rw [List.map_cons, List.cons_append, scanFrom_cons stepped, List.nil_append, ih others]
    simp

theorem scanFrom_delimiter {rest : List Glyph} (delimits : Delimits rest) (letters : List Char) (tokens : List Token) :
    scanFrom (.word letters) tokens rest = scanFrom .between (.word letters.reverse :: tokens) rest := by
  cases delimits with
  | ends => rfl
  | space space rest => simp [scanFrom, step, space]
  | @punctuation c token mark rest =>
    have no_space : isSpace c = false := by
      unfold punctuation? at mark
      iterate 6
        split at mark
        next same =>
          subst same
          rfl
      cases mark
    have no_quote : c ≠ '"' := by
      rintro rfl
      cases mark
    simp [scanFrom, step, no_space, no_quote, mark]

theorem scanFrom_word {letters : List Char} (some_letter : letters ≠ []) (plain : ∀ c ∈ letters, IsLetter c)
    (tokens : List Token) {rest : List Glyph} (delimits : Delimits rest) :
    scanFrom .between tokens (letters.map some ++ rest) = scanFrom .between (.word letters :: tokens) rest := by
  cases letters with
  | nil => exact absurd rfl some_letter
  | cons c letters =>
    obtain ⟨letter, others⟩ := List.forall_mem_cons.mp plain
    have stepped : step .between (some c) = some (.word [c], []) := by
      simp [step, letter.1, letter.2.1, letter.2.2]
    rw [List.map_cons, List.cons_append, scanFrom_cons stepped, scanFrom_letters others, scanFrom_delimiter delimits]
    simp

end Token

/-! ### Values -/

theorem Number.render_ne_nil {n : Number} (exact_ : n.IsExact) : n.render ≠ [] := by
  cases n with
  | natural n => exact Nat.toDigits_ne_nil
  | negative n =>
    rw [render, if_pos (show n.toInt < 0 from exact_.well)]
    exact List.cons_ne_nil _ _
  | real x => exact absurd rfl (exact_.integer x)

theorem Number.isDigit_of_mem_render {n : Number} (exact_ : n.IsExact) {c : Char} (member : c ∈ n.render) :
    c.isDigit = true ∨ c = '-' := by
  have digits {n : Nat} (member : c ∈ Nat.toDigits 10 n) : c.isDigit = true :=
    Nat.isDigit_of_mem_toDigits (by decide) (by decide) member
  cases n with
  | natural n => exact .inl (digits member)
  | negative n =>
    rw [render, if_pos (show n.toInt < 0 from exact_.well)] at member
    rcases List.mem_cons.mp member with sign | digit
    · exact .inr sign
    · exact .inl (digits digit)
  | real x => exact absurd rfl (exact_.integer x)

theorem Number.isLetter_of_mem_render {n : Number} (exact_ : n.IsExact) {c : Char} (member : c ∈ n.render) :
    Token.IsLetter c := by
  rcases isDigit_of_mem_render exact_ member with digit | rfl
  · exact Token.isLetter_of_isDigit digit
  · decide

namespace Token

/-- An object is scanned as its members are, in whatever order they stand. -/
theorem scanFrom_braces {members : List (String × Json)} {tokens : List Token} {rest : List Glyph}
    (between : scanFrom .between (.openBrace :: tokens) ((renderMembers members).map some ++ some '}' :: rest)
      = scanFrom .between ((memberTokens members).reverse ++ .openBrace :: tokens) (some '}' :: rest)) :
    scanFrom .between tokens ((render (.object members)).map some ++ rest)
      = scanFrom .between ((tokensOf (.object members)).reverse ++ tokens) rest := by
  have opened : step .between (some '{') = some (.between, [.openBrace]) := rfl
  have closed : step .between (some '}') = some (.between, [.closeBrace]) := rfl
  rw [render, List.cons_append, List.map_cons, List.cons_append, scanFrom_cons opened, List.map_append,
    List.append_assoc]
  refine between.trans ?_
  rw [scanFrom_cons closed]
  simp [tokensOf]

-- The induction is on the value. A number ends where its text does only if what follows is no letter, so the rest of
-- the text is arbitrary but for its first character.
mutual

theorem scanFrom_render : ∀ (v : Json) (tokens : List Token) {rest : List Glyph}, v.IsSound Number.IsExact →
    Delimits rest →
    scanFrom .between tokens (v.render.map some ++ rest) = scanFrom .between ((tokensOf v).reverse ++ tokens) rest
  | .null, tokens, rest, _, delimits =>
    have some_letter : "null".toList ≠ [] := by decide
    scanFrom_word some_letter (isLetter_of_all rfl) tokens delimits
  | .bool true, tokens, rest, _, delimits =>
    have some_letter : "true".toList ≠ [] := by decide
    scanFrom_word some_letter (isLetter_of_all rfl) tokens delimits
  | .bool false, tokens, rest, _, delimits =>
    have some_letter : "false".toList ≠ [] := by decide
    scanFrom_word some_letter (isLetter_of_all rfl) tokens delimits
  | .number n, tokens, rest, sound, delimits => by
    have exact_ : n.IsExact := isSound_number.mp sound
    exact scanFrom_word (Number.render_ne_nil exact_) (fun _ => Number.isLetter_of_mem_render exact_) tokens delimits
  | .string s, tokens, rest, _, _ => scanFrom_quote s tokens rest
  | .array items, tokens, rest, sound, _ => by
    have opened : step .between (some '[') = some (.between, [.openBracket]) := rfl
    have closed : step .between (some ']') = some (.between, [.closeBracket]) := rfl
    have between := scanFrom_renderItems items (.openBracket :: tokens) (isSound_array.mp sound)
      (.punctuation (c := ']') rfl rest)
    rw [render, List.cons_append, List.map_cons, List.cons_append, scanFrom_cons opened, List.map_append,
      List.append_assoc]
    refine between.trans ?_
    rw [scanFrom_cons closed]
    simp [tokensOf]
  | .object members, tokens, rest, sound, _ =>
    scanFrom_braces (scanFrom_renderMembers members (.openBrace :: tokens) (isSound_object.mp sound).2
      (.punctuation (c := '}') rfl rest))

theorem scanFrom_renderItems : ∀ (items : List Json) (tokens : List Token) {rest : List Glyph},
    (∀ item ∈ items, item.IsSound Number.IsExact) → Delimits rest →
    scanFrom .between tokens ((renderItems items).map some ++ rest)
      = scanFrom .between ((itemTokens items).reverse ++ tokens) rest
  | [], _, _, _, _ => rfl
  | [item], tokens, rest, sound, delimits => scanFrom_render item tokens (sound item List.mem_cons_self) delimits
  | item :: next :: items, tokens, rest, sound, delimits => by
    obtain ⟨first, others⟩ := List.forall_mem_cons.mp sound
    have comma : step .between (some ',') = some (.between, [.comma]) := rfl
    have front := scanFrom_render item tokens first
      (.punctuation (c := ',') rfl ((renderItems (next :: items)).map some ++ rest))
    have back := scanFrom_renderItems (next :: items) (.comma :: ((tokensOf item).reverse ++ tokens)) others delimits
    rw [renderItems, List.map_append, List.append_assoc, List.map_cons, List.cons_append, front, scanFrom_cons comma]
    · refine back.trans ?_
      simp [itemTokens]
    · nofun

theorem scanFrom_renderMembers : ∀ (members : List (String × Json)) (tokens : List Token) {rest : List Glyph},
    (∀ member ∈ members, member.2.IsSound Number.IsExact) → Delimits rest →
    scanFrom .between tokens ((renderMembers members).map some ++ rest)
      = scanFrom .between ((memberTokens members).reverse ++ tokens) rest
  | [], _, _, _, _ => rfl
  | [(name, value)], tokens, rest, sound, delimits => by
    have back := scanFrom_render value (.colon :: .text (piecesOf name) :: tokens) (sound _ List.mem_cons_self) delimits
    rw [renderMembers, List.map_append, List.append_assoc, List.map_cons, List.cons_append, scanFrom_name]
    refine back.trans ?_
    simp [memberTokens]
  | (name, value) :: next :: members, tokens, rest, sound, delimits => by
    obtain ⟨first, others⟩ := List.forall_mem_cons.mp sound
    have comma : step .between (some ',') = some (.between, [.comma]) := rfl
    have middle := scanFrom_render value (.colon :: .text (piecesOf name) :: tokens) first
      (.punctuation (c := ',') rfl ((renderMembers (next :: members)).map some ++ rest))
    have back := scanFrom_renderMembers (next :: members)
      (.comma :: ((tokensOf value).reverse ++ .colon :: .text (piecesOf name) :: tokens)) others delimits
    rw [renderMembers, List.append_assoc, List.map_append, List.append_assoc, List.cons_append, List.map_cons,
      List.cons_append, scanFrom_name, List.map_append, List.append_assoc, List.map_cons, List.cons_append]
    · refine middle.trans ?_
      rw [scanFrom_cons comma]
      refine back.trans ?_
      simp [memberTokens]
    · nofun

end

end Token

end PointStream.Json
