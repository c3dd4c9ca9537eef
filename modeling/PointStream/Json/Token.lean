import PointStream.Text.Utf8

/-!
# JSON tokens

The text is cut into punctuation, string literals and words. A word is whatever stands between other
tokens; which words are values is decided later. String literals keep their pieces undecoded, so that a
value that nobody asks for need not have decodable strings.
-/

namespace PointStream.Json

open Text (Glyph)

/-- A piece of a string literal: a glyph, written as it stands or behind a simple escape, or a UTF-16 unit
written in hexadecimal. -/
inductive Piece where
  | glyph (g : Glyph)
  | unit (n : Nat)
deriving DecidableEq, Inhabited

inductive Token where
  | openBrace
  | closeBrace
  | openBracket
  | closeBracket
  | comma
  | colon
  | word (letters : List Char)
  | text (pieces : List Piece)
deriving DecidableEq, Inhabited

namespace Token

/-- Where the scanner stands. Collected letters and pieces are kept last first. -/
inductive Scan where
  | between
  | word (letters : List Char)
  | text (pieces : List Piece)
  | escape (pieces : List Piece)
  | unit (pieces : List Piece) (missing value : Nat)

def isSpace (c : Char) : Bool := c == ' ' || c == '\t' || c == '\n' || c == '\r'

def punctuation? (c : Char) : Option Token :=
  if c = '{' then some .openBrace
  else if c = '}' then some .closeBrace
  else if c = '[' then some .openBracket
  else if c = ']' then some .closeBracket
  else if c = ',' then some .comma
  else if c = ':' then some .colon
  else none

/-- What a character after a backslash stands for. -/
def simpleEscape? (c : Char) : Option Char :=
  if c = '"' then some '"'
  else if c = '\\' then some '\\'
  else if c = '/' then some '/'
  else if c = 'b' then some '\x08'
  else if c = 'f' then some '\x0c'
  else if c = 'n' then some '\n'
  else if c = 'r' then some '\r'
  else if c = 't' then some '\t'
  else none

def hexValue? (c : Char) : Option Nat :=
  if '0' ≤ c ∧ c ≤ '9' then some (c.toNat - '0'.toNat)
  else if 'a' ≤ c ∧ c ≤ 'f' then some (c.toNat - 'a'.toNat + 10)
  else if 'A' ≤ c ∧ c ≤ 'F' then some (c.toNat - 'A'.toNat + 10)
  else none

/-- Takes one glyph; the new tokens are given last first. None is a lexical error. -/
def step (s : Scan) (g : Glyph) : Option (Scan × List Token) :=
  match s, g with
  -- Malformed bytes are let through only inside a string literal.
  | .text pieces, none => some (.text (.glyph none :: pieces), [])
  | _, none => none
  | .between, some c =>
    if isSpace c then some (.between, [])
    else if c = '"' then some (.text [], [])
    else match punctuation? c with
      | some token => some (.between, [token])
      | none => some (.word [c], [])
  | .word letters, some c =>
    if isSpace c then some (.between, [.word letters.reverse])
    else if c = '"' then some (.text [], [.word letters.reverse])
    else match punctuation? c with
      | some token => some (.between, [token, .word letters.reverse])
      | none => some (.word (c :: letters), [])
  | .text pieces, some c =>
    if c = '"' then some (.between, [.text pieces.reverse])
    else if c = '\\' then some (.escape pieces, [])
    else if c.toNat < 0x20 then none
    else some (.text (.glyph (some c) :: pieces), [])
  | .escape pieces, some c =>
    if c = 'u' then some (.unit pieces 4 0, [])
    else (simpleEscape? c).map fun c => (.text (.glyph (some c) :: pieces), [])
  | .unit pieces missing value, some c =>
    (hexValue? c).map fun digit =>
      let value := value * 16 + digit
      if missing ≤ 1 then (.text (.unit value :: pieces), []) else (.unit pieces (missing - 1) value, [])

/-- Scans the rest of a text; `tokens` holds the tokens so far, last first. -/
def scanFrom (s : Scan) (tokens : List Token) : List Glyph → Option (List Token)
  | [] =>
    match s with
    | .between => some tokens.reverse
    | .word letters => some (Token.word letters.reverse :: tokens).reverse
    | _ => none
  | g :: rest =>
    match step s g with
    | some (s, new) => scanFrom s (new ++ tokens) rest
    | none => none

def scan (glyphs : List Glyph) : Option (List Token) := scanFrom .between [] glyphs

end Token

end PointStream.Json
