import PointStream.Json.Literal
import PointStream.Json.Token

/-!
# JSON syntax trees

The grammar of JSON as a machine over tokens with a stack of open containers. It settles the shape of a
text only: strings stay undecoded, number literals unread, and members in the order they were written.
-/

namespace PointStream.Json

/-- A text that obeys the grammar. -/
inductive Tree where
  | null
  | bool (b : Bool)
  | number (l : Literal)
  | text (pieces : List Piece)
  | array (items : List Tree)
  | object (members : List (List Piece × Tree))
deriving Inhabited

namespace Tree

/-- A container that is still open. Finished items and members are kept last first. -/
inductive Frame where
  | array (items : List Tree)
  | object (members : List (List Piece × Tree)) (name : List Piece)

/-- What the grammar expects next, inside the open containers. -/
inductive Expect where
  | value
  | firstItem
  | firstMember
  | nextMember (members : List (List Piece × Tree))
  | colon (members : List (List Piece × Tree)) (name : List Piece)
  | finished (t : Tree)

/-- The value that a word denotes. -/
def ofWord? (letters : List Char) : Option Tree :=
  if letters = "null".toList then some .null
  else if letters = "true".toList then some (.bool true)
  else if letters = "false".toList then some (.bool false)
  else (Literal.ofChars? letters).map .number

/-- The token that begins a value. -/
def beginValue (open_ : List Frame) : Token → Option (Expect × List Frame)
  | .word letters => (ofWord? letters).map fun t => (.finished t, open_)
  | .text pieces => some (.finished (.text pieces), open_)
  | .openBracket => some (.firstItem, open_)
  | .openBrace => some (.firstMember, open_)
  | _ => none

/-- Takes one token. None is a syntax error. -/
def step (s : Expect × List Frame) (token : Token) : Option (Expect × List Frame) :=
  match s, token with
  | (.value, open_), token => beginValue open_ token
  | (.firstItem, open_), .closeBracket => some (.finished (.array []), open_)
  | (.firstItem, open_), token => beginValue (.array [] :: open_) token
  | (.firstMember, open_), .closeBrace => some (.finished (.object []), open_)
  | (.firstMember, open_), .text name => some (.colon [] name, open_)
  | (.nextMember members, open_), .text name => some (.colon members name, open_)
  | (.colon members name, open_), .colon => some (.value, .object members name :: open_)
  | (.finished t, .array items :: open_), .comma => some (.value, .array (t :: items) :: open_)
  | (.finished t, .array items :: open_), .closeBracket =>
    some (.finished (.array (t :: items).reverse), open_)
  | (.finished t, .object members name :: open_), .comma =>
    some (.nextMember ((name, t) :: members), open_)
  | (.finished t, .object members name :: open_), .closeBrace =>
    some (.finished (.object ((name, t) :: members).reverse), open_)
  | _, _ => none

def parseFrom (s : Expect × List Frame) : List Token → Option Tree
  | [] =>
    match s with
    | (.finished t, []) => some t
    | _ => none
  | token :: rest =>
    match step s token with
    | some s => parseFrom s rest
    | none => none

/-- The tree of a text: one value with nothing but white space around it. -/
def parse? (glyphs : List Text.Glyph) : Option Tree := do
  parseFrom (.value, []) (← Token.scan glyphs)

def ofString? (s : String) : Option Tree := parse? (s.toList.map some)

end Tree

end PointStream.Json
