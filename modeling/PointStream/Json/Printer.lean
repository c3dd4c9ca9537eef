import PointStream.Json.Value

/-!
# JSON text

Values are written without white space. In a string only the quote, the backslash and the control
characters below U+0020 are escaped, so no text holds a line feed.
-/

namespace PointStream.Json

def hexDigit (n : Nat) : Char := Nat.digitChar n

/-- A character as it stands inside a string literal. -/
def escapeChar (c : Char) : List Char :=
  if c = '"' then ['\\', '"']
  else if c = '\\' then ['\\', '\\']
  else if c = '\x08' then ['\\', 'b']
  else if c = '\x0c' then ['\\', 'f']
  else if c = '\n' then ['\\', 'n']
  else if c = '\r' then ['\\', 'r']
  else if c = '\t' then ['\\', 't']
  else if c.toNat < 0x20 then ['\\', 'u', '0', '0', hexDigit (c.toNat / 16), hexDigit (c.toNat % 16)]
  else [c]

def quote (s : String) : List Char := '"' :: s.toList.flatMap escapeChar ++ ['"']

def Number.render : Number → List Char
  | .natural n => Nat.toDigits 10 n.toNat
  | .negative n =>
    let digits := Nat.toDigits 10 n.toInt.natAbs
    if n.toInt < 0 then '-' :: digits else digits
  | .real x => if x.isFinite then x.toText.toList else "null".toList

mutual

def render : Json → List Char
  | .null => "null".toList
  | .bool true => "true".toList
  | .bool false => "false".toList
  | .number n => n.render
  | .string s => quote s
  | .array items => '[' :: renderItems items ++ [']']
  | .object members => '{' :: renderMembers members ++ ['}']

def renderItems : List Json → List Char
  | [] => []
  | [item] => render item
  | item :: rest => render item ++ ',' :: renderItems rest

def renderMembers : List (String × Json) → List Char
  | [] => []
  | [(name, value)] => quote name ++ ':' :: render value
  | (name, value) :: rest => quote name ++ ':' :: render value ++ ',' :: renderMembers rest

end

def toText (v : Json) : String := String.ofList (render v)

/-- The text of an object whose members keep the given order. -/
def recordText (members : List (String × Json)) : String :=
  String.ofList ('{' :: renderMembers members ++ ['}'])

end PointStream.Json
