import PointStream.Json.Tree

/-!
# Reading values and records out of JSON

A tree is read as a free value or as a record of named fields. Only what is read has to be decodable: a
member that no record asks for is passed over as it stands.
-/

namespace PointStream.Json

/-- How many brackets may be open at once around anything that is read. -/
def nestingLimit : Nat := 127

/-- Stands in messages for the reason why a text cannot be read, which is not disclosed. -/
def undisclosed : String := "<json>"

/-- Decodes a string literal: no holes, and UTF-16 surrogates only in pairs. -/
def decodePieces (decoded : List Char) : List Piece → Option String
  | [] => some (String.ofList decoded.reverse)
  | .glyph none :: _ => none
  | .glyph (some c) :: rest => decodePieces (c :: decoded) rest
  | .unit high :: .unit low :: rest =>
    -- A high surrogate needs a low one behind it; any other unit is a character by itself.
    if 0xD800 ≤ high ∧ high < 0xDC00 then
      if 0xDC00 ≤ low ∧ low < 0xE000 then
        let c := Char.ofNat (0x10000 + (high - 0xD800) * 0x400 + (low - 0xDC00))
        decodePieces (c :: decoded) rest
      else none
    else if 0xDC00 ≤ high ∧ high < 0xE000 then none
    else decodePieces (Char.ofNat high :: decoded) (.unit low :: rest)
  | .unit n :: rest =>
    if 0xD800 ≤ n ∧ n < 0xE000 then none else decodePieces (Char.ofNat n :: decoded) rest

def textOf? (pieces : List Piece) : Option String := decodePieces [] pieces

namespace Tree

mutual

/-- The value of a tree inside which at most `depth` brackets are open at once. -/
def decode? (depth : Nat) : Tree → Option Json
  | .null => some .null
  | .bool b => some (.bool b)
  | .number l => l.toNumber?.map .number
  | .text pieces => (textOf? pieces).map .string
  | .array items =>
    match depth with
    | 0 => none
    | depth + 1 => (decodeItems depth [] items).map .array
  | .object members =>
    match depth with
    | 0 => none
    | depth + 1 => (decodeMembers depth [] members).map ofMembers

def decodeItems (depth : Nat) (decoded : List Json) : List Tree → Option (List Json)
  | [] => some decoded.reverse
  | t :: rest =>
    match decode? depth t with
    | some v => decodeItems depth (v :: decoded) rest
    | none => none

def decodeMembers (depth : Nat) (decoded : List (String × Json)) :
    List (List Piece × Tree) → Option (List (String × Json))
  | [] => some decoded.reverse
  | (name, t) :: rest =>
    match textOf? name, decode? depth t with
    | some name, some v => decodeMembers depth ((name, v) :: decoded) rest
    | _, _ => none

end

/-! ### Typed reading -/

def text? : Tree → Option String
  | .text pieces => textOf? pieces
  | _ => none

/-- A natural number below a limit; it must be written as an integer. -/
def natural? (limit : Nat) : Tree → Option Nat
  | .number l =>
    match l.toNumber? with
    | some (.natural n) => if n.toNat < limit then some n.toNat else none
    | _ => none
  | _ => none

def binary64? : Tree → Option Binary64
  | .number l => l.toNumber?.map Number.toBinary64
  | _ => none

/-- The items of an array, each read with one bracket more open. -/
def items? {α : Type} (read : Nat → Tree → Option α) (depth : Nat) : Tree → Option (List α)
  | .array items => if depth = 0 then none else items.mapM (read (depth - 1))
  | _ => none

/-- The fields of a record in the order of `names`, each absent or given once. A record is written as an
object, whose other members are passed over, or as the array of its first fields. -/
def fields? (names : List String) : Tree → Option (List (Option Tree))
  | .object members => do
    let named ← members.mapM fun (name, t) => (textOf? name).map (·, t)
    names.mapM fun name =>
      match named.filter (·.1 == name) with
      | [] => some none
      | [(_, t)] => some (some t)
      | _ => none
  | .array items =>
    if items.length ≤ names.length then
      some (items.map some ++ List.replicate (names.length - items.length) none)
    else none
  | _ => none

/-- The fields of a record that is read with `depth` brackets still allowed. -/
def record? (names : List String) (depth : Nat) (t : Tree) : Option (List (Option Tree)) :=
  if depth = 0 then none else t.fields? names

/-- The name of an enumeration value: a string, or an object with that one member, which is null. -/
def variant? (depth : Nat) : Tree → Option String
  | .text pieces => textOf? pieces
  | .object [(name, .null)] => if depth = 0 then none else textOf? name
  | _ => none

end Tree

/-- The value of a JSON text given by its glyphs. -/
def read? (depth : Nat) (glyphs : List Text.Glyph) : Option Json := do
  (← Tree.parse? glyphs).decode? depth

def ofString? (s : String) : Option Json := read? nestingLimit (s.toList.map some)

end PointStream.Json
