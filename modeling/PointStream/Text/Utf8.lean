/-!
# UTF-8

Decoding never stops at a malformed byte: it leaves a hole in its place, so that a reader can decide
where malformed bytes matter. ASCII bytes always stand for themselves.
-/

namespace PointStream.Text

/-- A character, or none for a byte that belongs to no well-formed character. -/
abbrev Glyph := Option Char

namespace Utf8

/-- The character with a code point, if there is one. -/
def scalar? (n : Nat) : Option Char :=
  if h : n.isValidChar then some (Char.ofNatAux n h) else none

/-- The six payload bits of a continuation byte. -/
def continuation? (b : UInt8) : Option Nat :=
  if 0x80 ≤ b && b < 0xC0 then some (b.toNat - 0x80) else none

/-- The character that a byte begins together with the bytes after it, and how many of those it takes. -/
def leading? (b : UInt8) (rest : List UInt8) : Option (Char × Nat) := do
  if b < 0x80 then
    return (← scalar? b.toNat, 0)
  else if 0xC2 ≤ b && b < 0xE0 then
    let [b₁] := rest.take 1 | none
    return (← scalar? ((b.toNat - 0xC0) * 0x40 + (← continuation? b₁)), 1)
  else if 0xE0 ≤ b && b < 0xF0 then
    let [b₁, b₂] := rest.take 2 | none
    let n := ((b.toNat - 0xE0) * 0x40 + (← continuation? b₁)) * 0x40 + (← continuation? b₂)
    -- Fewer bytes would have done, so the form is not well-formed.
    if n < 0x800 then none else return (← scalar? n, 2)
  else if 0xF0 ≤ b && b < 0xF5 then
    let [b₁, b₂, b₃] := rest.take 3 | none
    let n := (((b.toNat - 0xF0) * 0x40 + (← continuation? b₁)) * 0x40 + (← continuation? b₂)) * 0x40
      + (← continuation? b₃)
    if n < 0x10000 then none else return (← scalar? n, 3)
  else none

/-- Decodes after `skip` bytes that the last character took; `decoded` holds what came before, last
first. -/
def decodeFrom (decoded : List Glyph) : Nat → List UInt8 → List Glyph
  | _, [] => decoded.reverse
  | skip + 1, _ :: rest => decodeFrom decoded skip rest
  | 0, b :: rest =>
    match leading? b rest with
    | some (c, taken) => decodeFrom (some c :: decoded) taken rest
    | none => decodeFrom (none :: decoded) 0 rest

/-- The characters of a byte string, with a hole for each byte that belongs to none. -/
def decode (bytes : List UInt8) : List Glyph := decodeFrom [] 0 bytes

def encode (s : String) : List UInt8 := s.toUTF8.toList

end Utf8

end PointStream.Text
