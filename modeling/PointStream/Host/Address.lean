import PointStream.Text.Blank

/-!
# Internet addresses

Addresses of version 4 in dotted decimal and of version 6 in groups of hexadecimal digits, as they are read
and written.
-/

namespace PointStream

/-- Splits a list at every occurrence of a separator: one more part than separators. -/
def splitAtEach {α : Type} [DecidableEq α] (separator : α) : List α → List (List α)
  | [] => [[]]
  | a :: rest =>
    if a = separator then [] :: splitAtEach separator rest
    else match splitAtEach separator rest with
      | part :: parts => (a :: part) :: parts
      | [] => [[a]]

structure Ipv4 where
  octets : List Nat
deriving DecidableEq, Inhabited

namespace Ipv4

/-- A decimal number below 256 without a leading zero. -/
def octet? (cs : List Char) : Option Nat :=
  if cs.length ≤ 3 ∧ ¬(cs.head? = some '0' ∧ cs.length ≠ 1) ∧ cs.head? ≠ some '+' then
    Text.readNatural? 256 (String.ofList cs)
  else none

def ofChars? (cs : List Char) : Option Ipv4 := do
  let octets ← (splitAtEach '.' cs).mapM octet?
  if octets.length = 4 then some ⟨octets⟩ else none

/-- The two groups that an address takes up at the end of one of version 6. -/
def groups (a : Ipv4) : List Nat :=
  match a.octets with
  | [w, x, y, z] => [w * 256 + x, y * 256 + z]
  | _ => []

def render (a : Ipv4) : List Char := ['.'].intercalate (a.octets.map (Nat.toDigits 10))

end Ipv4

/-- An address of version 6: eight groups of sixteen bits. -/
structure Ipv6 where
  groups : List Nat
deriving DecidableEq, Inhabited

namespace Ipv6

def hexDigit? (c : Char) : Option Nat :=
  if '0' ≤ c ∧ c ≤ '9' then some (c.toNat - '0'.toNat)
  else if 'a' ≤ c ∧ c ≤ 'f' then some (c.toNat - 'a'.toNat + 10)
  else if 'A' ≤ c ∧ c ≤ 'F' then some (c.toNat - 'A'.toNat + 10)
  else none

def group? (cs : List Char) : Option Nat := do
  let digits ← cs.mapM hexDigit?
  if 1 ≤ digits.length ∧ digits.length ≤ 4 then some (digits.foldl (fun n d => n * 16 + d) 0) else none

/-- Groups with colons between them; where `tail` is set the last part may be an address of version 4. -/
def groups? (tail : Bool) (cs : List Char) : Option (List Nat) :=
  if cs.isEmpty then some []
  else
    let parts := splitAtEach ':' cs
    let last := parts.getLastD []
    match if tail then Ipv4.ofChars? last else none with
    | some a => (parts.dropLast.mapM group?).map (· ++ a.groups)
    | none => parts.mapM group?

/-- The text before and after the first double colon. -/
def splitDouble? : List Char → Option (List Char × List Char)
  | ':' :: ':' :: rest => some ([], rest)
  | c :: rest => (splitDouble? rest).map fun (before, after) => (c :: before, after)
  | [] => none

/-- Reads an address. A double colon stands for the one or more groups of zero that are missing. -/
def ofChars? (cs : List Char) : Option Ipv6 :=
  match splitDouble? cs with
  | none => do
    let groups ← groups? true cs
    if groups.length = 8 then some ⟨groups⟩ else none
  | some (before, after) => do
    let first ← groups? false before
    let last ← groups? true after
    let given := first.length + last.length
    if given ≤ 7 then some ⟨first ++ List.replicate (8 - given) 0 ++ last⟩ else none

def leadingZeros (groups : List Nat) : Nat := (groups.takeWhile (· == 0)).length

/-- The start and length of the longest run of zeros, the first of several; lengths below two do not count. -/
def longestZeros (groups : List Nat) : Option (Nat × Nat) :=
  let runs := (List.range groups.length).map fun i => (i, leadingZeros (groups.drop i))
  runs.foldl (fun best (i, n) =>
    if 2 ≤ n ∧ best.all fun (_, m) => decide (m < n) then some (i, n) else best) none

/-- Groups in lowercase hexadecimal with colons between them. -/
def renderGroups (groups : List Nat) : List Char :=
  [':'].intercalate (groups.map (Nat.toDigits 16))

/-- Writes an address, the longest run of zeros as a double colon. -/
def render (a : Ipv6) : List Char :=
  match longestZeros a.groups with
  | none => renderGroups a.groups
  | some (start, length) =>
    renderGroups (a.groups.take start) ++ [':', ':'] ++ renderGroups (a.groups.drop (start + length))

end Ipv6

inductive IpAddress where
  | v4 (a : Ipv4)
  | v6 (a : Ipv6)
deriving DecidableEq, Inhabited

namespace IpAddress

def ofText? (s : String) : Option IpAddress :=
  match Ipv4.ofChars? s.toList with
  | some a => some (v4 a)
  | none => (Ipv6.ofChars? s.toList).map v6

/-- An address and a port as one text; an address of version 6 stands in brackets. -/
def withPort (a : IpAddress) (port : Nat) : String :=
  match a with
  | v4 a => s!"{String.ofList a.render}:{port}"
  | v6 a => s!"[{String.ofList a.render}]:{port}"

end IpAddress

end PointStream
