import PointStream.Host.Address
import PointStream.Text.Utf8

/-!
# Locators

Uniform resource locators by the rules that browsers follow: blanks around the text and line breaks inside it
are ignored, dot segments are resolved, and characters that a path must not hold are percent-encoded.
A locator of one of the web's special schemes is only checked, since nothing is served there.
-/

namespace PointStream

inductive Url where
  /-- One of a special scheme, which was found well-formed. -/
  | special (scheme : String)
  | generic (scheme : String) (host : Option String) (port : Option Nat) (path : String)
deriving DecidableEq, Inhabited

namespace Url

/-! ### Characters -/

def isControlOrSpace (c : Char) : Bool := c.toNat ≤ 0x20

/-- Characters that are ignored wherever they stand. -/
def isIgnored (c : Char) : Bool := c == '\t' || c == '\n' || c == '\r'

/-- The characters of a text that count. -/
def significant (s : String) : List Char :=
  let front := s.toList.dropWhile isControlOrSpace
  (front.reverse.dropWhile isControlOrSpace).reverse.filter (!isIgnored ·)

/-- A character outside printable ASCII. -/
def isControl (c : Char) : Bool := c.toNat < 0x20 || 0x7F ≤ c.toNat

/-- A character that is encoded in a path with segments. -/
def isEncodedInPath (c : Char) : Bool :=
  isControl c || [' ', '"', '<', '>', '\x60', '#', '?', '\x7b', '\x7d'].contains c

/-- A character that an opaque host must not hold. -/
def isForbiddenInHost (c : Char) : Bool :=
  ['\x00', '\t', '\n', '\r', ' ', '#', '/', ':', '<', '>', '?', '@', '[', '\\', ']', '^', '|'].contains c

/-- A character that a domain must not hold. -/
def isForbiddenInDomain (c : Char) : Bool :=
  isForbiddenInHost c || c.toNat ≤ 0x1F || c == '%' || c == '\x7f'

/-- The percent-encoding of a byte. -/
def encodeByte (b : UInt8) : List Char :=
  let digit (n : Nat) : Char := (Nat.digitChar n).toUpper
  ['%', digit (b.toNat / 16), digit (b.toNat % 16)]

def encode (isEncoded : Char → Bool) (cs : List Char) : List Char :=
  cs.flatMap fun c => if isEncoded c then (Text.Utf8.encode c.toString).flatMap encodeByte else [c]

def decode : List Char → List UInt8
  | [] => []
  | '%' :: high :: low :: rest =>
    match Ipv6.hexDigit? high, Ipv6.hexDigit? low with
    | some h, some l => UInt8.ofNat (h * 16 + l) :: decode rest
    | _, _ => 0x25 :: decode (high :: low :: rest)
  | c :: rest => Text.Utf8.encode c.toString ++ decode rest
termination_by cs => cs.length

/-! ### Schemes -/

def isSchemeChar (c : Char) : Bool := c.isAlphanum || c == '+' || c == '-' || c == '.'

/-- The scheme, in lower case, and what follows its colon. -/
def scheme? (cs : List Char) : Option (String × List Char) :=
  let name := cs.takeWhile isSchemeChar
  match name, cs.dropWhile isSchemeChar with
  | first :: _, ':' :: rest =>
    if first.isAlpha then some ((String.ofList name).toLower, rest) else none
  | _, _ => none

/-! ### Authorities -/

/-- Whether a character ends the authority; a backslash does in special schemes. -/
def endsAuthority (isSpecial : Bool) (c : Char) : Bool :=
  c == '/' || c == '?' || c == '#' || (isSpecial && c == '\\')

/-- The text before the last `@` of an authority, if there is one, and the text after it. -/
def splitUserinfo (isSpecial : Bool) (cs : List Char) : Option (List Char) × List Char :=
  let authority := cs.takeWhile (!endsAuthority isSpecial ·)
  -- Read from the end, the last `@` is the first that is met.
  match authority.reverse.dropWhile (· ≠ '@') with
  | [] => (none, cs)
  | _ :: before => (some before.reverse, cs.drop (before.length + 1))

/-- Whether a user or a password is given: a lone colon gives neither. -/
def givesUser (userinfo : List Char) : Bool := !userinfo.isEmpty && userinfo ≠ [':']

/-- The host text and what follows it: up to a colon outside brackets. -/
def splitHost (isSpecial : Bool) (inBrackets : Bool) : List Char → List Char × List Char
  | [] => ([], [])
  | c :: rest =>
    if (c == ':' && !inBrackets) || endsAuthority isSpecial c then ([], c :: rest)
    else
      let inBrackets := if c = '[' then true else if c = ']' then false else inBrackets
      let (host, rest) := splitHost isSpecial inBrackets rest
      (c :: host, rest)

/-- An address of version 6 in brackets. -/
def bracketed? (cs : List Char) : Option (List Char) :=
  if cs.length ≥ 2 ∧ cs.getLast? = some ']' then
    (Ipv6.ofChars? (cs.drop 1).dropLast).map fun a => '[' :: a.render ++ [']']
  else none

/-- The host that a text gives in a scheme that is not special. -/
def opaqueHost? (cs : List Char) : Option (List Char) :=
  if cs.head? = some '[' then bracketed? cs
  else if cs.any isForbiddenInHost then none
  else some (encode isControl cs)

/-- A number as it may stand in an address of version 4: decimal, octal after a zero, hexadecimal after
`0x`. -/
def addressNumber? (cs : List Char) : Option Nat :=
  let read (base : Nat) (cs : List Char) : Option Nat := do
    let digits ← cs.mapM Ipv6.hexDigit?
    if digits.all (· < base) then some (digits.foldl (fun n d => n * base + d) 0) else none
  match cs with
  | [] => none
  | '0' :: 'x' :: rest | '0' :: 'X' :: rest => read 16 rest
  | ['0'] => some 0
  | '0' :: rest => read 8 rest
  | cs => read 10 cs

/-- The labels of a domain, without the empty one after a final point. -/
def labels (domain : List Char) : List (List Char) :=
  let all := splitAtEach '.' domain
  if all.length ≠ 1 ∧ all.getLast? = some [] then all.dropLast else all

/-- Whether the last label makes a domain an address of version 4. -/
def endsInNumber (domain : List Char) : Bool :=
  let last := (labels domain).getLastD []
  (!last.isEmpty && last.all Char.isDigit) || (addressNumber? last).isSome

/-- Whether a domain is an address of version 4: at most four numbers, of which all but the last are bytes
and the last fills up the rest. -/
def isAddress (domain : List Char) : Bool :=
  match (labels domain).mapM addressNumber? with
  | none => false
  | some numbers =>
    decide (numbers.length ≤ 4) && numbers.dropLast.all (· < 256)
      && decide (numbers.getLastD 0 < 1 <<< (8 * (5 - numbers.length)))

def isDomain (cs : List Char) : Bool :=
  if cs.head? = some '[' then (bracketed? cs).isSome
  else match (Text.Utf8.decode (decode cs)).mapM id with
    | none => false
    | some domain =>
      !domain.isEmpty && !domain.any isForbiddenInDomain && (!endsInNumber domain || isAddress domain)

/-- A port and what follows it. Without digits there is no port. -/
def port? (cs : List Char) : Option (Option Nat × List Char) :=
  let digits := cs.takeWhile Char.isDigit
  let rest := cs.dropWhile Char.isDigit
  let ends := match rest with
    | [] => true
    | c :: _ => endsAuthority true c
  if !ends then none
  else if digits.isEmpty then some (none, rest)
  else (Text.readNatural? UInt16.size (String.ofList digits)).map fun port => (some port, rest)

/-! ### Paths -/

/-- A segment that stands for the one it is in. -/
def isSingleDot (segment : List Char) : Bool :=
  [".", "%2e"].any fun dot => Text.sameIgnoringCase dot (String.ofList segment)

/-- A segment that stands for the one above. -/
def isDoubleDot (segment : List Char) : Bool :=
  ["..", ".%2e", "%2e.", "%2e%2e"].any fun dots => Text.sameIgnoringCase dots (String.ofList segment)

/-- A segment that begins with a drive letter. -/
def isDrive (segment : List Char) : Bool :=
  match segment with
  | letter :: mark :: rest =>
    letter.isAlpha && (mark == ':' || mark == '|') && (rest.isEmpty || rest.head? == some '\\')
  | _ => false

/-- Leaves a segment out again; a drive letter stays. -/
def dropSegment (finished : List (List Char)) : List (List Char) :=
  if finished.getLast?.any isDrive then finished else finished.dropLast

/-- The path of segments that are each followed by a slash. -/
def joinSegments (finished : List (List Char)) : List Char :=
  '/' :: finished.flatMap fun segment => segment ++ ['/']

/-- Resolves dot segments; `finished` holds the segments so far. -/
def resolveSegments (finished : List (List Char)) : List (List Char) → List Char
  | [] => joinSegments finished
  | [last] =>
    if isDoubleDot last then joinSegments (dropSegment finished)
    else if isSingleDot last then joinSegments finished
    else joinSegments finished ++ last
  | segment :: rest =>
    if isDoubleDot segment then resolveSegments (dropSegment finished) rest
    else if isSingleDot segment then resolveSegments finished rest
    else resolveSegments (finished ++ [segment]) rest

/-- What comes before a query or a fragment. -/
def beforeQuery (cs : List Char) : List Char := cs.takeWhile fun c => c != '?' && c != '#'

/-- The path of the text after a root slash. -/
def rootedPath (cs : List Char) : List Char :=
  resolveSegments [] (splitAtEach '/' (encode isEncodedInPath (beforeQuery cs)))

/-- The path of the text after an authority. -/
def pathAfterAuthority (cs : List Char) : List Char :=
  match beforeQuery cs with
  | [] => []
  | '/' :: rest => rootedPath rest
  | cs => rootedPath cs

/-! ### Whole locators -/

/-- Reads what follows the two slashes of a scheme that is not special. -/
def withAuthority? (scheme : String) (cs : List Char) : Option Url := do
  let (userinfo, rest) := splitUserinfo false cs
  if userinfo = some [] && rest.head?.any (endsAuthority false) then none
  else
    let (hostText, rest) := splitHost false false rest
    let host ← opaqueHost? hostText
    -- Neither a port nor a user can be given without a host.
    if host.isEmpty && (rest.head? == some ':' || userinfo.any givesUser) then none
    else
      let (port, rest) ← match rest with
        | ':' :: rest => port? rest
        | rest => some (none, rest)
      let host := if host.isEmpty then none else some (String.ofList host)
      some (.generic scheme host port (String.ofList (pathAfterAuthority rest)))

/-- Whether what follows a special scheme that takes a host is well-formed. -/
def isSpecialRest (cs : List Char) : Bool :=
  let (userinfo, rest) := splitUserinfo true (cs.dropWhile fun c => c == '/' || c == '\\')
  if userinfo = some [] && rest.head?.any (endsAuthority true) then false
  else
    let (host, rest) := splitHost true false rest
    isDomain host && (match rest with
      | ':' :: rest => (port? rest).isSome
      | _ => true)

/-- Whether what follows the scheme of files is well-formed: a host is optional. -/
def isFileRest (cs : List Char) : Bool :=
  let isSlash (c : Char) : Bool := c == '/' || c == '\\'
  match cs with
  | first :: second :: rest =>
    if isSlash first && isSlash second then
      let host := rest.takeWhile (!endsAuthority true ·)
      host.isEmpty || isDrive host || isDomain host
    else true
  | _ => true

def specialSchemes : List String := ["http", "https", "ws", "wss", "ftp"]

def ofText? (s : String) : Option Url := do
  let (scheme, rest) ← scheme? (significant s)
  if scheme = "file" then if isFileRest rest then some (.special scheme) else none
  else if specialSchemes.contains scheme then
    if isSpecialRest rest then some (.special scheme) else none
  else match rest with
    | '/' :: '/' :: rest => withAuthority? scheme rest
    | '/' :: rest => some (.generic scheme none none (String.ofList (rootedPath rest)))
    | rest => some (.generic scheme none none (String.ofList (encode isControl (beforeQuery rest))))

end Url

end PointStream
