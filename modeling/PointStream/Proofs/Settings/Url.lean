import Mathlib.Data.List.TakeWhile
import PointStream.Proofs.Host.Address
import PointStream.Proofs.Text.Utf8
import PointStream.Settings.Url

/-!
# Locators that stand for themselves

What reading a locator leaves as it is: the characters that count, hosts in the form that reading gives them, ports
in decimal, and paths that are resolved. The host, the port and the path of every locator that is read are in that
form already.

Main results: `isNormal_of_ofText?` and `withAuthority?_of_hosts`.
-/

namespace PointStream.Url

/-! ### Characters that count -/

theorem isIgnored_of_visible {c : Char} (visible : isControlOrSpace c = false) : isIgnored c = false := by
  rw [Bool.eq_false_iff] at visible ⊢
  intro ignored
  simp only [isIgnored, Bool.or_eq_true, beq_iff_eq] at ignored
  rcases ignored with (rfl | rfl) | rfl <;> exact visible rfl

theorem visible_of_printable {c : Char} (printable : isControl c = false) (no_space : c ≠ ' ') :
    isControlOrSpace c = false := by
  have not_space : c.toNat ≠ 0x20 := fun same => no_space (Char.toNat_inj.mp same)
  simp only [isControl, Bool.or_eq_false_iff, decide_eq_false_iff_not] at printable
  exact decide_eq_false (by omega)

theorem visible_of_kept {c : Char} (kept : isEncodedInPath c = false) : isControlOrSpace c = false := by
  apply visible_of_printable
  · exact (Bool.or_eq_false_iff.mp kept).1
  · rintro rfl
    cases kept

theorem dropWhile_of_visible {cs : List Char} (visible : ∀ c ∈ cs, isControlOrSpace c = false) :
    cs.dropWhile isControlOrSpace = cs := by
  rw [List.dropWhile_eq_self_iff]
  intro _
  rw [visible _ (List.getElem_mem _)]
  exact Bool.false_ne_true

theorem filter_of_visible {cs : List Char} (visible : ∀ c ∈ cs, isControlOrSpace c = false) :
    cs.filter (!isIgnored ·) = cs := by
  rw [List.filter_eq_self]
  intro c member
  rw [isIgnored_of_visible (visible c member), Bool.not_false]

/-- Visible characters at the front all count, and visible characters after them count too. -/
theorem significant_append {front : List Char} (visible : ∀ c ∈ front, isControlOrSpace c = false)
    (some_char : front ≠ []) (rest : List Char) :
    ∃ tail, significant (String.ofList (front ++ rest)) = front ++ tail ∧
      ((∀ c ∈ rest, isControlOrSpace c = false) → tail = rest) := by
  have of_reverse {cs : List Char} (visible : ∀ c ∈ cs, isControlOrSpace c = false) :
      cs.reverse.dropWhile isControlOrSpace = cs.reverse :=
    dropWhile_of_visible fun c member => visible c (List.mem_reverse.mp member)
  have stays : (front ++ rest).dropWhile isControlOrSpace = front ++ rest := by
    rw [List.dropWhile_append, dropWhile_of_visible visible, if_neg (mt List.isEmpty_iff.mp some_char)]
  refine ⟨(rest.reverse.dropWhile isControlOrSpace).reverse.filter (!isIgnored ·), ?_, ?_⟩
  · rw [significant, String.toList_ofList, stays, List.reverse_append, List.dropWhile_append, of_reverse visible]
    -- By whether anything is left of the rest.
    split
    next nothing =>
      rw [List.reverse_reverse, filter_of_visible visible, List.isEmpty_iff.mp nothing, List.reverse_nil,
        List.filter_nil, List.append_nil]
    next => rw [List.reverse_append, List.reverse_reverse, List.filter_append, filter_of_visible visible]
  · intro rest_visible
    rw [of_reverse rest_visible, List.reverse_reverse, filter_of_visible rest_visible]

/-! ### Percent-encoding -/

theorem encode_of_kept {isEncoded : Char → Bool} {cs : List Char} (kept : ∀ c ∈ cs, isEncoded c = false) :
    encode isEncoded cs = cs := by
  induction cs with
  | nil => rfl
  | cons c cs ih =>
    obtain ⟨first, others⟩ := List.forall_mem_cons.mp kept
    have later := ih others
    rw [encode] at later ⊢
    rw [List.flatMap_cons, later, first, if_neg Bool.false_ne_true, List.singleton_append]

/-- The characters of an encoding are a percent sign and hexadecimal digits in capitals. -/
theorem mem_encodeByte {P : Char → Prop} (percent : P '%') (digits : ∀ d < 16, P (Nat.digitChar d).toUpper)
    {b : UInt8} : ∀ c ∈ encodeByte b, P c := by
  have byte : b.toNat < 256 := b.toNat_lt
  rw [encodeByte]
  simp only [List.forall_mem_cons]
  exact ⟨percent, digits _ (by omega), digits _ (by omega), nofun⟩

/-- A character of an encoded text is one that is kept, or of the encoding of a byte. -/
theorem mem_encode {isEncoded : Char → Bool} {cs : List Char} {P : Char → Prop}
    (kept : ∀ c ∈ cs, isEncoded c = false → P c) (percent : P '%')
    (digits : ∀ d < 16, P (Nat.digitChar d).toUpper) : ∀ c ∈ encode isEncoded cs, P c := by
  intro c member
  obtain ⟨from_, there, inside⟩ := List.mem_flatMap.mp member
  split at inside
  next =>
    obtain ⟨b, _, inside⟩ := List.mem_flatMap.mp inside
    exact mem_encodeByte percent digits c inside
  next plain =>
    rw [List.mem_singleton.mp inside]
    exact kept from_ there (Bool.eq_false_of_not_eq_true plain)

/-- An encoded text begins with a slash only where the text does. -/
theorem head_encode {isEncoded : Char → Bool} {cs : List Char} (slash : (encode isEncoded cs).head? = some '/') :
    cs.head? = some '/' := by
  cases cs with
  | nil => cases slash
  | cons c cs =>
    rw [encode, List.flatMap_cons] at slash
    split at slash
    next =>
      -- A character has a first byte, and the percent sign of that byte comes first.
      have some_byte : Text.Utf8.encode c.toString ≠ [] := by
        intro nothing
        have decoded := Text.Utf8.decode_encode_append c.toString []
        rw [nothing, Char.toString_eq_singleton, String.toList_singleton] at decoded
        cases decoded
      obtain ⟨b, bytes, encoded⟩ := List.exists_cons_of_ne_nil some_byte
      rw [encoded] at slash
      cases slash
    next => exact slash

/-! ### Characters of addresses -/

theorem visible_of_isAddressChar {c : Char} (address : Ipv6.isAddressChar c = true) : isControlOrSpace c = false := by
  simp only [Ipv6.isAddressChar, Bool.or_eq_true, beq_iff_eq] at address
  rcases address with (hex | rfl) | rfl
  · simp only [Ipv6.hexDigit?, Char.le_def, UInt32.le_iff_toNat_le] at hex
    simp only [isControlOrSpace, Char.toNat]
    grind
  · rfl
  · rfl

/-- Characters that a test tells apart are different. -/
theorem ne_of_test {test : Char → Bool} {c d : Char} {result : Bool} (one : test c = result)
    (other : test d = !result) : c ≠ d := by
  rintro rfl
  rw [one] at other
  cases result <;> cases other

theorem endsAuthority_of_ne {c : Char} (slash : c ≠ '/') (query : c ≠ '?') (fragment : c ≠ '#') :
    endsAuthority false c = false := by
  rw [endsAuthority, beq_false_of_ne slash, beq_false_of_ne query, beq_false_of_ne fragment]
  rfl

theorem endsAuthority_of_allowed {c : Char} (allowed : isForbiddenInHost c = false) : endsAuthority false c = false :=
  endsAuthority_of_ne (ne_of_test allowed rfl) (ne_of_test allowed rfl) (ne_of_test allowed rfl)

theorem endsAuthority_of_isAddressChar {c : Char} (address : Ipv6.isAddressChar c = true) :
    endsAuthority false c = false :=
  endsAuthority_of_ne (ne_of_test address rfl) (ne_of_test address rfl) (ne_of_test address rfl)

/-! ### Hosts -/

/-- A character that does not end the host is its first. -/
theorem splitHost_cons {inBrackets isSpecial : Bool} {c : Char} (inside : c ≠ ':' ∨ inBrackets = true)
    (goes_on : endsAuthority isSpecial c = false) (rest : List Char) :
    splitHost isSpecial inBrackets (c :: rest)
      = let (host, rest) := splitHost isSpecial (if c = '[' then true else if c = ']' then false else inBrackets) rest
        (c :: host, rest) := by
  have no_end : ((c == ':' && !inBrackets) || endsAuthority isSpecial c) = false := by
    rcases inside with other | rfl
    · rw [beq_false_of_ne other, goes_on]
      rfl
    · rw [goes_on, Bool.not_true, Bool.and_false]
      rfl
  rw [splitHost, no_end, if_neg Bool.false_ne_true]

/-- A host text and the host that it gives: a name is kept, an address in brackets is written anew. -/
inductive Hosts : List Char → List Char → Prop where
  | name {text : List Char} (chars : ∀ c ∈ text, isControl c = false ∧ isForbiddenInHost c = false) : Hosts text text
  | address {text : List Char} {a : Ipv6} (read : Ipv6.ofChars? text = some a) :
    Hosts ('[' :: text ++ [']']) ('[' :: a.render ++ [']'])

namespace Hosts

variable {text host : List Char}

/-- The host that a text gives, as a text, gives itself. -/
theorem again (hosts : Hosts text host) : Hosts host host := by
  cases hosts with
  | name chars => exact .name chars
  | address read => exact .address (Ipv6.ofChars?_render read)

theorem ne_nil (hosts : Hosts text host) (some_char : text ≠ []) : host ≠ [] := by
  cases hosts with
  | name => exact some_char
  | address => exact List.cons_ne_nil _ _

theorem opaqueHost? (hosts : Hosts text host) : Url.opaqueHost? text = some host := by
  cases hosts with
  | name chars =>
    -- A bracket in front would announce an address, but it is forbidden in a name.
    have no_bracket : text.head? ≠ some '[' := by
      intro bracket
      have forbidden := (chars '[' (List.mem_of_mem_head? bracket)).2
      cases forbidden
    have allowed : text.any isForbiddenInHost = false := List.any_eq_false.mpr fun c member => by
      rw [(chars c member).2]
      exact Bool.false_ne_true
    rw [Url.opaqueHost?, if_neg no_bracket, allowed, if_neg Bool.false_ne_true,
      encode_of_kept fun c member => (chars c member).1]
  | @address text a read =>
    have closed : ('[' :: text ++ [']']).length ≥ 2 ∧ ('[' :: text ++ [']']).getLast? = some ']' := by
      rw [List.getLast?_concat]
      exact ⟨by simp, rfl⟩
    rw [Url.opaqueHost?, List.cons_append, List.head?_cons, if_pos rfl, ← List.cons_append, bracketed?, if_pos closed,
      List.cons_append, List.drop_one, List.tail_cons, List.dropLast_concat, read, Option.map_some, List.cons_append]

/-- Nothing in a host text ends the authority or the user before it. -/
theorem char (hosts : Hosts text host) :
    ∀ c ∈ text, isControlOrSpace c = false ∧ endsAuthority false c = false ∧ c ≠ '@' := by
  cases hosts with
  | name chars =>
    intro c member
    obtain ⟨printable, allowed⟩ := chars c member
    exact ⟨visible_of_printable printable (ne_of_test allowed rfl), endsAuthority_of_allowed allowed,
      ne_of_test allowed rfl⟩
  | address read =>
    simp only [List.forall_mem_append, List.forall_mem_cons]
    refine ⟨⟨⟨rfl, rfl, by decide⟩, fun c member => ?_⟩, ⟨rfl, rfl, by decide⟩, nofun⟩
    have inside := (Ipv6.ofChars?_eq_some read).2.2 c member
    exact ⟨visible_of_isAddressChar inside, endsAuthority_of_isAddressChar inside, ne_of_test inside rfl⟩

/-- A host text ends before the colon of a port. -/
theorem splitHost (hosts : Hosts text host) (rest : List Char) :
    Url.splitHost false false (text ++ ':' :: rest) = (text, ':' :: rest) := by
  cases hosts with
  | name chars =>
    induction text with
    | nil => rfl
    | cons c text ih =>
      obtain ⟨⟨_, allowed⟩, others⟩ := List.forall_mem_cons.mp chars
      rw [List.cons_append, splitHost_cons (.inl (ne_of_test allowed rfl)) (endsAuthority_of_allowed allowed),
        if_neg (ne_of_test allowed rfl), if_neg (ne_of_test allowed rfl), ih others]
  | @address text a read =>
    -- Between the brackets colons are part of the host.
    have inside (chars : ∀ c ∈ text, Ipv6.isAddressChar c = true) :
        Url.splitHost false true (text ++ ']' :: ':' :: rest) = (text ++ [']'], ':' :: rest) := by
      clear read
      induction text with
      | nil => rfl
      | cons c text ih =>
        obtain ⟨first, others⟩ := List.forall_mem_cons.mp chars
        rw [List.cons_append, splitHost_cons (.inr rfl) (endsAuthority_of_isAddressChar first),
          if_neg (ne_of_test first rfl), if_neg (ne_of_test first rfl), ih others]
        rfl
    rw [List.append_assoc, List.cons_append, List.singleton_append, splitHost_cons (.inl (by decide)) rfl, if_pos rfl,
      inside (Ipv6.ofChars?_eq_some read).2.2]
    rfl

end Hosts

theorem hosts_of_opaqueHost? {text host : List Char} (read : opaqueHost? text = some host) : Hosts host host := by
  unfold opaqueHost? at read
  split at read
  next =>
    unfold bracketed? at read
    split at read
    next =>
      obtain ⟨a, address, rfl⟩ := Option.map_eq_some_iff.mp read
      exact .address (Ipv6.ofChars?_render address)
    next => cases read
  next =>
    split at read
    next => cases read
    next allowed =>
      obtain rfl := Option.some.inj read
      -- What is left of the text is allowed, and an encoding adds nothing that is forbidden.
      apply Hosts.name
      apply mem_encode
      · intro c member printable
        refine ⟨printable, Bool.eq_false_of_not_eq_true fun forbidden => ?_⟩
        exact allowed (List.any_eq_true.mpr ⟨c, member, forbidden⟩)
      · exact ⟨rfl, rfl⟩
      · decide

/-! ### Authorities -/

theorem splitUserinfo_of_no_at {cs : List Char} (no_user : '@' ∉ cs) (isSpecial : Bool) :
    splitUserinfo isSpecial cs = (none, cs) := by
  have nothing : (cs.takeWhile (!endsAuthority isSpecial ·)).reverse.dropWhile (· ≠ '@') = [] := by
    rw [List.dropWhile_eq_nil_iff]
    intro c member
    apply decide_eq_true
    rintro rfl
    exact no_user ((List.takeWhile_prefix _).mem (List.mem_reverse.mp member))
  rw [splitUserinfo, nothing]

theorem port?_toDigits (n : Nat) :
    port? (Nat.toDigits 10 n) = if n < UInt16.size then some (some n, []) else none := by
  have digit : ∀ c ∈ Nat.toDigits 10 n, c.isDigit = true := fun c =>
    Nat.isDigit_of_mem_toDigits (by decide) (by decide)
  have all : (Nat.toDigits 10 n).takeWhile Char.isDigit = Nat.toDigits 10 n := List.takeWhile_eq_self_iff.mpr digit
  have nothing : (Nat.toDigits 10 n).dropWhile Char.isDigit = [] := List.dropWhile_eq_nil_iff.mpr digit
  -- A number may be read after a plus sign, which is no digit.
  have no_sign : ∀ rest, Nat.toDigits 10 n ≠ '+' :: rest := by
    intro rest sign
    have first := digit '+' (sign ▸ List.mem_cons_self)
    cases first
  have read := @ReadRequest.readNatural?_of_written UInt16.size _ _
    (.inl ⟨String.toList_ofList (l := Nat.toDigits 10 n), no_sign⟩)
  rw [Nat.ofDigitChars_toDigits (by decide) (by decide)] at read
  simp only [ne_eq, Nat.toDigits_ne_nil, not_false_eq_true, List.all_eq_true.mpr digit, true_and] at read
  rw [port?, all, nothing]
  simp only [Bool.not_true, Bool.false_eq_true, if_false, List.isEmpty_iff, Nat.toDigits_ne_nil, read]
  split <;> rfl

theorem lt_of_port? {cs rest : List Char} {n : Nat} (read : port? cs = some (some n, rest)) : n < UInt16.size := by
  have of_digits {digits later : List Char} (given : (if digits.isEmpty then some (none, later)
      else (Text.readNatural? UInt16.size (String.ofList digits)).map fun port => (some port, later))
        = some (some n, rest)) : n < UInt16.size := by
    split at given
    next => cases given
    next =>
      obtain ⟨m, number, same⟩ := Option.map_eq_some_iff.mp given
      cases same
      exact (ReadRequest.readNatural?_eq_some_iff.mp number).2
  unfold port? at read
  dsimp only at read
  -- By whether anything follows the digits.
  split at read
  next => exact of_digits read
  next =>
    split at read
    next => cases read
    next => exact of_digits read

/-- What follows the slashes of a locator with a host and a port is read as them, the host anew. -/
theorem withAuthority?_of_hosts {scheme : String} {text host : List Char} (hosts : Hosts text host)
    (some_char : text ≠ []) (n : Nat) :
    withAuthority? scheme (text ++ ':' :: Nat.toDigits 10 n)
      = if n < UInt16.size then some (.generic scheme (some (String.ofList host)) (some n) "") else none := by
  -- An at sign would make what stands before it a user.
  have no_user : '@' ∉ text ++ ':' :: Nat.toDigits 10 n := by
    rw [List.mem_append, List.mem_cons, not_or, not_or]
    refine ⟨fun member => (hosts.char '@' member).2.2 rfl, by decide, fun member => ?_⟩
    have digit := Nat.isDigit_of_mem_toDigits (by decide) (by decide) member
    cases digit
  have some_host : host.isEmpty = false := by
    rw [Bool.eq_false_iff, ne_eq, List.isEmpty_iff]
    exact hosts.ne_nil some_char
  rw [withAuthority?, splitUserinfo_of_no_at no_user]
  dsimp only
  rw [hosts.splitHost]
  simp only [reduceCtorEq, decide_false, Bool.false_and, Bool.false_eq_true, if_false, hosts.opaqueHost?,
    Option.bind_eq_bind, Option.bind_some, some_host, port?_toDigits]
  split <;> rfl

/-! ### Paths -/

/-- A segment that a path keeps as it is. -/
def isKept (segment : List Char) : Bool :=
  segment.all (!isEncodedInPath ·) && !isSingleDot segment && !isDoubleDot segment

/-- A path from the root on, whose segments all stand for themselves. -/
def IsResolved : List Char → Prop
  | '/' :: rest => ∀ segment ∈ splitAtEach '/' rest, isKept segment = true
  | _ => False

theorem isResolved_iff {path : List Char} :
    IsResolved path ↔ ∃ rest, path = '/' :: rest ∧ ∀ segment ∈ splitAtEach '/' rest, isKept segment = true := by
  constructor
  · intro resolved
    unfold IsResolved at resolved
    split at resolved
    next rest => exact ⟨rest, rfl, resolved⟩
    next => exact resolved.elim
  · rintro ⟨rest, rfl, kept⟩
    exact kept

/-- A segment between the slashes of a resolved path. -/
structure IsSegment (segment : List Char) : Prop where
  apart : '/' ∉ segment
  kept : isKept segment = true

theorem isSegment_nil : IsSegment [] := ⟨List.not_mem_nil, by decide +kernel⟩

/-- An encoded segment that is no dot segment is kept. -/
theorem isSegment_of_encoded {segment : List Char} (apart : '/' ∉ segment)
    (encoded : ∀ c ∈ segment, isEncodedInPath c = false) (no_double : ¬isDoubleDot segment = true)
    (no_single : ¬isSingleDot segment = true) : IsSegment segment := by
  have all : segment.all (!isEncodedInPath ·) = true :=
    List.all_eq_true.mpr fun c member => by rw [encoded c member, Bool.not_false]
  refine ⟨apart, ?_⟩
  rw [isKept, all, Bool.eq_false_of_not_eq_true no_double, Bool.eq_false_of_not_eq_true no_single]
  rfl

theorem joinSegments_append (finished : List (List Char)) {segments : List (List Char)} (some_segment : segments ≠ []) :
    joinSegments finished ++ ['/'].intercalate segments = '/' :: ['/'].intercalate (finished ++ segments) := by
  induction finished with
  | nil => rfl
  | cons segment finished ih =>
    have later : finished ++ segments ≠ [] := List.append_ne_nil_of_right_ne_nil _ some_segment
    rw [joinSegments, List.cons_append] at ih ⊢
    rw [List.cons_append, List.intercalate_cons_of_ne_nil later, ← List.cons.inj ih |>.2, List.flatMap_cons,
      List.append_assoc]

/-- Segments that are kept are joined again. -/
theorem resolveSegments_of_kept {segments : List (List Char)} (kept : ∀ segment ∈ segments, isKept segment = true)
    (some_segment : segments ≠ []) (finished : List (List Char)) :
    resolveSegments finished segments = '/' :: ['/'].intercalate (finished ++ segments) := by
  induction segments generalizing finished with
  | nil => exact absurd rfl some_segment
  | cons segment rest ih =>
    obtain ⟨first, others⟩ := List.forall_mem_cons.mp kept
    simp only [isKept, Bool.and_eq_true, Bool.not_eq_true'] at first
    obtain ⟨⟨_, no_single⟩, no_double⟩ := first
    cases rest with
    | nil =>
      rw [resolveSegments, no_double, no_single, if_neg Bool.false_ne_true, if_neg Bool.false_ne_true,
        ← joinSegments_append finished some_segment, List.intercalate_singleton]
    | cons next rest =>
      rw [resolveSegments, no_double, no_single, if_neg Bool.false_ne_true, if_neg Bool.false_ne_true,
        ih others (List.cons_ne_nil _ _), List.append_assoc, List.singleton_append]
      exact List.cons_ne_nil _ _

theorem isResolved_joinSegments {finished : List (List Char)} (segments : ∀ segment ∈ finished, IsSegment segment)
    {last : List Char} (is_last : IsSegment last) : IsResolved (joinSegments finished ++ last) := by
  have joined := joinSegments_append finished (List.cons_ne_nil last [])
  have all : ∀ segment ∈ finished ++ [last], IsSegment segment := by
    rw [List.forall_mem_append, List.forall_mem_singleton]
    exact ⟨segments, is_last⟩
  have some_segment : finished ++ [last] ≠ [] := List.append_ne_nil_of_right_ne_nil _ (List.cons_ne_nil _ _)
  rw [List.intercalate_singleton] at joined
  rw [joined, IsResolved, splitAtEach_intercalate (fun segment member => (all segment member).apart) some_segment]
  exact fun segment member => (all segment member).kept

/-- A path may end with a slash. -/
theorem isResolved_joinSegments_nil {finished : List (List Char)}
    (segments : ∀ segment ∈ finished, IsSegment segment) : IsResolved (joinSegments finished) := by
  have ended := isResolved_joinSegments segments isSegment_nil
  rwa [List.append_nil] at ended

theorem mem_of_mem_dropSegment {finished : List (List Char)} {segment : List Char}
    (member : segment ∈ dropSegment finished) : segment ∈ finished := by
  unfold dropSegment at member
  split at member
  · exact member
  · exact List.dropLast_subset _ member

/-- Whatever is resolved, the path that comes out is resolved. -/
theorem isResolved_resolveSegments {segments finished : List (List Char)}
    (done : ∀ segment ∈ finished, IsSegment segment)
    (encoded : ∀ segment ∈ segments, '/' ∉ segment ∧ ∀ c ∈ segment, isEncodedInPath c = false) :
    IsResolved (resolveSegments finished segments) := by
  -- What is finished stays fit for a resolved path: a dot segment only takes from it.
  fun_induction resolveSegments finished segments with
  | case1 finished => exact isResolved_joinSegments_nil done
  | case2 finished last double =>
    apply isResolved_joinSegments_nil
    exact fun segment member => done segment (mem_of_mem_dropSegment member)
  | case3 finished last no_double single => exact isResolved_joinSegments_nil done
  | case4 finished last no_double no_single =>
    obtain ⟨apart, chars⟩ := encoded last List.mem_cons_self
    exact isResolved_joinSegments done (isSegment_of_encoded apart chars no_double no_single)
  | case5 finished segment rest more double ih =>
    apply ih
    · exact fun segment member => done segment (mem_of_mem_dropSegment member)
    · exact (List.forall_mem_cons.mp encoded).2
  | case6 finished segment rest more no_double single ih => exact ih done (List.forall_mem_cons.mp encoded).2
  | case7 finished segment rest more no_double no_single ih =>
    obtain ⟨⟨apart, chars⟩, others⟩ := List.forall_mem_cons.mp encoded
    apply ih
    · rw [List.forall_mem_append, List.forall_mem_singleton]
      exact ⟨done, isSegment_of_encoded apart chars no_double no_single⟩
    · exact others

theorem isResolved_rootedPath (cs : List Char) : IsResolved (rootedPath cs) := by
  apply isResolved_resolveSegments (List.forall_mem_nil _)
  intro segment member
  have inside {c : Char} (within : c ∈ segment) := mem_part_iff.mp ⟨segment, member, within⟩
  -- An encoding is a percent sign and digits, which need no encoding.
  have encoded : ∀ c ∈ encode isEncodedInPath (beforeQuery cs), isEncodedInPath c = false :=
    mem_encode (fun _ _ kept => kept) rfl (by decide)
  exact ⟨fun slash => (inside slash).2 rfl, fun c within => encoded c (inside within).1⟩

theorem isResolved_pathAfterAuthority (cs : List Char) :
    pathAfterAuthority cs = [] ∨ IsResolved (pathAfterAuthority cs) := by
  unfold pathAfterAuthority
  split
  · exact .inl rfl
  · exact .inr (isResolved_rootedPath _)
  · exact .inr (isResolved_rootedPath _)

/-- No character of a resolved path is to be encoded. -/
theorem IsResolved.char {path : List Char} (resolved : IsResolved path) : ∀ c ∈ path, isEncodedInPath c = false := by
  obtain ⟨rest, rfl, kept⟩ := isResolved_iff.mp resolved
  rw [List.forall_mem_cons]
  refine ⟨rfl, fun c member => ?_⟩
  by_cases slash : c = '/'
  · rw [slash]
    rfl
  · obtain ⟨segment, there, inside⟩ := mem_part_iff.mpr ⟨member, slash⟩
    have stays := kept segment there
    simp only [isKept, Bool.and_eq_true] at stays
    exact Bool.eq_false_of_not_eq_true' (List.all_eq_true.mp stays.1.1 c inside)

theorem IsResolved.head {path : List Char} (resolved : IsResolved path) : path.head? = some '/' := by
  obtain ⟨rest, rfl, _⟩ := isResolved_iff.mp resolved
  rfl

/-- A resolved path is left as it is. -/
theorem IsResolved.pathAfterAuthority {path : List Char} (resolved : IsResolved path) :
    Url.pathAfterAuthority path = path := by
  have chars := resolved.char
  obtain ⟨rest, rfl, kept⟩ := isResolved_iff.mp resolved
  have later := (List.forall_mem_cons.mp chars).2
  -- A question mark or a number sign would have been encoded, so the query and the fragment are empty.
  have whole {cs : List Char} (plain : ∀ c ∈ cs, isEncodedInPath c = false) : beforeQuery cs = cs := by
    apply List.takeWhile_eq_self_iff.mpr
    intro c member
    rw [bne_iff_ne.mpr (ne_of_test (plain c member) rfl), bne_iff_ne.mpr (ne_of_test (plain c member) rfl)]
    rfl
  rw [Url.pathAfterAuthority, whole chars]
  change rootedPath rest = _
  rw [rootedPath, whole later, encode_of_kept later, resolveSegments_of_kept kept (splitAtEach_ne_nil '/' rest),
    List.nil_append, intercalate_splitAtEach]

/-- A resolved path after the slashes is read as itself, without a host. -/
theorem withAuthority?_of_resolved {scheme : String} {path : List Char} (resolved : IsResolved path) :
    withAuthority? scheme path = some (.generic scheme none none (String.ofList path)) := by
  have same := resolved.pathAfterAuthority
  obtain ⟨rest, rfl, _⟩ := isResolved_iff.mp resolved
  -- The slash in front ends the authority at once: no user, no host and no port.
  have no_user : splitUserinfo false ('/' :: rest) = (none, '/' :: rest) := rfl
  have no_host : splitHost false false ('/' :: rest) = ([], '/' :: rest) := rfl
  have empty : opaqueHost? [] = some [] := rfl
  rw [withAuthority?, no_user]
  simp only [reduceCtorEq, decide_false, Bool.false_and, Bool.false_eq_true, if_false, no_host, empty,
    Option.bind_eq_bind, Option.bind_some]
  change some (generic scheme none none (String.ofList (pathAfterAuthority ('/' :: rest)))) = _
  rw [same]

/-! ### Whole locators -/

/-- The form in which reading a locator gives its host, its port and its path. -/
structure IsNormal (host : Option String) (port : Option Nat) (path : String) : Prop where
  host : ∀ h, host = some h → h ≠ "" ∧ Hosts h.toList h.toList
  port : ∀ n, port = some n → n < UInt16.size
  path : path.toList.head? = some '/' → IsResolved path.toList

theorem isNormal_of_withAuthority? {scheme s : String} {cs : List Char} {host : Option String} {port : Option Nat}
    {path : String} (read : withAuthority? scheme cs = some (.generic s host port path)) :
    s = scheme ∧ IsNormal host port path ∧ (path = "" ∨ IsResolved path.toList) := by
  -- The locator is put together in one way, with a port or without.
  have of_parts {name rest : List Char} {n : Option Nat} (name_read : Hosts name name)
      (number : ∀ m, n = some m → m < UInt16.size)
      (same : Url.generic scheme (if name.isEmpty then none else some (String.ofList name)) n
        (String.ofList (pathAfterAuthority rest)) = .generic s host port path) :
      s = scheme ∧ IsNormal host port path ∧ (path = "" ∨ IsResolved path.toList) := by
    cases same
    have resolved := isResolved_pathAfterAuthority rest
    refine ⟨rfl, ⟨?_, number, ?_⟩, ?_⟩
    · intro h given
      split at given
      next => cases given
      next some_char =>
        cases given
        rw [String.toList_ofList, ne_eq, String.ofList_eq_empty_iff, ← List.isEmpty_iff]
        exact ⟨some_char, name_read⟩
    · rw [String.toList_ofList]
      intro slash
      -- Only a path that is not empty begins with a slash.
      rcases resolved with empty | resolved
      · rw [empty] at slash
        cases slash
      · exact resolved
    · rw [String.toList_ofList, String.ofList_eq_empty_iff]
      exact resolved
  unfold withAuthority? at read
  dsimp only at read
  split at read
  next => cases read
  next =>
    obtain ⟨name, name_read, read⟩ := Option.bind_eq_some_iff.mp read
    have hosts := hosts_of_opaqueHost? name_read
    split at read
    next => cases read
    next =>
      -- By whether a port follows the host.
      split at read
      next =>
        obtain ⟨⟨n, later⟩, port_read, read⟩ := Option.bind_eq_some_iff.mp read
        apply of_parts hosts _ (Option.some.inj read)
        rintro m rfl
        exact lt_of_port? port_read
      next => exact of_parts hosts (fun m given => by cases given) (Option.some.inj read)

/-- The schemes of endpoints. -/
def endpointSchemes : List String := ["tcp", "unix"]

theorem scheme?_append {scheme : String} (known : scheme ∈ endpointSchemes) (rest : List Char) :
    scheme? (scheme.toList ++ ':' :: rest) = some (scheme, rest) := by
  have of_lower {name : List Char} (lower : (String.ofList name).toLower = scheme)
      (read : scheme? (scheme.toList ++ ':' :: rest) = some ((String.ofList name).toLower, rest)) :
      scheme? (scheme.toList ++ ':' :: rest) = some (scheme, rest) := by rw [read, lower]
  simp only [endpointSchemes, List.mem_cons, List.not_mem_nil, or_false] at known
  rcases known with rfl | rfl
  · exact @of_lower ['t', 'c', 'p'] (by decide +kernel) rfl
  · exact @of_lower ['u', 'n', 'i', 'x'] (by decide +kernel) rfl

/-- What follows the two slashes of an endpoint is read as an authority, all of it where it is visible. -/
theorem ofText?_slashes {scheme : String} (known : scheme ∈ endpointSchemes) (rest : List Char) :
    ∃ tail, ofText? (String.ofList (scheme.toList ++ ':' :: '/' :: '/' :: rest)) = withAuthority? scheme tail ∧
      ((∀ c ∈ rest, isControlOrSpace c = false) → tail = rest) := by
  have visible : (scheme.toList ++ [':', '/', '/']).all (!isControlOrSpace ·) = true := by
    revert scheme
    decide
  obtain ⟨tail, counted, all⟩ := significant_append
    (fun c member => Bool.eq_false_of_not_eq_true' (List.all_eq_true.mp visible c member))
    (List.append_ne_nil_of_right_ne_nil _ (List.cons_ne_nil _ _)) rest
  have slashes (cs : List Char) :
      scheme.toList ++ ':' :: '/' :: '/' :: cs = scheme.toList ++ [':', '/', '/'] ++ cs := by
    rw [List.append_assoc]
    rfl
  refine ⟨tail, ?_, all⟩
  rw [ofText?, slashes, counted, ← slashes, scheme?_append known]
  simp only [endpointSchemes, List.mem_cons, List.not_mem_nil, or_false] at known
  rcases known with rfl | rfl <;> rfl

/-- Every locator is read in normal form. -/
theorem isNormal_of_ofText? {s scheme : String} {host : Option String} {port : Option Nat} {path : String}
    (read : ofText? s = some (.generic scheme host port path)) : IsNormal host port path := by
  obtain ⟨⟨name, rest⟩, _, read⟩ := Option.bind_eq_some_iff.mp read
  dsimp only at read
  split at read
  next => split at read <;> cases read
  next =>
    split at read
    next => split at read <;> cases read
    next =>
      -- By the slashes that follow the scheme.
      split at read
      next => exact (isNormal_of_withAuthority? read).2.1
      next later _ =>
        cases read
        refine ⟨nofun, nofun, fun _ => ?_⟩
        rw [String.toList_ofList]
        exact isResolved_rootedPath _
      next no_slash =>
        -- A path without a slash in front stays without one.
        cases read
        refine ⟨nofun, nofun, fun slash => ?_⟩
        rw [String.toList_ofList] at slash
        obtain ⟨others, front⟩ := List.head?_eq_some_iff.mp (head_encode slash)
        obtain ⟨more, text⟩ := (front ▸ List.takeWhile_prefix _ : '/' :: others <+: rest)
        exact (no_slash _ text.symm).elim

end PointStream.Url
