import PointStream.Proofs.Read.Request
import PointStream.Proofs.Text.Parts

/-!
# Internet addresses as they are read and written

The characters that an address can be read from, and that an address of version 6 is read back from what is written
of it.

Main result: `Ipv6.ofChars?_render`.
-/

namespace PointStream

/-! ### Version 4 -/

namespace Ipv4

theorem octet?_eq_some {cs : List Char} {n : Nat} (read : octet? cs = some n) :
    n < 256 ∧ ∀ c ∈ cs, c.isDigit = true := by
  unfold octet? at read
  split at read
  next short =>
    obtain ⟨⟨digits, written, _, all, _⟩, small⟩ := ReadRequest.readNatural?_eq_some_iff.mp read
    rw [String.toList_ofList] at written
    -- A plus sign in front is not allowed here.
    rcases written with rfl | rfl
    · exact ⟨small, List.all_eq_true.mp all⟩
    · exact absurd rfl short.2.2
  next => cases read

theorem ofChars?_eq_some {cs : List Char} {a : Ipv4} (read : ofChars? cs = some a) :
    (splitAtEach '.' cs).mapM octet? = some a.octets ∧ a.octets.length = 4 := by
  simp only [ofChars?, Option.bind_eq_bind, Option.bind_eq_some_iff] at read
  obtain ⟨octets, parts, read⟩ := read
  split at read
  next four =>
    obtain rfl := Option.some.inj read
    exact ⟨parts, four⟩
  next => cases read

/-- An address is read from digits and points alone. -/
theorem char_of_ofChars? {cs : List Char} {a : Ipv4} (read : ofChars? cs = some a) :
    ∀ c ∈ cs, c.isDigit = true ∨ c = '.' := by
  intro c member
  by_cases point : c = '.'
  · exact .inr point
  · obtain ⟨part, there, inside⟩ := mem_part_iff.mpr ⟨member, point⟩
    obtain ⟨n, _, octet⟩ := exists_of_mem (ofChars?_eq_some read).1 there
    exact .inl ((octet?_eq_some octet).2 c inside)

/-- Four octets need points between them. -/
theorem ofChars?_of_no_point {cs : List Char} (absent : '.' ∉ cs) : ofChars? cs = none := by
  rw [Option.eq_none_iff_forall_ne_some]
  intro a read
  obtain ⟨parts, four⟩ := ofChars?_eq_some read
  rw [splitAtEach_of_not_mem absent] at parts
  have one := length_of_mapM parts
  rw [four] at one
  cases one

theorem group_lt {cs : List Char} {a : Ipv4} (read : ofChars? cs = some a) : ∀ g ∈ a.groups, g < 65536 := by
  have small : ∀ n ∈ a.octets, n < 256 := by
    intro n member
    obtain ⟨part, _, octet⟩ := exists_of_mem_read (ofChars?_eq_some read).1 member
    exact (octet?_eq_some octet).1
  intro g member
  unfold groups at member
  split at member
  next w x y z octets =>
    -- Two octets to a group.
    simp only [octets, List.forall_mem_cons] at small
    simp only [List.mem_cons, List.not_mem_nil, or_false] at member
    omega
  next => cases member

end Ipv4

namespace Ipv6

/-! ### Hexadecimal digits -/

theorem hexDigit?_lt {c : Char} {d : Nat} (read : hexDigit? c = some d) : d < 16 := by
  simp only [hexDigit?, Char.le_def, UInt32.le_iff_toNat_le, Char.toNat] at read
  grind

theorem hexDigit?_digitChar : ∀ {d : Nat}, d < 16 → hexDigit? (Nat.digitChar d) = some d := by
  decide

theorem mapM_hexDigit?_toDigits (n : Nat) :
    ∃ digits, (Nat.toDigits 16 n).mapM hexDigit? = some digits ∧ digits.foldl (fun n d => n * 16 + d) 0 = n := by
  induction n using Nat.strongRecOn with
  | ind n ih =>
    rw [Nat.toDigits_eq_if (by decide)]
    split
    next small =>
      refine ⟨[n], ?_, Nat.zero_add n⟩
      rw [List.mapM_cons, hexDigit?_digitChar small]
      rfl
    next large =>
      -- The last digit comes off the end.
      obtain ⟨front, read, value⟩ := ih (n / 16) (by omega)
      refine ⟨front ++ [n % 16], ?_, ?_⟩
      · rw [List.mapM_append, read, List.mapM_cons, hexDigit?_digitChar (Nat.mod_lt n (by decide))]
        rfl
      · rw [List.foldl_append, value]
        exact Nat.div_add_mod' n 16

theorem foldl_hex_lt {digits : List Nat} (small : ∀ d ∈ digits, d < 16) (n : Nat) :
    digits.foldl (fun n d => n * 16 + d) n < (n + 1) * 16 ^ digits.length := by
  -- The induction is on the digits still to come; `n` is what those before them give.
  induction digits generalizing n with
  | nil => simp
  | cons d digits ih =>
    obtain ⟨first, others⟩ := List.forall_mem_cons.mp small
    rw [List.foldl_cons, List.length_cons]
    calc digits.foldl (fun n d => n * 16 + d) (n * 16 + d)
      _ < (n * 16 + d + 1) * 16 ^ digits.length := ih others _
      _ ≤ ((n + 1) * 16) * 16 ^ digits.length := Nat.mul_le_mul_right _ (by omega)
      _ = (n + 1) * 16 ^ (digits.length + 1) := by rw [Nat.mul_assoc, Nat.pow_succ']

/-! ### Groups -/

theorem group?_toDigits {n : Nat} (small : n < 65536) : group? (Nat.toDigits 16 n) = some n := by
  obtain ⟨digits, read, value⟩ := mapM_hexDigit?_toDigits n
  have count : 1 ≤ digits.length ∧ digits.length ≤ 4 := by
    rw [length_of_mapM read]
    exact ⟨List.length_pos_iff.mpr Nat.toDigits_ne_nil,
      (Nat.length_toDigits_le_iff (by decide) (by decide)).mpr small⟩
  rw [group?, read, Option.bind_eq_bind, Option.bind_some, if_pos count, value]

theorem isHex_of_mem_toDigits {n : Nat} {c : Char} (member : c ∈ Nat.toDigits 16 n) :
    (hexDigit? c).isSome = true := by
  obtain ⟨digits, read, _⟩ := mapM_hexDigit?_toDigits n
  obtain ⟨d, _, digit⟩ := exists_of_mem read member
  exact Option.isSome_of_eq_some digit

theorem not_mem_toDigits {n : Nat} {c : Char} (other : hexDigit? c = none) : c ∉ Nat.toDigits 16 n := by
  intro member
  have hex := isHex_of_mem_toDigits member
  rw [other] at hex
  cases hex

theorem group?_eq_some {cs : List Char} {n : Nat} (read : group? cs = some n) :
    n < 65536 ∧ ∀ c ∈ cs, (hexDigit? c).isSome = true := by
  simp only [group?, Option.bind_eq_bind, Option.bind_eq_some_iff] at read
  obtain ⟨digits, all, read⟩ := read
  split at read
  next count =>
    obtain rfl := Option.some.inj read
    constructor
    · have small : ∀ d ∈ digits, d < 16 := by
        intro d member
        obtain ⟨c, _, digit⟩ := exists_of_mem_read all member
        exact hexDigit?_lt digit
      calc digits.foldl (fun n d => n * 16 + d) 0
        _ < (0 + 1) * 16 ^ digits.length := foldl_hex_lt small 0
        _ ≤ (0 + 1) * 16 ^ 4 := Nat.mul_le_mul_left _ (Nat.pow_le_pow_right (by decide) count.2)
    · intro c member
      obtain ⟨d, _, digit⟩ := exists_of_mem all member
      exact Option.isSome_of_eq_some digit
  next => cases read

/-- A character that an address of version 6 can be read from. -/
def isAddressChar (c : Char) : Bool := (hexDigit? c).isSome || c == ':' || c == '.'

theorem isAddressChar_of_isDigit {c : Char} (digit : c.isDigit = true) : isAddressChar c = true := by
  simp only [Char.isDigit, Bool.and_eq_true, decide_eq_true_eq] at digit
  rw [isAddressChar, hexDigit?, if_pos ⟨digit.1, digit.2⟩]
  rfl

theorem isAddressChar_of_group {part : List Char} {n : Nat} (group : group? part = some n) :
    ∀ c ∈ part, isAddressChar c = true := by
  intro c inside
  rw [isAddressChar, (group?_eq_some group).2 c inside]
  rfl

/-- What the parts between the colons are read as: groups, or groups before an address of version 4. -/
theorem groups?_cases {tail : Bool} {cs : List Char} {gs : List Nat} (read : groups? tail cs = some gs) :
    (cs = [] ∧ gs = []) ∨ (splitAtEach ':' cs).mapM group? = some gs ∨
      ∃ before last first a, splitAtEach ':' cs = before ++ [last] ∧ before.mapM group? = some first ∧
        Ipv4.ofChars? last = some a ∧ gs = first ++ a.groups := by
  unfold groups? at read
  split at read
  next empty => exact .inl ⟨List.isEmpty_iff.mp empty, (Option.some.inj read).symm⟩
  next =>
    obtain ⟨before, last, parts⟩ := (List.eq_nil_or_concat' _).resolve_left (splitAtEach_ne_nil ':' cs)
    rw [parts] at read ⊢
    dsimp only at read
    -- By whether the last part is an address of version 4, where one may stand.
    rw [List.getLastD_concat, List.dropLast_concat] at read
    split at read
    next a last_read =>
      obtain ⟨first, all, rfl⟩ := Option.map_eq_some_iff.mp read
      -- It was looked for only at the end of an address.
      split at last_read
      next => exact .inr (.inr ⟨before, last, first, a, rfl, all, last_read, rfl⟩)
      next => cases last_read
    next => exact .inr (.inl read)

/-- Groups fit in sixteen bits, and are read from nothing else but address characters. -/
theorem groups?_eq_some {tail : Bool} {cs : List Char} {gs : List Nat} (read : groups? tail cs = some gs) :
    (∀ g ∈ gs, g < 65536) ∧ ∀ c ∈ cs, isAddressChar c = true := by
  have of_parts (parts : ∀ part ∈ splitAtEach ':' cs, ∀ c ∈ part, isAddressChar c = true) :
      ∀ c ∈ cs, isAddressChar c = true := by
    intro c member
    by_cases colon : c = ':'
    · rw [colon]
      rfl
    · obtain ⟨part, there, inside⟩ := mem_part_iff.mpr ⟨member, colon⟩
      exact parts part there c inside
  have of_groups {parts : List (List Char)} {ns : List Nat} (all : parts.mapM group? = some ns) :
      (∀ n ∈ ns, n < 65536) ∧ ∀ part ∈ parts, ∀ c ∈ part, isAddressChar c = true := by
    constructor
    · intro n member
      obtain ⟨part, _, group⟩ := exists_of_mem_read all member
      exact (group?_eq_some group).1
    · intro part there
      obtain ⟨n, _, group⟩ := exists_of_mem all there
      exact isAddressChar_of_group group
  rcases groups?_cases read with ⟨rfl, rfl⟩ | all | ⟨before, last, first, a, parts, all, address, rfl⟩
  · exact ⟨nofun, nofun⟩
  · exact ⟨(of_groups all).1, of_parts (of_groups all).2⟩
  · -- The last part holds digits and points.
    refine ⟨List.forall_mem_append.mpr ⟨(of_groups all).1, Ipv4.group_lt address⟩, of_parts ?_⟩
    rw [parts, List.forall_mem_append, List.forall_mem_singleton]
    refine ⟨(of_groups all).2, fun c inside => ?_⟩
    rcases Ipv4.char_of_ofChars? address c inside with digit | rfl
    · exact isAddressChar_of_isDigit digit
    · rfl

/-! ### Double colons -/

theorem eq_of_splitDouble? {cs before after : List Char} (split : splitDouble? cs = some (before, after)) :
    cs = before ++ ':' :: ':' :: after := by
  induction cs using splitDouble?.induct generalizing before with
  | case1 rest =>
    cases split
    rfl
  | case2 c rest no_double ih =>
    rw [splitDouble?] at split
    · obtain ⟨⟨front, back⟩, later, same⟩ := Option.map_eq_some_iff.mp split
      cases same
      rw [ih later, List.cons_append]
    · exact no_double
  | case3 => cases split

theorem splitDouble?_append {part : List Char} (no_colon : ':' ∉ part) (rest : List Char) :
    splitDouble? (part ++ rest) = (splitDouble? rest).map fun (before, after) => (part ++ before, after) := by
  induction part with
  | nil => cases h : splitDouble? rest <;> simp [h]
  | cons c part ih =>
    obtain ⟨other, others⟩ := List.ne_and_not_mem_of_not_mem_cons no_colon
    rw [List.cons_append, splitDouble?]
    · rw [ih others, Option.map_map]
      rfl
    · rintro later rfl
      exact absurd rfl other

theorem splitDouble?_single {c : Char} (other : c ≠ ':') (rest : List Char) :
    splitDouble? (':' :: c :: rest)
      = (splitDouble? (c :: rest)).map fun (before, after) => (':' :: before, after) := by
  rw [splitDouble?]
  intro later _ same
  exact other (List.cons.inj same).1

/-- Between parts that are not empty no double colon arises. -/
theorem splitDouble?_intercalate {parts : List (List Char)} (apart : ∀ part ∈ parts, part ≠ [] ∧ ':' ∉ part) :
    splitDouble? ([':'].intercalate parts) = none ∧
      ∀ rest, splitDouble? ([':'].intercalate parts ++ ':' :: ':' :: rest)
        = some ([':'].intercalate parts, rest) := by
  induction parts with
  | nil => exact ⟨rfl, fun rest => rfl⟩
  | cons part parts ih =>
    obtain ⟨⟨_, no_colon⟩, others⟩ := List.forall_mem_cons.mp apart
    obtain ⟨none_later, first_later⟩ := ih others
    cases parts with
    | nil =>
      rw [List.intercalate_singleton]
      constructor
      · rw [← List.append_nil part, splitDouble?_append no_colon]
        rfl
      · intro rest
        rw [splitDouble?_append no_colon, splitDouble?, Option.map_some]
        dsimp only
        rw [List.append_nil]
    | cons next parts =>
      -- The colon between two parts stands alone, for the next part begins with another character.
      obtain ⟨⟨some_char, next_no_colon⟩, _⟩ := List.forall_mem_cons.mp others
      obtain ⟨c, next, rfl⟩ := List.exists_cons_of_ne_nil some_char
      have other : c ≠ ':' := by
        rintro rfl
        exact next_no_colon List.mem_cons_self
      rw [List.intercalate_cons_cons_left] at none_later first_later
      rw [List.intercalate_cons_cons, List.intercalate_cons_cons_left, List.append_assoc, List.singleton_append]
      constructor
      · rw [splitDouble?_append no_colon, splitDouble?_single other, none_later]
        rfl
      · intro rest
        rw [List.append_assoc, splitDouble?_append no_colon, List.cons_append, List.cons_append,
          splitDouble?_single other, ← List.cons_append, first_later]
        rfl

/-! ### Written addresses -/

theorem renderGroups_apart (gs : List Nat) : ∀ part ∈ gs.map (Nat.toDigits 16), part ≠ [] ∧ ':' ∉ part := by
  intro part member
  obtain ⟨g, _, rfl⟩ := List.mem_map.mp member
  exact ⟨Nat.toDigits_ne_nil, not_mem_toDigits rfl⟩

theorem groups?_renderGroups {gs : List Nat} (small : ∀ g ∈ gs, g < 65536) (tail : Bool) :
    groups? tail (renderGroups gs) = some gs := by
  rcases gs.eq_nil_or_concat' with rfl | ⟨before, last, rfl⟩
  · rfl
  · have parts : splitAtEach ':' (renderGroups (before ++ [last])) = (before ++ [last]).map (Nat.toDigits 16) := by
      apply splitAtEach_intercalate
      · exact fun part member => (renderGroups_apart _ part member).2
      · rw [List.map_append]
        exact List.append_ne_nil_of_right_ne_nil _ (List.cons_ne_nil _ _)
    have some_char : (renderGroups (before ++ [last])).isEmpty = false := by
      rw [Bool.eq_false_iff, ne_eq, List.isEmpty_iff]
      intro empty
      have nothing : [] ∈ (before ++ [last]).map (Nat.toDigits 16) := by
        rw [← parts, empty]
        exact List.mem_singleton_self []
      exact (renderGroups_apart _ [] nothing).1 rfl
    -- The last part has no point, so it is no address of version 4.
    have no_address : Ipv4.ofChars? (((before ++ [last]).map (Nat.toDigits 16)).getLastD []) = none := by
      rw [List.map_append, List.map_singleton, List.getLastD_concat]
      exact Ipv4.ofChars?_of_no_point (not_mem_toDigits rfl)
    have all : ((before ++ [last]).map (Nat.toDigits 16)).mapM group? = some (before ++ [last]) := by
      rw [List.mapM_map]
      have read := mapM_of_each id fun g member => group?_toDigits (small g member)
      rwa [List.map_id] at read
    rw [groups?, some_char, if_neg Bool.false_ne_true, parts]
    dsimp only
    rw [no_address, ite_self]
    exact all

theorem mem_of_longest {runs : List (Nat × Nat)} {best : Option (Nat × Nat)} {run : Nat × Nat}
    (longest : runs.foldl (fun best (i, n) =>
      if 2 ≤ n ∧ best.all fun (_, m) => decide (m < n) then some (i, n) else best) best = some run) :
    best = some run ∨ (run ∈ runs ∧ 2 ≤ run.2) := by
  -- The induction is on the runs still to come, from whichever is the best so far.
  induction runs generalizing best with
  | nil => exact .inl longest
  | cons first runs ih =>
    rw [List.foldl_cons] at longest
    rcases ih longest with chosen | ⟨later, long⟩
    · dsimp only at chosen
      split at chosen
      next long =>
        obtain rfl := Option.some.inj chosen
        exact .inr ⟨List.mem_cons_self, long.1⟩
      next => exact .inl chosen
    · exact .inr ⟨List.mem_cons_of_mem _ later, long⟩

theorem eq_leadingZeros (gs : List Nat) :
    gs = List.replicate (leadingZeros gs) 0 ++ gs.drop (leadingZeros gs) := by
  have front : gs.takeWhile (· == 0) = gs.take (leadingZeros gs) :=
    List.prefix_iff_eq_take.mp (List.takeWhile_prefix _)
  have zeros : gs.takeWhile (· == 0) = List.replicate (leadingZeros gs) 0 :=
    List.eq_replicate_iff.mpr
      ⟨rfl, fun g member => beq_iff_eq.mp (List.all_eq_true.mp List.all_takeWhile g member)⟩
  rw [← zeros, front, List.take_append_drop]

/-- The longest run is one of two zeros or more. -/
theorem eq_of_longestZeros {gs : List Nat} {start n : Nat} (longest : longestZeros gs = some (start, n)) :
    2 ≤ n ∧ gs = gs.take start ++ List.replicate n 0 ++ gs.drop (start + n) := by
  rcases mem_of_longest longest with none_yet | ⟨run, long⟩
  · cases none_yet
  · obtain ⟨_, _, same⟩ := List.mem_map.mp run
    cases same
    refine ⟨long, ?_⟩
    rw [List.append_assoc, ← List.drop_drop, ← eq_leadingZeros, List.take_append_drop]

/-- The groups that an address is read as: eight, of sixteen bits each. -/
theorem ofChars?_eq_some {cs : List Char} {a : Ipv6} (read : ofChars? cs = some a) :
    a.groups.length = 8 ∧ (∀ g ∈ a.groups, g < 65536) ∧ ∀ c ∈ cs, isAddressChar c = true := by
  unfold ofChars? at read
  -- By whether a double colon stands for missing groups.
  split at read
  next =>
    obtain ⟨gs, whole, read⟩ := Option.bind_eq_some_iff.mp read
    split at read
    next eight =>
      obtain rfl := Option.some.inj read
      exact ⟨eight, groups?_eq_some whole⟩
    next => cases read
  next before after double =>
    obtain ⟨first, front, read⟩ := Option.bind_eq_some_iff.mp read
    obtain ⟨last, back, read⟩ := Option.bind_eq_some_iff.mp read
    dsimp only at read
    split at read
    next given =>
      obtain rfl := Option.some.inj read
      obtain ⟨first_small, before_chars⟩ := groups?_eq_some front
      obtain ⟨last_small, after_chars⟩ := groups?_eq_some back
      refine ⟨?_, ?_, ?_⟩
      · rw [List.length_append, List.length_append, List.length_replicate]
        omega
      · simp only [List.forall_mem_append]
        refine ⟨⟨first_small, fun g member => ?_⟩, last_small⟩
        rw [List.eq_of_mem_replicate member]
        decide
      · rw [eq_of_splitDouble? double]
        simp only [List.forall_mem_append, List.forall_mem_cons]
        exact ⟨before_chars, rfl, rfl, after_chars⟩
    next => cases read

/-- An address is read back from what is written of it. -/
theorem ofChars?_render {cs : List Char} {a : Ipv6} (read : ofChars? cs = some a) : ofChars? a.render = some a := by
  obtain ⟨eight, small, _⟩ := ofChars?_eq_some read
  unfold render
  split
  next =>
    -- No double colon is written, so the groups are all there.
    have no_double : splitDouble? (renderGroups a.groups) = none :=
      (splitDouble?_intercalate (renderGroups_apart a.groups)).1
    rw [ofChars?, no_double]
    dsimp only
    rw [groups?_renderGroups small, Option.bind_eq_bind, Option.bind_some, if_pos eight]
  next start n longest =>
    obtain ⟨long, zeros⟩ := eq_of_longestZeros longest
    -- The first double colon is the one that was written for the zeros.
    have double : splitDouble?
          (renderGroups (a.groups.take start) ++ [':', ':'] ++ renderGroups (a.groups.drop (start + n)))
        = some (renderGroups (a.groups.take start), renderGroups (a.groups.drop (start + n))) := by
      rw [List.append_assoc]
      exact (splitDouble?_intercalate (renderGroups_apart (a.groups.take start))).2 _
    have front : groups? false (renderGroups (a.groups.take start)) = some (a.groups.take start) :=
      groups?_renderGroups (fun g member => small g (List.mem_of_mem_take member)) false
    have back : groups? true (renderGroups (a.groups.drop (start + n))) = some (a.groups.drop (start + n)) :=
      groups?_renderGroups (fun g member => small g (List.mem_of_mem_drop member)) true
    have total : (a.groups.take start).length + n + (a.groups.drop (start + n)).length = 8 := by
      have count := congrArg List.length zeros
      rw [List.length_append, List.length_append, List.length_replicate] at count
      omega
    rw [ofChars?, double]
    dsimp only
    simp only [front, back, Option.bind_eq_bind, Option.bind_some]
    rw [if_pos (by omega)]
    have missing : 8 - ((a.groups.take start).length + (a.groups.drop (start + n)).length) = n := by omega
    rw [missing, ← zeros]

/-- An address is written in address characters. -/
theorem isAddressChar_of_mem_render {cs : List Char} {a : Ipv6} (read : ofChars? cs = some a) :
    ∀ c ∈ a.render, isAddressChar c = true :=
  (ofChars?_eq_some (ofChars?_render read)).2.2

end Ipv6

end PointStream
