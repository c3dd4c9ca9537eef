import PointStream.Host.Machine
import PointStream.Proofs.Settings.Endpoint

/-!
# Listening on addresses

What a machine makes of an endpoint whose host is the literal of an address: one of version 4 stands for itself, one
of version 6 keeps the brackets that a locator needs and is looked up as a name, for which no name server is asked.

Main result: `bind_literal`.
-/

namespace PointStream.Machine

open Endpoint

variable {a : String}

/-! ### Host names -/

/-- The labels of a domain hold what it holds besides points. -/
theorem exists_label {domain : List Char} {c : Char} (member : c ∈ domain) (no_point : c ≠ '.') :
    ∃ label ∈ Url.labels domain, c ∈ label := by
  obtain ⟨part, there, inside⟩ := mem_part_iff.mpr ⟨member, no_point⟩
  unfold Url.labels
  dsimp only
  split
  next dropped =>
    -- Only an empty label is left out.
    obtain ⟨front, parts⟩ := List.getLast?_eq_some_iff.mp dropped.2
    rw [parts, List.dropLast_concat]
    rw [parts, List.mem_append, List.mem_singleton] at there
    rcases there with earlier | rfl
    · exact ⟨part, earlier, inside⟩
    · cases inside
  next => exact ⟨part, there, inside⟩

/-- A host name is made of letters, digits, hyphens, underscores and points. -/
theorem char_of_isHostName {host : String} (valid : isHostName host = true) :
    ∀ c ∈ host.toList, c = '.' ∨ c.isAlphanum = true ∨ c = '-' ∨ c = '_' := by
  intro c member
  by_cases point : c = '.'
  · exact .inl point
  · obtain ⟨label, there, inside⟩ := exists_label member point
    simp only [isHostName, Bool.or_eq_true, Bool.and_eq_true, beq_iff_eq] at valid
    rcases valid with rfl | ⟨⟨_, all⟩, _⟩
    · exact absurd (List.mem_singleton.mp member) point
    · have good := List.all_eq_true.mp all label there
      simp only [isHostLabel, Bool.and_eq_true, List.all_eq_true, Bool.or_eq_true, beq_iff_eq] at good
      exact .inr (or_assoc.mp (good.2 c inside))

/-! ### Version 4 -/

theorem exists_digitChar {c : Char} (digit : c.isDigit = true) : ∃ d < 10, c = Nat.digitChar d := by
  simp only [Char.isDigit, Bool.and_eq_true, decide_eq_true_eq, ge_iff_le, UInt32.le_iff_toNat_le] at digit
  have zero : '0'.val.toNat = 48 := rfl
  have nine : '9'.val.toNat = 57 := rfl
  have value : c.toNat = c.val.toNat := rfl
  refine ⟨c.toNat - 48, by omega, ?_⟩
  apply Char.toNat_inj.mp
  rw [Nat.toNat_digitChar_of_lt_ten (by omega)]
  omega

/-- The literal of an address of version 4 is a host that is kept. -/
theorem hosts_of_ipv4 {v : Ipv4} (literal : Ipv4.ofChars? a.toList = some v) : Url.Hosts a.toList a.toList := by
  have kept_digit : ∀ d < 10,
      Url.isControl (Nat.digitChar d) = false ∧ Url.isForbiddenInHost (Nat.digitChar d) = false := by
    decide
  apply Url.Hosts.name
  intro c member
  rcases Ipv4.char_of_ofChars? literal c member with digit | rfl
  · obtain ⟨d, small, rfl⟩ := exists_digitChar digit
    exact kept_digit d small
  · exact ⟨rfl, rfl⟩

theorem resolve_ipv4 (m : Machine) {v : Ipv4} (literal : Ipv4.ofChars? a.toList = some v) :
    m.resolve a = .ok (.v4 v) := by
  rw [resolve, IpAddress.ofText?, literal]

/-! ### Version 6 -/

/-- The host that a locator gives for an address of version 6. -/
def bracketed (v : Ipv6) : String := s!"[{String.ofList v.render}]"

theorem toList_bracketed (v : Ipv6) : (bracketed v).toList = '[' :: v.render ++ [']'] := by
  change ("[" ++ String.ofList v.render ++ "]").toList = _
  simp only [String.toList_append, String.toList_ofList]
  rfl

theorem toText_literal (a : String) (n : Nat) :
    s!"tcp://[{a}]:{n}" = (Endpoint.tcp (String.ofList ('[' :: a.toList ++ [']'])) n).toText := by
  rw [← String.toList_inj, toText_tcp, String.toList_ofList]
  change ("tcp://[" ++ a ++ "]:" ++ Nat.repr n).toList = _
  simp only [String.toList_append, Nat.toList_repr, List.append_assoc]
  rfl

/-- An address in brackets is no literal: it is looked up among the names, and no name server is asked for it. -/
theorem resolve_bracketed (m : Machine) {v : Ipv6} {cs : List Char} (literal : Ipv6.ofChars? cs = some v) :
    m.resolve (bracketed v)
      = match m.hosts.lookup (bracketed v) with
        | some address => .ok address
        | none => .error .nameUnknown := by
  have bracket : '[' ∈ (bracketed v).toList := by
    rw [toList_bracketed]
    exact List.mem_cons_self
  -- A bracket stands in no address, so the text is not a literal.
  have no_v4 : Ipv4.ofChars? (bracketed v).toList = none := by
    rw [Option.eq_none_iff_forall_ne_some]
    intro w read
    exact absurd (Ipv4.char_of_ofChars? read '[' bracket) (by decide)
  have no_v6 : Ipv6.ofChars? (bracketed v).toList = none := by
    rw [Option.eq_none_iff_forall_ne_some]
    intro w read
    exact absurd ((Ipv6.ofChars?_eq_some read).2.2 '[' bracket) (by decide)
  have no_nul : (bracketed v).contains '\x00' = false := by
    rw [String.contains_char_eq, toList_bracketed]
    apply decide_eq_false
    rw [List.cons_append, List.mem_cons, List.mem_append, List.mem_singleton, not_or, not_or]
    refine ⟨by decide, fun nul => ?_, by decide⟩
    exact absurd (Ipv6.isAddressChar_of_mem_render literal _ nul) (by decide)
  -- Nor does it stand in a host name.
  have no_name : isHostName (bracketed v) = false := by
    rw [Bool.eq_false_iff]
    intro valid
    exact absurd (char_of_isHostName valid '[' bracket) (by decide)
  rw [resolve, IpAddress.ofText?, no_v4, no_v6, no_nul, no_name]
  rfl

/-! ### Binding -/

/-- An endpoint whose host is the literal of an address is read for every port that there is. Where the address is of
version 4, binding takes the address itself. Where it is of version 6 and stands in brackets, binding takes the address
that is listed for this text as a name, and fails to resolve it if none is. -/
theorem bind_literal (m : Machine) (n : Nat) :
    (∀ (a : String) (v : Ipv4), Ipv4.ofChars? a.toList = some v →
      Endpoint.ofText s!"tcp://{a}:{n}" = (if n < UInt16.size then .ok (.tcp a n) else .error .malformed) ∧
        m.bind (.tcp a n) = (m.bindAddress (.v4 v) n).mapError (.bind s!"tcp://{a}:{n}")) ∧
      ∀ (a : String) (v : Ipv6), Ipv6.ofChars? a.toList = some v →
        Endpoint.ofText s!"tcp://[{a}]:{n}"
            = (if n < UInt16.size then .ok (.tcp (bracketed v) n) else .error .malformed) ∧
          m.bind (.tcp (bracketed v) n) = match m.hosts.lookup (bracketed v) with
            | some address => (m.bindAddress address n).mapError (.bind s!"tcp://{bracketed v}:{n}")
            | none => .error (.resolve s!"tcp://{bracketed v}:{n}" .nameUnknown) := by
  constructor
  · intro a v literal
    have some_char : a.toList ≠ [] := by
      intro nothing
      rw [nothing] at literal
      cases literal
    have read := ofText_tcp (hosts_of_ipv4 literal) some_char n
    rw [String.ofList_toList] at read
    refine ⟨read, ?_⟩
    rw [bind, bindTcp, resolve_ipv4 m literal]
    rfl
  · intro a v literal
    constructor
    · -- Reading writes the address anew between the brackets.
      have host : bracketed v = String.ofList ('[' :: v.render ++ [']']) := by
        rw [← toList_bracketed, String.ofList_toList]
      rw [toText_literal, host]
      exact ofText_tcp (.address literal) (List.append_ne_nil_of_left_ne_nil (List.cons_ne_nil _ _) _) n
    · rw [bind, bindTcp, resolve_bracketed m literal]
      cases m.hosts.lookup (bracketed v) <;> rfl

theorem loopback_literals :
    Ipv4.ofChars? "127.0.0.1".toList = some ⟨[127, 0, 0, 1]⟩ ∧
      Endpoint.ofText "tcp://127.0.0.1:9779" = .ok (.tcp "127.0.0.1" 9779) ∧
      bind {} (.tcp "127.0.0.1" 9779)
        = (bindAddress {} (.v4 ⟨[127, 0, 0, 1]⟩) 9779).mapError (.bind "tcp://127.0.0.1:9779") ∧
      Ipv6.ofChars? "0:0::1".toList = some ⟨[0, 0, 0, 0, 0, 0, 0, 1]⟩ ∧
      Endpoint.ofText "tcp://[0:0::1]:9779" = .ok (.tcp "[::1]" 9779) ∧
      bind {} (.tcp "[::1]" 9779) = .error (.resolve "tcp://[::1]:9779" .nameUnknown) := by
  have four : Ipv4.ofChars? "127.0.0.1".toList = some ⟨[127, 0, 0, 1]⟩ := by decide +kernel
  have six : Ipv6.ofChars? "0:0::1".toList = some ⟨[0, 0, 0, 0, 0, 0, 0, 1]⟩ := by decide +kernel
  have host : bracketed ⟨[0, 0, 0, 0, 0, 0, 0, 1]⟩ = "[::1]" := by decide +kernel
  have unlisted : List.lookup "[::1]" ({} : Machine).hosts = none := by decide +kernel
  have literal := bind_literal {} 9779
  obtain ⟨read_four, bound⟩ := literal.1 _ _ four
  obtain ⟨read_six, unresolved⟩ := literal.2 _ _ six
  rw [host] at read_six unresolved
  rw [unlisted] at unresolved
  exact ⟨four, read_four, bound, six, read_six, unresolved⟩

/-- The unspecified address of version 6 is not bound: in its brackets it is taken for a name that nobody knows. -/
theorem unspecified_not_bound :
    Endpoint.ofText "tcp://[::]:9779" = .ok (.tcp "[::]" 9779) ∧
      bind {} (.tcp "[::]" 9779) = .error (.resolve "tcp://[::]:9779" .nameUnknown) ∧
      ¬∀ (m : Machine) (a : String) (v : Ipv6) (n : Nat) (e : Endpoint), Ipv6.ofChars? a.toList = some v →
        Endpoint.ofText s!"tcp://[{a}]:{n}" = .ok e →
          m.bind e = (m.bindAddress (.v6 v) n).mapError (.bind e.toText) := by
  have read : Endpoint.ofText "tcp://[::]:9779" = .ok (.tcp "[::]" 9779) := by decide +kernel
  have literal : Ipv6.ofChars? "::".toList = some ⟨[0, 0, 0, 0, 0, 0, 0, 0]⟩ := by decide +kernel
  have host : bracketed ⟨[0, 0, 0, 0, 0, 0, 0, 0]⟩ = "[::]" := by decide +kernel
  have unlisted : List.lookup "[::]" ({} : Machine).hosts = none := by decide +kernel
  have failed : bind {} (.tcp "[::]" 9779) = .error (.resolve "tcp://[::]:9779" .nameUnknown) := by
    rw [bind, bindTcp, ← host, resolve_bracketed {} literal, host, unlisted]
    rfl
  refine ⟨read, failed, fun all => ?_⟩
  have bound := all {} "::" _ 9779 _ literal read
  rw [failed] at bound
  cases bound

end PointStream.Machine
