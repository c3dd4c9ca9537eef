import PointStream.Proofs.Settings.Url
import PointStream.Settings.Endpoint

/-!
# Endpoints that are read from their own text

An endpoint that was read is read again from its text, unless it is a path that does not begin at the root. A path
from the root is read as itself exactly where no character of it is encoded, nothing of it is taken for a query or a
fragment and no segment of it is a dot segment.

Main result: `reread_iff`.
-/

namespace PointStream.Endpoint

open Url (Hosts IsResolved)

/-- The path of an endpoint, if it is one, begins at the root. -/
def IsRooted : Endpoint → Prop
  | unix path => path.toList.head? = some '/'
  | tcp .. => True

/-- The path of an endpoint, if it is one, is resolved. -/
def HasResolvedPath : Endpoint → Prop
  | unix path => IsResolved path.toList
  | tcp .. => True

/-! ### Texts -/

theorem toText_unix (path : String) :
    (unix path).toText = String.ofList ("unix".toList ++ ':' :: '/' :: '/' :: path.toList) := by
  rw [← String.toList_inj, String.toList_ofList, toText, String.toList_append]
  rfl

theorem toText_tcp (host : List Char) (n : Nat) :
    (tcp (String.ofList host) n).toText
      = String.ofList ("tcp".toList ++ ':' :: '/' :: '/' :: (host ++ ':' :: Nat.toDigits 10 n)) := by
  rw [← String.toList_inj, String.toList_ofList]
  change ("tcp://" ++ String.ofList host ++ ":" ++ Nat.repr n).toList = _
  simp only [String.toList_append, String.toList_ofList, Nat.toList_repr, List.append_assoc]
  rfl

/-! ### Reading -/

theorem ofText_eq_ok {text : String} {e : Endpoint} (read : ofText text = .ok e) :
    (∃ host n path, Url.ofText? text = some (.generic "tcp" (some host) (some n) path) ∧ e = tcp host n) ∨
      ∃ host port path, Url.ofText? text = some (.generic "unix" host port path) ∧
        ¬(path = "" ∨ path = "/") ∧ e = unix path := by
  unfold ofText at read
  -- A text that is no locator, or one of a special scheme, is refused.
  split at read
  next => cases read
  next => cases read
  next scheme host port path located =>
    split at read
    next tcp =>
      subst tcp
      -- Both a host and a port have to be there.
      split at read
      next => cases read
      next => cases read
      next host n =>
        cases read
        exact .inl ⟨host, n, path, located, rfl⟩
    next =>
      split at read
      next unix =>
        subst unix
        split at read
        next => cases read
        next some_path =>
          cases read
          exact .inr ⟨host, port, path, located, some_path, rfl⟩
      next => cases read

/-- A host text and a number are read as the host and the port. -/
theorem ofText_tcp {text host : List Char} (hosts : Hosts text host) (some_char : text ≠ []) (n : Nat) :
    ofText (tcp (String.ofList text) n).toText
      = if n < UInt16.size then .ok (tcp (String.ofList host) n) else .error .malformed := by
  have visible : ∀ c ∈ text ++ ':' :: Nat.toDigits 10 n, Url.isControlOrSpace c = false := by
    simp only [List.forall_mem_append, List.forall_mem_cons]
    refine ⟨fun c member => (hosts.char c member).1, rfl, fun c member => ?_⟩
    apply Url.visible_of_isAddressChar
    exact Ipv6.isAddressChar_of_isDigit (Nat.isDigit_of_mem_toDigits (by decide) (by decide) member)
  obtain ⟨tail, located, all⟩ := @Url.ofText?_slashes "tcp" (by decide) (text ++ ':' :: Nat.toDigits 10 n)
  rw [all visible, Url.withAuthority?_of_hosts hosts some_char] at located
  rw [ofText, toText_tcp, located]
  by_cases fits : n < UInt16.size
  · rw [if_pos fits, if_pos fits]
    rfl
  · rw [if_neg fits, if_neg fits]

/-- Whatever stands after the slashes, a path that is read is resolved. -/
theorem isResolved_of_ofText {path : String} {e : Endpoint} (read : ofText (unix path).toText = .ok e) :
    ∃ resolved : String, e = unix resolved ∧ IsResolved resolved.toList := by
  obtain ⟨tail, located, _⟩ := @Url.ofText?_slashes "unix" (by decide) path.toList
  rw [← toText_unix] at located
  rcases ofText_eq_ok read with ⟨host, n, found, other, _⟩ | ⟨host, port, found, same, some_path, rfl⟩
  · -- The scheme is not the one of ports.
    rw [located] at other
    exact absurd (Url.isNormal_of_withAuthority? other).1 (by decide)
  · rw [located] at same
    have resolved := (Url.isNormal_of_withAuthority? same).2.2.resolve_left fun nothing => some_path (.inl nothing)
    exact ⟨found, rfl, resolved⟩

theorem ofText_unix_of_resolved {path : String} (resolved : IsResolved path.toList) (not_root : path ≠ "/") :
    ofText (unix path).toText = .ok (unix path) := by
  obtain ⟨tail, located, all⟩ := @Url.ofText?_slashes "unix" (by decide) path.toList
  rw [all fun c member => Url.visible_of_kept (resolved.char c member), Url.withAuthority?_of_resolved resolved,
    String.ofList_toList] at located
  -- A resolved path has its first slash, so only the root is refused.
  have some_path : ¬(path = "" ∨ path = "/") := by
    rintro (rfl | root)
    · exact resolved.elim
    · exact not_root root
  rw [ofText, toText_unix, located]
  dsimp only
  rw [if_neg (by decide), if_pos rfl, if_neg some_path]

/-! ### Reading again -/

/-- A path that was read is resolved where it begins at the root. -/
theorem hasResolvedPath_iff {text : String} {e : Endpoint} (read : ofText text = .ok e) :
    e.HasResolvedPath ↔ e.IsRooted := by
  rcases ofText_eq_ok read with ⟨host, n, path, _, rfl⟩ | ⟨host, port, path, located, _, rfl⟩
  · exact Iff.rfl
  · exact ⟨IsResolved.head, (Url.isNormal_of_ofText? located).path⟩

theorem hasResolvedPath_of_again {e : Endpoint} (again : ofText e.toText = .ok e) : e.HasResolvedPath := by
  cases e with
  | unix path =>
    obtain ⟨resolved, same, is_resolved⟩ := isResolved_of_ofText again
    cases same
    exact is_resolved
  | tcp host port => trivial

theorem again_of_read {text : String} {e : Endpoint} (read : ofText text = .ok e) (resolved : e.HasResolvedPath) :
    ofText e.toText = .ok e := by
  rcases ofText_eq_ok read with ⟨host, n, path, located, rfl⟩ | ⟨host, port, path, _, some_path, rfl⟩
  · -- The host and the port are in the form that reading gives them.
    have normal := Url.isNormal_of_ofText? located
    obtain ⟨some_host, hosts⟩ := normal.host host rfl
    have again := ofText_tcp hosts (mt String.toList_eq_nil_iff.mp some_host) n
    rwa [String.ofList_toList, if_pos (normal.port n rfl)] at again
  · exact ofText_unix_of_resolved resolved fun root => some_path (.inr root)

/-- An endpoint that was read, or that is a path from the root other than the root itself, is read again from its text
exactly where its path is resolved; what was read is so unless it is a path that does not begin at the root. -/
theorem reread_iff (e : Endpoint)
    (given : (∃ text, ofText text = .ok e) ∨ ∃ path, e = unix path ∧ e.IsRooted ∧ path ≠ "/") :
    (ofText e.toText = .ok e ↔ e.HasResolvedPath) ∧
      ∀ text, ofText text = .ok e → (e.HasResolvedPath ↔ e.IsRooted) := by
  constructor
  · constructor
    · exact hasResolvedPath_of_again
    · intro resolved
      rcases given with ⟨text, read⟩ | ⟨path, rfl, _, not_root⟩
      · exact again_of_read read resolved
      · exact ofText_unix_of_resolved resolved not_root
  · exact fun text read => hasResolvedPath_iff read

theorem socketPaths_reread :
    ofText "unix:/run/./my socket" = .ok (unix "/run/my%20socket") ∧
      ofText (unix "/run/my%20socket").toText = .ok (unix "/run/my%20socket") ∧
      (unix "/run/my socket").IsRooted ∧
      ¬(unix "/run/my socket").HasResolvedPath := by
  have read : ofText "unix:/run/./my socket" = .ok (unix "/run/my%20socket") := by decide +kernel
  have rooted : (unix "/run/my%20socket").IsRooted := by rw [IsRooted]; decide
  have spaced_rooted : (unix "/run/my socket").IsRooted := by rw [IsRooted]; decide
  have encoded : ofText (unix "/run/my socket").toText = .ok (unix "/run/my%20socket") := by decide +kernel
  obtain ⟨again, resolved⟩ := reread_iff (unix "/run/my%20socket") (.inl ⟨_, read⟩)
  obtain ⟨spaced_again, _⟩ := reread_iff (unix "/run/my socket") (.inr ⟨_, rfl, spaced_rooted, by decide⟩)
  refine ⟨read, again.mpr ((resolved _ read).mpr rooted), spaced_rooted, fun spaced => ?_⟩
  have same := spaced_again.mpr spaced
  rw [encoded] at same
  exact absurd same (by decide)

/-- A path with a space is read as another path, and one that does not begin at the root as one that does. -/
theorem spaced_path_lost :
    ofText (unix "/run/my socket").toText = .ok (unix "/run/my%20socket") ∧
      ofText "unix:run/d.sock" = .ok (unix "run/d.sock") ∧
      ofText (unix "run/d.sock").toText = .ok (unix "/d.sock") ∧
      ¬∀ e : Endpoint, (∃ text, ofText text = .ok e) ∨ (∃ path, e = unix path ∧ e.IsRooted ∧ path ≠ "/") →
        ofText e.toText = .ok e := by
  have spaced : ofText (unix "/run/my socket").toText = .ok (unix "/run/my%20socket") := by decide +kernel
  refine ⟨spaced, by decide +kernel, by decide +kernel, fun all => ?_⟩
  have rooted : (unix "/run/my socket").IsRooted := by rw [IsRooted]; decide
  have same := all _ (.inr ⟨_, rfl, rooted, by decide⟩)
  rw [spaced] at same
  exact absurd same (by decide)

end PointStream.Endpoint
