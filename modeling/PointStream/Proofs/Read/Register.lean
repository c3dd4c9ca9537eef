import Mathlib.Data.List.Induction
import PointStream.Proofs.Read.Slot

/-!
# A slot as a register with one owner

What a slot answers is decided by its history alone: by which tokens it has issued, which of them were released,
advanced or cancelled since, and in which order. Whoever still has an old token may use it at any time, and it
does nothing.
-/

namespace PointStream.ReadSlot

/-! ### Histories -/

/-- What can be asked of a slot. A token is named by its generation, and may be a current or an old one. -/
inductive Call where
  | begin
  | advance (token : Nat)
  | release (token : Nat)
  | cancel
  | state
deriving DecidableEq

inductive Reply where
  /-- A new token, or none when the slot is taken. -/
  | token (issued : Option Nat)
  | told (done : Bool)
  | state (s : ReadState)
deriving DecidableEq

def answer (slot : ReadSlot) : Call → Reply × ReadSlot
  | .begin =>
    match slot.begin? with
    | some (token, slot) => (.token (some token), slot)
    | none => (.token none, slot)
  | .advance token => (.told (slot.advance token).1, (slot.advance token).2)
  | .release token => (.told (slot.release token).1, (slot.release token).2)
  | .cancel => (.told slot.cancel.1, slot.cancel.2)
  | .state => (.state slot.state, slot)

/-- A call with its reply. -/
structure Exchange where
  call : Call
  reply : Reply
deriving DecidableEq

namespace Exchange

def began (token : Nat) : Exchange := ⟨.begin, .token (some token)⟩

def advanced (token : Nat) : Exchange := ⟨.advance token, .told true⟩

def released (token : Nat) : Exchange := ⟨.release token, .told true⟩

end Exchange

/-- The history that calls make, and the slot they leave. -/
def recount (calls : List Call) : List Exchange × ReadSlot :=
  calls.foldl (fun (history, slot) call =>
    (history ++ [⟨call, (slot.answer call).1⟩], (slot.answer call).2)) ([], {})

/-- The exchanges with a new slot, the first one first. -/
def exchanges (calls : List Call) : List Exchange := (recount calls).1

def after (calls : List Call) : ReadSlot := (recount calls).2

theorem exchanges_snoc (calls : List Call) (call : Call) :
    exchanges (calls ++ [call]) = exchanges calls ++ [⟨call, ((after calls).answer call).1⟩] := by
  simp [exchanges, after, recount]

theorem after_snoc (calls : List Call) (call : Call) :
    after (calls ++ [call]) = ((after calls).answer call).2 := by
  simp [after, recount]

/-! ### What a history says of a token -/

def Issued (history : List Exchange) (token : Nat) : Prop := .began token ∈ history

/-- The token was issued and not released since. -/
def Outstanding (history : List Exchange) (token : Nat) : Prop :=
  ∃ before since, history = before ++ .began token :: since ∧ .released token ∉ since

/-- There was a cancel after the token was issued and before it was released. -/
def CancelledInTime (history : List Exchange) (token : Nat) : Prop :=
  ∃ before between cancel since, history = before ++ .began token :: (between ++ cancel :: since) ∧
    cancel.call = .cancel ∧ .released token ∉ between

/-- An exchange was the last one, or some exchanges came between it and the last one. -/
theorem snoc_eq_append_cons {history before since : List Exchange} {last e : Exchange} :
    history ++ [last] = before ++ e :: since ↔
      (history = before ∧ last = e ∧ since = []) ∨
        ∃ between, history = before ++ e :: between ∧ since = between ++ [last] := by
  constructor
  · intro same
    rcases List.eq_nil_or_concat since with rfl | ⟨between, final, rfl⟩
    · obtain ⟨rfl, one⟩ := List.append_inj' same rfl
      exact .inl ⟨rfl, List.singleton_inj.mp one, rfl⟩
    · have split : history ++ [last] = (before ++ e :: between) ++ [final] := by simpa using same
      obtain ⟨rfl, one⟩ := List.append_inj' split rfl
      obtain rfl := List.singleton_inj.mp one
      exact .inr ⟨between, rfl, List.concat_eq_append⟩
  · rintro (⟨rfl, rfl, rfl⟩ | ⟨between, rfl, rfl⟩)
    · rfl
    · simp

theorem Outstanding.issued {history : List Exchange} {token : Nat} (outstanding : Outstanding history token) :
    Issued history token := by
  obtain ⟨before, since, rfl, -⟩ := outstanding
  simp [Issued]

theorem outstanding_snoc {history : List Exchange} {last : Exchange} {token : Nat} :
    Outstanding (history ++ [last]) token ↔
      last = .began token ∨ Outstanding history token ∧ last ≠ .released token := by
  constructor
  · rintro ⟨before, since, split, unreleased⟩
    rcases snoc_eq_append_cons.mp split with ⟨-, begins, -⟩ | ⟨between, earlier, rfl⟩
    · exact .inl begins
    · simp only [List.mem_append, List.mem_singleton, not_or] at unreleased
      exact .inr ⟨⟨before, between, earlier, unreleased.1⟩, Ne.symm unreleased.2⟩
  · rintro (rfl | ⟨⟨before, since, rfl, unreleased⟩, kept⟩)
    · exact ⟨history, [], rfl, List.not_mem_nil⟩
    · refine ⟨before, since ++ [last], by simp, ?_⟩
      simp [unreleased, kept.symm]

theorem cancelledInTime_snoc {history : List Exchange} {last : Exchange} {token : Nat} :
    CancelledInTime (history ++ [last]) token ↔
      CancelledInTime history token ∨ Outstanding history token ∧ last.call = .cancel := by
  constructor
  · rintro ⟨before, between, cancel, since, split, cancels, unreleased⟩
    rcases snoc_eq_append_cons.mp split with ⟨-, -, none⟩ | ⟨between', earlier, same⟩
    · simp at none
    · -- The cancel itself is the last exchange, or it is an earlier one.
      rcases snoc_eq_append_cons.mp same.symm with ⟨rfl, rfl, -⟩ | ⟨since', rfl, -⟩
      · exact .inr ⟨⟨before, between', earlier, unreleased⟩, cancels⟩
      · exact .inl ⟨before, between, cancel, since', earlier, cancels, unreleased⟩
  · rintro (⟨before, between, cancel, since, rfl, cancels, unreleased⟩ | ⟨⟨before, since, rfl, unreleased⟩, cancels⟩)
    · exact ⟨before, between, cancel, since ++ [last], by simp, cancels, unreleased⟩
    · exact ⟨before, since, last, [], by simp, cancels, unreleased⟩

/-! ### What a call does -/

theorem fst_advance (slot : ReadSlot) (token : Nat) : (slot.advance token).1 = slot.isHeldBy token := by
  unfold advance
  cases slot.isHeldBy token <;> rfl

theorem fst_release (slot : ReadSlot) (token : Nat) : (slot.release token).1 = slot.isHeldBy token := by
  unfold release
  cases slot.isHeldBy token <;> rfl

theorem advance_of_not_held {slot : ReadSlot} {token : Nat} (other : slot.isHeldBy token = false) :
    slot.advance token = (false, slot) := by
  simp [advance, other]

theorem release_of_not_held {slot : ReadSlot} {token : Nat} (other : slot.isHeldBy token = false) :
    slot.release token = (false, slot) := by
  simp [release, other]

/-- A call with its reply, and what it leaves of a slot. -/
inductive Turn (slot : ReadSlot) : Exchange → ReadSlot → Prop
  | began (free : slot.active = none) :
    Turn slot (.began (slot.issued + 1))
      { slot with active := some ⟨slot.issued + 1, false⟩, issued := slot.issued + 1 }
  | advanced {read : ActiveRead} (held : slot.active = some read) :
    Turn slot (.advanced read.generation) { slot with active := some ⟨read.generation, true⟩ }
  | released {read : ActiveRead} (held : slot.active = some read) :
    Turn slot (.released read.generation) { slot with active := none }
  | cancelled {read : ActiveRead} (held : slot.active = some read) :
    Turn slot ⟨.cancel, .told true⟩ { slot with cancelled := read.generation :: slot.cancelled }
  /-- The slot stays as it is. -/
  | passed {e : Exchange} (begins : ∀ token, e ≠ .began token) (advances : ∀ token, e ≠ .advanced token)
    (releases : ∀ token, e ≠ .released token) (cancels : e.call = .cancel → slot.active = none) : Turn slot e slot

theorem turn (slot : ReadSlot) (call : Call) : Turn slot ⟨call, (slot.answer call).1⟩ (slot.answer call).2 := by
  cases call with
  | begin =>
    cases active : slot.active with
    | none =>
      simp only [answer, begin?, active]
      exact .began active
    | some read =>
      simp only [answer, begin?, active]
      exact .passed nofun nofun nofun nofun
  | advance token =>
    cases held : slot.isHeldBy token with
    | true =>
      obtain ⟨read, active, rfl⟩ := isHeldBy_iff.mp held
      simp only [answer, advance_of_held active]
      exact .advanced active
    | false =>
      simp only [answer, advance_of_not_held held]
      exact .passed nofun nofun nofun nofun
  | release token =>
    cases held : slot.isHeldBy token with
    | true =>
      obtain ⟨read, active, rfl⟩ := isHeldBy_iff.mp held
      simp only [answer, release_of_held active]
      exact .released active
    | false =>
      simp only [answer, release_of_not_held held]
      exact .passed nofun nofun nofun nofun
  | cancel =>
    cases active : slot.active with
    | none =>
      simp only [answer, cancel, active]
      exact .passed nofun nofun nofun fun _ => active
    | some read =>
      have cancels : slot.cancel = (true, { slot with cancelled := read.generation :: slot.cancelled }) := by
        simp [cancel, active]
      simp only [answer, cancels]
      exact .cancelled active
  | state => exact .passed nofun nofun nofun nofun

/-! ### The tokens of a history -/

/-- How the tokens of a history were used, when `issued` of them were issued. -/
structure Tokens (history : List Exchange) (issued : Nat) : Prop where
  bounded : ∀ token, Issued history token → 0 < token ∧ token ≤ issued
  counted : issued ≤ history.countP (·.call = .begin)
  /-- Only tokens that were issued do anything. -/
  used : ∀ token, .advanced token ∈ history ∨ .released token ∈ history → Issued history token
  unreleased : ∀ token, Outstanding history token → .released token ∉ history
  once : ∀ token, history.count (.released token) ≤ 1

variable {history : List Exchange} {issued : Nat}

theorem Tokens.new (tokens : Tokens history issued) : ¬Issued history (issued + 1) := by
  intro known
  have bound := (tokens.bounded _ known).2
  omega

theorem Tokens.began (tokens : Tokens history issued) :
    Tokens (history ++ [.began (issued + 1)]) (issued + 1) := by
  constructor
  · intro token known
    rcases List.mem_append.mp known with earlier | now
    · have bound := tokens.bounded token earlier
      omega
    · cases List.mem_singleton.mp now
      exact ⟨Nat.succ_pos _, Nat.le_refl _⟩
  · rw [List.countP_append]
    exact Nat.add_le_add_right tokens.counted 1
  · intro token used
    refine List.mem_append_left _ (tokens.used token ?_)
    rcases used with used | used <;> rcases List.mem_append.mp used with earlier | now
    · exact .inl earlier
    · cases List.mem_singleton.mp now
    · exact .inr earlier
    · cases List.mem_singleton.mp now
  · intro token outstanding used
    rcases List.mem_append.mp used with earlier | now
    · rcases outstanding_snoc.mp outstanding with same | ⟨still, -⟩
      · -- A new token was not released before.
        cases same
        exact tokens.new (tokens.used _ (.inr earlier))
      · exact tokens.unreleased token still earlier
    · cases List.mem_singleton.mp now
  · intro token
    rw [List.count_append, List.count_singleton, if_neg (by nofun)]
    exact tokens.once token

/-- Any other exchange with a token is one with a token that is outstanding. -/
theorem Tokens.other (tokens : Tokens history issued) {e : Exchange} (begins : ∀ token, e ≠ .began token)
    (advances : ∀ token, e = .advanced token → Outstanding history token)
    (releases : ∀ token, e = .released token → Outstanding history token) : Tokens (history ++ [e]) issued := by
  constructor
  · intro token known
    rcases List.mem_append.mp known with earlier | now
    · exact tokens.bounded token earlier
    · exact absurd (List.mem_singleton.mp now).symm (begins token)
  · rw [List.countP_append]
    exact Nat.le_add_right_of_le tokens.counted
  · intro token used
    apply List.mem_append_left
    rcases used with used | used <;> rcases List.mem_append.mp used with earlier | now
    · exact tokens.used token (.inl earlier)
    · exact (advances token (List.mem_singleton.mp now).symm).issued
    · exact tokens.used token (.inr earlier)
    · exact (releases token (List.mem_singleton.mp now).symm).issued
  · intro token outstanding used
    rcases outstanding_snoc.mp outstanding with same | ⟨still, kept⟩
    · exact begins token same
    · rcases List.mem_append.mp used with earlier | now
      · exact tokens.unreleased token still earlier
      · exact kept (List.mem_singleton.mp now).symm
  · intro token
    rw [List.count_append, List.count_singleton]
    by_cases same : e = .released token
    · -- What is released now was outstanding, hence not released before.
      have first := tokens.unreleased token (releases token same)
      rw [List.count_eq_zero_of_not_mem first, same]
      simp
    · rw [if_neg (by simpa using same)]
      exact tokens.once token

/-! ### What a history says of the slot -/

/-- The slot is as its history says. -/
structure Records (history : List Exchange) (slot : ReadSlot) : Prop where
  tokens : Tokens history slot.issued
  owner : ∀ token, Outstanding history token ↔ slot.isHeldBy token = true
  streaming : ∀ read, slot.active = some read → (read.streaming = true ↔ .advanced read.generation ∈ history)
  flags : ∀ token, slot.isCancelled token = true ↔ CancelledInTime history token

theorem records_new : Records [] {} := by
  have nothing (e : Exchange) (before since : List Exchange) : [] ≠ before ++ e :: since := by simp
  refine ⟨⟨nofun, Nat.le_refl 0, ?_, nofun, by simp⟩, ?_, nofun, ?_⟩
  · rintro token (used | used) <;> cases used
  · exact fun token => ⟨fun ⟨_, _, split, _⟩ => absurd split (nothing _ _ _), nofun⟩
  · exact fun token => ⟨nofun, fun ⟨_, _, _, _, split, _⟩ => absurd split (nothing _ _ _)⟩

variable {slot : ReadSlot}

theorem Records.holder (records : Records history slot) {read : ActiveRead} (held : slot.active = some read)
    {token : Nat} : Outstanding history token ↔ read.generation = token := by
  rw [records.owner, isHeldBy_iff, held]
  simp

theorem Records.nobody (records : Records history slot) (free : slot.active = none) (token : Nat) :
    ¬Outstanding history token := by
  rw [records.owner, isHeldBy, free]
  rintro ⟨⟩

/-- A call that leaves the slot as it is tells nothing new of its tokens. -/
theorem Records.passed (records : Records history slot) {e : Exchange} (begins : ∀ token, e ≠ .began token)
    (advances : ∀ token, e ≠ .advanced token) (releases : ∀ token, e ≠ .released token)
    (cancels : e.call = .cancel → slot.active = none) : Records (history ++ [e]) slot := by
  constructor
  · exact records.tokens.other begins (fun token same => absurd same (advances token))
      fun token same => absurd same (releases token)
  · intro token
    rw [outstanding_snoc, records.owner]
    simp [begins, releases]
  · intro read held
    rw [records.streaming read held, List.mem_append, List.mem_singleton]
    exact ⟨.inl, fun used => used.resolve_right (advances _).symm⟩
  · intro token
    rw [cancelledInTime_snoc, records.flags]
    refine ⟨.inl, fun cancelled => cancelled.resolve_right ?_⟩
    rintro ⟨outstanding, cancel⟩
    exact records.nobody (cancels cancel) token outstanding

theorem Records.turn (records : Records history slot) {e : Exchange} {slot' : ReadSlot} (turn : Turn slot e slot') :
    Records (history ++ [e]) slot' := by
  cases turn with
  | passed begins advances releases cancels => exact records.passed begins advances releases cancels
  | began free =>
    constructor
    · exact records.tokens.began
    · intro token
      rw [outstanding_snoc]
      simp [records.nobody free, Exchange.began, isHeldBy]
    · rintro read ⟨rfl⟩
      -- A new token has not been advanced.
      simp only [Bool.false_eq_true, false_iff, List.mem_append, List.mem_singleton, not_or]
      exact ⟨fun used => records.tokens.new (records.tokens.used _ (.inl used)), by rintro ⟨⟩⟩
    · intro token
      rw [cancelledInTime_snoc, ← records.flags]
      simp [isCancelled, Exchange.began]
  | @advanced read held =>
    constructor
    · refine records.tokens.other (by rintro _ ⟨⟩) ?_ (by rintro _ ⟨⟩)
      rintro token ⟨rfl⟩
      exact (records.holder held).mpr rfl
    · intro token
      rw [outstanding_snoc, records.holder held]
      simp [isHeldBy, Exchange.advanced, Exchange.began, Exchange.released]
    · rintro read' ⟨rfl⟩
      simp
    · intro token
      rw [cancelledInTime_snoc, ← records.flags]
      simp [isCancelled, Exchange.advanced]
  | @released read held =>
    constructor
    · refine records.tokens.other (by rintro _ ⟨⟩) (by rintro _ ⟨⟩) ?_
      rintro token ⟨rfl⟩
      exact (records.holder held).mpr rfl
    · intro token
      rw [outstanding_snoc, records.holder held]
      simp [isHeldBy, Exchange.began, Exchange.released]
    · rintro _ ⟨⟩
    · intro token
      rw [cancelledInTime_snoc, ← records.flags]
      simp [isCancelled, Exchange.released]
  | @cancelled read held =>
    constructor
    · exact records.tokens.other (by rintro _ ⟨⟩) (by rintro _ ⟨⟩) (by rintro _ ⟨⟩)
    · intro token
      rw [outstanding_snoc, records.owner]
      simp [isHeldBy, Exchange.began, Exchange.released]
    · intro read' held'
      rw [records.streaming read' held']
      simp [Exchange.advanced]
    · intro token
      rw [cancelledInTime_snoc, records.holder held, ← records.flags]
      simp only [isCancelled, List.contains_cons, Bool.or_eq_true, beq_iff_eq, and_true]
      exact or_comm.trans (or_congr_right eq_comm)

theorem records_after (calls : List Call) : Records (exchanges calls) (after calls) := by
  induction calls using List.reverseRecOn with
  | nil => exact records_new
  | append_singleton calls call ih =>
    rw [exchanges_snoc, after_snoc]
    exact ih.turn ((after calls).turn call)

/-! ### The slot as a register -/

theorem Records.begin?_eq_none_iff (records : Records history slot) :
    slot.begin? = none ↔ ∃ token, Outstanding history token := by
  cases active : slot.active with
  | none => simp [begin?, active, records.nobody active]
  | some read => simp [begin?, active, records.holder active]

theorem Records.cancel_iff (records : Records history slot) :
    slot.cancel.1 = true ↔ ∃ token, Outstanding history token := by
  cases active : slot.active with
  | none => simp [cancel, active, records.nobody active]
  | some read => simp [cancel, active, records.holder active]

theorem Records.state_eq_idle_iff (records : Records history slot) :
    slot.state = .idle ↔ ∀ token, ¬Outstanding history token := by
  cases active : slot.active with
  | none => simp [state, active, records.nobody active]
  | some read =>
    have busy : slot.state ≠ .idle := by
      simp only [state, active]
      split <;> simp
    simp [busy, records.holder active]

theorem Records.state_eq_streaming_iff (records : Records history slot) :
    slot.state = .streaming ↔ ∃ token, Outstanding history token ∧ .advanced token ∈ history := by
  cases active : slot.active with
  | none => simp [state, active, records.nobody active]
  | some read =>
    simp only [records.holder active, exists_eq_left', ← records.streaming read active]
    cases streaming : read.streaming <;> simp [state, active, streaming]

theorem Records.state_eq_reading_iff (records : Records history slot) :
    slot.state = .reading ↔ ∃ token, Outstanding history token ∧ .advanced token ∉ history := by
  cases active : slot.active with
  | none => simp [state, active, records.nobody active]
  | some read =>
    simp only [records.holder active, exists_eq_left', ← records.streaming read active]
    cases streaming : read.streaming <;> simp [state, active, streaming]

/-- A flag that is set stays. -/
theorem isCancelled_later {calls : List Call} {token : Nat} (cancelled : (after calls).isCancelled token = true)
    (later : List Call) : (after (calls ++ later)).isCancelled token = true := by
  induction later using List.reverseRecOn with
  | nil => rwa [List.append_nil]
  | append_singleton later call ih =>
    rw [(records_after _).flags] at ih ⊢
    rw [← List.append_assoc, exchanges_snoc]
    exact cancelledInTime_snoc.mpr (.inl ih)

theorem state_of_turn {e : Exchange} {slot' : ReadSlot} (turn : Turn slot e slot')
    (streams : slot.state = .streaming) : slot'.state = .streaming ∨ slot'.state = .idle := by
  cases turn with
  | began free => simp [state, free] at streams
  | advanced => exact .inl rfl
  | released => exact .inr rfl
  | cancelled | passed => exact .inl streams

/-- A slot that streams goes on streaming until it is idle. -/
theorem streaming_until_idle {early : List Call} (streams : (after early).state = .streaming) (between : List Call) :
    (after (early ++ between)).state = .streaming ∨
      ∃ first, first <+: between ∧ (after (early ++ first)).state = .idle := by
  induction between using List.reverseRecOn with
  | nil => exact .inl (by rwa [List.append_nil])
  | append_singleton between call ih =>
    rw [← List.append_assoc, after_snoc]
    rcases ih with still | ⟨first, reached, idle⟩
    · rcases state_of_turn ((after (early ++ between)).turn call) still with streaming | idle
      · exact .inl streaming
      · refine .inr ⟨between ++ [call], List.prefix_rfl, ?_⟩
        rw [← List.append_assoc, after_snoc]
        exact idle
    · exact .inr ⟨first, reached.trans (List.prefix_append between [call]), idle⟩

/-- Whatever calls are made of a slot, with whatever tokens, at most one token is outstanding and all that is told is
decided by which. A new token is refused exactly when there is one, and otherwise greater than all tokens before it,
as many as there were calls for one at most. Advancing and releasing succeed exactly for the outstanding token, and
leave the slot untouched otherwise, so each token is released at most once. The flag of a token is that of a cancel
in the time when it was outstanding, and stays. The state is that of the outstanding token, and a slot that streams
does not read again before it was idle. -/
theorem slot_is_register (calls : List Call) :
    let history := exchanges calls
    let slot := after calls
    (∀ one other, Outstanding history one → Outstanding history other → one = other) ∧
    (slot.begin? = none ↔ ∃ token, Outstanding history token) ∧
    (∀ token slot', slot.begin? = some (token, slot') → token ≤ history.countP (·.call = .begin) + 1 ∧
      ∀ earlier, Issued history earlier → earlier < token) ∧
    (∀ token,
      ((slot.advance token).1 = true ↔ Outstanding history token) ∧
      ((slot.advance token).1 = false → (slot.advance token).2 = slot) ∧
      ((slot.release token).1 = true ↔ Outstanding history token) ∧
      ((slot.release token).1 = false → (slot.release token).2 = slot) ∧
      history.count (.released token) ≤ 1) ∧
    (slot.cancel.1 = true ↔ ∃ token, Outstanding history token) ∧
    (∀ token, (slot.isCancelled token = true ↔ CancelledInTime history token) ∧
      ∀ later, slot.isCancelled token = true → (after (calls ++ later)).isCancelled token = true) ∧
    (slot.state = .idle ↔ ∀ token, ¬Outstanding history token) ∧
    (slot.state = .streaming ↔ ∃ token, Outstanding history token ∧ .advanced token ∈ history) ∧
    (slot.state = .reading ↔ ∃ token, Outstanding history token ∧ .advanced token ∉ history) ∧
    (slot.state = .streaming → ∀ later, (after (calls ++ later)).state = .reading →
      ∃ first, first <+: later ∧ (after (calls ++ first)).state = .idle) := by
  intro history slot
  have records : Records history slot := records_after calls
  refine ⟨?_, records.begin?_eq_none_iff, ?_, fun token => ⟨?_, ?_, ?_, ?_, records.tokens.once token⟩,
    records.cancel_iff, fun token => ⟨records.flags token, ?_⟩, records.state_eq_idle_iff,
    records.state_eq_streaming_iff, ?_, ?_⟩
  · intro one other first second
    rw [records.owner] at first second
    obtain ⟨read, held, rfl⟩ := isHeldBy_iff.mp first
    exact ((records.holder held).mp ((records.owner other).mpr second))
  · intro token slot' began
    obtain rfl : slot.issued + 1 = token := by
      unfold begin? at began
      split at began
      next => cases began
      next => exact congrArg Prod.fst (Option.some.inj began)
    refine ⟨Nat.succ_le_succ records.tokens.counted, fun earlier known => ?_⟩
    exact Nat.lt_succ_of_le (records.tokens.bounded earlier known).2
  · rw [fst_advance, records.owner]
  · intro refused
    rw [fst_advance] at refused
    rw [advance_of_not_held refused]
  · rw [fst_release, records.owner]
  · intro refused
    rw [fst_release] at refused
    rw [release_of_not_held refused]
  · exact fun later cancelled => isCancelled_later cancelled later
  · exact records.state_eq_reading_iff
  · intro streams later reads
    rcases streaming_until_idle streams later with still | reached
    · rw [reads] at still
      cases still
    · exact reached

/-- A first read is cancelled and ends, and a second one gets as far as streaming. -/
def twoReads : List Call := [.begin, .cancel, .release 1, .begin, .advance 2]

/-- A late release of the first read does not touch the second one. -/
theorem late_release_refused :
    let slot := after twoReads
    Outstanding (exchanges twoReads) 2 ∧ slot.release 1 = (false, slot) ∧ slot.isCancelled 1 = true ∧
      slot.isCancelled 2 = false ∧ slot.state = .streaming := by
  intro slot
  obtain ⟨single, -, -, tokens, -, -, -, streams, -⟩ := slot_is_register twoReads
  have current : Outstanding (exchanges twoReads) 2 :=
    ⟨[⟨.begin, .token (some 1)⟩, ⟨.cancel, .told true⟩, .released 1], [.advanced 2], rfl, by decide⟩
  obtain ⟨-, -, released, kept, -⟩ := tokens 1
  have refused : (slot.release 1).1 = false := by
    rw [← Bool.not_eq_true]
    exact fun done => absurd (single 1 2 (released.mp done) current) (by decide)
  refine ⟨current, Prod.ext refused (kept refused), by decide, by decide, ?_⟩
  exact streams.mpr ⟨2, current, by decide⟩

end PointStream.ReadSlot
