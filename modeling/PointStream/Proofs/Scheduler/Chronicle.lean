import PointStream.Proofs.Scheduler.Events
import PointStream.Proofs.Scheduler.Stopping

/-!
# What becomes of every read

In every run whatever, also where callbacks abort or the scheduler is shut down, what is pending and what has been
shown tell together where each read stands. A read that nothing pending carries any more has shown all and given
its slot back, or its callback aborted and it keeps the slot, or a queue that was no longer served refused to take
it on.
-/

namespace PointStream

namespace Scheduler

/-! ### How reads come out -/

/-- What a read shows whose callback aborts: it ends with the answer. -/
inductive Halted (c : Claim) : List Event → Prop
  | undecodable (rejection : Rejection)
      (refused : ReadCommand.ofArguments c.source c.positional c.generation = .error rejection) :
      Halted c [refusal c.session c.callback rejection.message]
  | failed (command : ReadCommand) (reason : String) (made : c.Makes command)
      (fails : failure? (queryResult command) = some reason) :
      Halted c [.reported c.session (.readFailed c.generation reason),
        refusal c.session c.callback reason]
  | accepted (filled : ReadCommand) (fills : c.Fills filled) :
      Halted c [.reported c.session (.readAccepted c.generation filled.numPoints filled.numBytes),
        .answered c.session c.callback (.read (.accepted filled.numPoints filled.numBytes))]

/-- How a read has come out, and whether it still holds its slot. Only a lossy scheduler drops reads. -/
inductive Settled (lossy : Prop) (c : Claim) (held : Bool) (events : List Event) : Prop
  | complete (calm : c.callback.aborts = false) (all : Lifecycle c events) (free : held = false)
  | halted (aborts : c.callback.aborts = true) (cut : Halted c events) (stuck : held = true)
  | dropped (loses : lossy) (begun : events = [] ∨ ∃ filled, c.Fills filled ∧ events = acceptance c filled)
      (free : held = false)

/-- Nothing pending carries the claim of a slot. -/
def Forsaken (items : Multiset Item) (id generation : Nat) : Prop :=
  ∀ i ∈ items, i.token? ≠ some (id, generation)

/-- The callback of a read that streams has taken its answer. -/
def Claim.Streams (c : Claim) (i : Item) : Prop := i.stage = .streaming → c.callback.aborts = false

/-- What a history, the pending items and the sessions tell together. -/
structure Chronicle (lossy : Prop) (history : List Occurrence) (items : Multiset Item) (x : Nat → Session) :
    Prop where
  carried : ∀ id, holders id items ≤ ↑(x id).slot.active.toList
  latest : ∀ id read, (x id).slot.active = some read → read.generation = (x id).slot.issued
  known : ∀ id read, (x id).slot.active = some read →
    ∃ c ∈ claims history, c.session = id ∧ c.generation = read.generation
  underway : ∀ i ∈ items, ∀ id generation, i.token? = some (id, generation) →
    ∃ c ∈ claims history, c.session = id ∧ c.generation = generation ∧
      Underway c i (eventsOf id generation history) ∧ c.Streams i
  settled : ∀ c ∈ claims history, Forsaken items c.session c.generation →
    Settled lossy c ((x c.session).slot.isHeldBy c.generation) (eventsOf c.session c.generation history)
  issued : ∀ c ∈ claims history, c.generation ≤ (x c.session).slot.issued
  distinct : (claims history).Pairwise fun c d => c.session = d.session → c.generation < d.generation
  ordered : ∀ id, (turns id history).Pairwise (· ≤ ·)
  claimed : ∀ id, ∀ generation ∈ turns id history,
    ∃ c ∈ claims history, c.session = id ∧ c.generation = generation

theorem chronicle_start (lossy : Prop) (n : Nat) :
    Chronicle lossy [] (start n).pending (start n).sessions := by
  rw [pending_start]
  constructor <;> simp [claims, turns, start]

theorem forsaken_add {items more : Multiset Item} {id generation : Nat} :
    Forsaken (items + more) id generation ↔ Forsaken items id generation ∧ Forsaken more id generation := by
  simp [Forsaken, or_imp, forall_and]

namespace Chronicle

variable {lossy : Prop} {history : List Occurrence} {o : Occurrence} {items consumed produced rest : Multiset Item}
  {x x' : Nat → Session}

/-- A slot whose session has a carrier is held by it, and by nothing else that is pending. -/
theorem held_by {i : Item} {id generation : Nat} (told : Chronicle lossy history ({i} + rest) x)
    (token : i.token? = some (id, generation)) :
    (x id).slot.active = some ⟨generation, i.stage = .streaming⟩ ∧ holders id rest = 0 := by
  have carried := told.carried id
  rw [holders_add, holders_singleton, holder?_of_token token, Option.toList_some, Multiset.coe_singleton,
    Multiset.singleton_add] at carried
  cases active : (x id).slot.active with
  | none =>
    rw [active] at carried
    exact absurd (Multiset.le_zero.mp carried) (Multiset.cons_ne_zero)
  | some read =>
    rw [active, Option.toList_some, Multiset.coe_singleton] at carried
    -- The slot has room for one holder, and the carrier is it.
    obtain ⟨same, alone⟩ : read = ⟨generation, i.stage = .streaming⟩ ∧ holders id rest = 0 := by
      have size := Multiset.card_le_card carried
      rw [Multiset.card_cons, Multiset.card_singleton] at size
      have alone : holders id rest = 0 := Multiset.card_eq_zero.mp (by omega)
      rw [alone, Multiset.cons_zero, Multiset.singleton_le, Multiset.mem_singleton] at carried
      exact ⟨carried.symm, alone⟩
    exact ⟨by rw [same], alone⟩

theorem turn_le (told : Chronicle lossy history items x) {id generation : Nat}
    (turn : generation ∈ turns id history) : generation ≤ (x id).slot.issued := by
  obtain ⟨c, member, rfl, rfl⟩ := told.claimed id generation turn
  exact told.issued c member

/-- There is one claim for each generation of a session. -/
theorem unique (told : Chronicle lossy history items x) {c d : Claim} (one : c ∈ claims history)
    (other : d ∈ claims history) (session : c.session = d.session)
    (generation : c.generation = d.generation) : c = d := by
  -- Of two claims in their order the later one has the greater generation, whichever of `c` and `d` it is.
  let Same (c d : Claim) : Prop := c.session = d.session → c.generation = d.generation → c = d
  have forwards : (claims history).Pairwise Same :=
    told.distinct.imp fun below session generation => absurd generation (below session).ne
  have backwards : (claims history).Pairwise (flip Same) :=
    told.distinct.imp fun below session generation => absurd generation.symm (below session.symm).ne
  exact forwards.forall_of_forall_of_flip (fun _ _ _ _ => rfl) backwards one other session generation

/-- What carries a claim holds the slot for it. -/
theorem isHeldBy_of_carrier {i : Item} {id generation : Nat} (told : Chronicle lossy history items x)
    (pending : i ∈ items) (token : i.token? = some (id, generation)) :
    (x id).slot.isHeldBy generation = true := by
  obtain ⟨rest, rfl⟩ := Multiset.exists_cons_of_mem pending
  rw [← Multiset.singleton_add] at told
  simp [ReadSlot.isHeldBy, (told.held_by token).1]

/-- An item of a claim continues what its read has shown. -/
theorem underway_of {c : Claim} {i : Item} (told : Chronicle lossy history items x) (claimed : c ∈ claims history)
    (pending : i ∈ items) (token : i.token? = some (c.session, c.generation)) :
    Underway c i (eventsOf c.session c.generation history) := by
  obtain ⟨d, claimed_d, session, generation, underway, -⟩ := told.underway i pending _ _ token
  rwa [told.unique claimed_d claimed session generation] at underway

/-- Every claim is carried on by something pending, or nothing goes on with it any more. -/
theorem carried_or_settled {c : Claim} (told : Chronicle lossy history items x) (claimed : c ∈ claims history) :
    (∃ i ∈ items, i.token? = some (c.session, c.generation)) ∨
      Settled lossy c ((x c.session).slot.isHeldBy c.generation) (eventsOf c.session c.generation history) := by
  by_cases forsaken : Forsaken items c.session c.generation
  · exact .inr (told.settled c claimed forsaken)
  · simp only [Forsaken, not_forall, not_not] at forsaken
    obtain ⟨i, pending, token⟩ := forsaken
    exact .inl ⟨i, pending, token⟩

/-! ### Steps that work on no claim -/

/-- What a session may change without anybody taking notice: its source, which reads are cancelled, and of a free
slot how many reads have claimed it. -/
structure Overlooked (old new : ReadSlot) : Prop where
  active : new.active = old.active
  issued : old.issued ≤ new.issued
  latest : old.active ≠ none → new.issued = old.issued

theorem Overlooked.of_same {old new : ReadSlot} (active : new.active = old.active)
    (issued : new.issued = old.issued) : Overlooked old new := ⟨active, issued.ge, fun _ => issued⟩

/-- Nothing is told by a step that neither claims a slot nor works on the item of a claim. -/
theorem pass (told : Chronicle lossy history (consumed + rest) x) (unclaimed : o.claim? = none)
    (silent : o.deed.token? = none) (old : ∀ i ∈ consumed, i.token? = none)
    (new : ∀ i ∈ produced, i.token? = none) (slots : ∀ id, Overlooked (x id).slot (x' id).slot) :
    Chronicle lossy (history ++ [o]) (produced + rest) x' := by
  have claims_same : claims (history ++ [o]) = claims history := by simp [claims_snoc, unclaimed]
  have turns_same (id : Nat) := turns_snoc_of_silent silent id history
  have events_same (id generation : Nat) := eventsOf_snoc_of_silent silent id generation history
  have held_same (id generation : Nat) :
      (x' id).slot.isHeldBy generation = (x id).slot.isHeldBy generation := by
    simp [ReadSlot.isHeldBy, (slots id).active]
  have holders_none {tokenless : Multiset Item} (none_such : ∀ i ∈ tokenless, i.token? = none) (id : Nat) :
      holders id tokenless = 0 := by
    apply Multiset.eq_zero_of_forall_notMem
    intro read member
    obtain ⟨i, pending, holds⟩ := (Multiset.mem_filterMap _ _).mp member
    simp [Item.holder?, none_such i pending] at holds
  constructor
  case carried =>
    intro id
    have carried := told.carried id
    rw [holders_add, holders_none old, zero_add] at carried
    rwa [holders_add, holders_none new, zero_add, (slots id).active]
  case latest =>
    intro id read active
    rw [(slots id).active] at active
    rw [(slots id).latest (by simp [active])]
    exact told.latest id read active
  case known =>
    intro id read active
    rw [(slots id).active] at active
    rw [claims_same]
    exact told.known id read active
  case underway =>
    intro i member id generation token
    rcases Multiset.mem_add.mp member with fresh | kept
    · rw [new i fresh] at token
      cases token
    · rw [claims_same, events_same]
      exact told.underway i (Multiset.mem_add.mpr (.inr kept)) id generation token
  case settled =>
    intro c member forsaken
    rw [claims_same] at member
    rw [held_same, events_same]
    refine told.settled c member (forsaken_add.mpr ⟨?_, (forsaken_add.mp forsaken).2⟩)
    intro i gone
    simp [old i gone]
  case issued =>
    intro c member
    rw [claims_same] at member
    exact (told.issued c member).trans (slots c.session).issued
  case distinct => simpa only [claims_same] using told.distinct
  case ordered => simpa only [turns_same] using told.ordered
  case claimed => simpa only [turns_same, claims_same] using told.claimed

/-! ### Claims -/

/-- A new claim has shown nothing, and comes after all others of its session. -/
theorem claim (told : Chronicle lossy history rest x) {c : Claim} (claims_slot : o.claim? = some c)
    (silent : o.deed.token? = none) (fresh : c.generation = (x c.session).slot.issued + 1)
    (free : (x c.session).slot.active = none) {slot : ReadSlot} (issues : slot.issued = c.generation)
    (holds : slot.active = some ⟨c.generation, false⟩) :
    Chronicle lossy (history ++ [o])
      ({.job (.startRead c.session (some c.source) (some c.generation) c.positional c.callback)} + rest)
      (withSlot x c.session slot) := by
  have claims_more : claims (history ++ [o]) = claims history ++ [c] := by simp [claims_snoc, claims_slot]
  have mem_claims {d : Claim} : d ∈ claims (history ++ [o]) ↔ d ∈ claims history ∨ d = c := by
    rw [claims_more, List.mem_append, List.mem_singleton]
  have turns_same (id : Nat) := turns_snoc_of_silent silent id history
  have events_same (id generation : Nat) := eventsOf_snoc_of_silent silent id generation history
  have token : (Item.job (.startRead c.session (some c.source) (some c.generation) c.positional
      c.callback)).token? = some (c.session, c.generation) := rfl
  -- Whoever has had a turn was claimed before, with a generation that was issued before.
  have nothing : eventsOf c.session c.generation history = [] := by
    apply eventsOf_of_no_turn
    intro turn
    have earlier := told.turn_le turn
    omega
  -- The slot was free, so nothing pending carries an earlier claim of the session.
  have alone : holders c.session rest = 0 := by
    have carried := told.carried c.session
    rw [free] at carried
    exact Multiset.le_zero.mp carried
  constructor
  case carried =>
    intro id
    rw [holders_add, holders_singleton, slot_withSlot]
    split
    next same =>
      rw [same, holder?_of_token token, alone, holds, add_zero]
      exact le_refl _
    next apart =>
      rw [holder?_of_other token apart, Option.toList_none, Multiset.coe_nil, zero_add]
      exact told.carried id
  case latest =>
    intro id read active
    rw [slot_withSlot] at active ⊢
    split at active
    next same =>
      rw [if_pos same, issues]
      rw [holds] at active
      cases active
      rfl
    next apart =>
      rw [if_neg apart]
      exact told.latest id read active
  case known =>
    intro id read active
    rw [slot_withSlot] at active
    split at active
    next same =>
      rw [holds] at active
      cases active
      exact ⟨c, mem_claims.mpr (.inr rfl), same.symm, rfl⟩
    next =>
      obtain ⟨d, earlier, named⟩ := told.known id read active
      exact ⟨d, mem_claims.mpr (.inl earlier), named⟩
  case underway =>
    intro i member id generation carries
    rw [events_same]
    rcases Multiset.mem_add.mp member with new | old
    · obtain rfl := Multiset.mem_singleton.mp new
      obtain ⟨rfl, rfl⟩ : c.session = id ∧ c.generation = generation := by simpa [token] using carries
      refine ⟨c, mem_claims.mpr (.inr rfl), rfl, rfl, ?_, nofun⟩
      rw [nothing]
      exact .posted
    · obtain ⟨d, earlier, told_of⟩ := told.underway i old id generation carries
      exact ⟨d, mem_claims.mpr (.inl earlier), told_of⟩
  case settled =>
    intro d member forsaken
    obtain ⟨not_new, not_old⟩ := forsaken_add.mp forsaken
    rw [events_same]
    rcases mem_claims.mp member with earlier | rfl
    · have below := told.issued d earlier
      have settled := told.settled d earlier not_old
      rw [slot_withSlot]
      split
      next same =>
        -- The slot is another's now, as it was nobody's before.
        have was_free : (x d.session).slot.isHeldBy d.generation = false := by simp [ReadSlot.isHeldBy, same, free]
        have is_others : slot.isHeldBy d.generation = false := by
          rw [same] at below
          have apart : c.generation ≠ d.generation := by omega
          simp [ReadSlot.isHeldBy, holds, apart]
        rwa [is_others, ← was_free]
      next => exact settled
    · exact absurd token (not_new _ (Multiset.mem_singleton_self _))
  case issued =>
    intro d member
    rw [slot_withSlot]
    rcases mem_claims.mp member with earlier | rfl
    · have below := told.issued d earlier
      split
      next same =>
        rw [same] at below
        omega
      next => exact below
    · simp [issues]
  case distinct =>
    rw [claims_more, List.pairwise_append]
    refine ⟨told.distinct, List.pairwise_singleton _ _, ?_⟩
    intro d earlier e last same
    obtain rfl := List.mem_singleton.mp last
    -- The new claim has the generation after the last one that was issued.
    have below := told.issued d earlier
    rw [same] at below
    omega
  case ordered => simpa only [turns_same] using told.ordered
  case claimed =>
    intro id generation turn
    rw [turns_same] at turn
    obtain ⟨d, earlier, named⟩ := told.claimed id generation turn
    exact ⟨d, mem_claims.mpr (.inl earlier), named⟩

/-! ### Steps of a claim -/

/-- An item of a claim is worked on. What takes its place continues the events, and if nothing does the claim is
settled. -/
theorem turn {i : Item} {id generation : Nat} (told : Chronicle lossy history ({i} + rest) x)
    (token : i.token? = some (id, generation)) (unclaimed : o.claim? = none)
    (works : o.deed.token? = some (id, generation))
    (handed : ∀ j ∈ produced, j.token? = some (id, generation))
    (goes_on : ∀ c events, Underway c i events → c.Streams i →
      (∀ j ∈ produced, Underway c j (events ++ o.shown) ∧ c.Streams j) ∧
      (produced = 0 → Settled lossy c ((x' id).slot.isHeldBy generation) (events ++ o.shown)))
    (issued : ∀ other, (x' other).slot.issued = (x other).slot.issued)
    (others : ∀ other, other ≠ id → (x' other).slot.active = (x other).slot.active)
    (holder : ∀ read, (x' id).slot.active = some read → read.generation = generation)
    (carried : holders id produced ≤ ↑(x' id).slot.active.toList) :
    Chronicle lossy (history ++ [o]) (produced + rest) x' := by
  obtain ⟨active, alone⟩ := told.held_by token
  obtain ⟨c, member_c, session_c, generation_c, underway_c, streams_c⟩ :=
    told.underway i (Multiset.mem_add.mpr (.inl (Multiset.mem_singleton_self i))) id generation token
  obtain ⟨continued, settles⟩ := goes_on c _ underway_c streams_c
  have latest : generation = (x id).slot.issued := told.latest id _ active
  have claims_same : claims (history ++ [o]) = claims history := by simp [claims_snoc, unclaimed]
  have events_more : eventsOf id generation (history ++ [o]) = eventsOf id generation history ++ o.shown := by
    simp [eventsOf_snoc, Occurrence.shownOf, works]
  have events_same (other later : Nat) (apart : (other, later) ≠ (id, generation)) :
      eventsOf other later (history ++ [o]) = eventsOf other later history := by
    simp [eventsOf_snoc, Occurrence.shownOf, works, Ne.symm apart]
  have turns_cases (other : Nat) : turns other (history ++ [o]) =
      turns other history ++ if other = id then [generation] else [] := by
    rw [turns_snoc]
    congr 1
    split
    next same => rw [same, turn?_eq_some_iff.mpr works, Option.toList_some]
    next apart => simp [Occurrence.turn?, works, Ne.symm apart]
  constructor
  case carried =>
    intro other
    by_cases same : other = id
    · rw [same, holders_add, alone, add_zero]
      exact carried
    · have no_holder : holders other produced = 0 := by
        apply Multiset.eq_zero_of_forall_notMem
        intro read member
        obtain ⟨j, pending, holds⟩ := (Multiset.mem_filterMap _ _).mp member
        rw [holder?_of_other (handed j pending) same] at holds
        cases holds
      have before := told.carried other
      rw [holders_add, holders_singleton, holder?_of_other token same, Option.toList_none, Multiset.coe_nil,
        zero_add] at before
      rwa [holders_add, no_holder, zero_add, others other same]
  case latest =>
    intro other read held
    rw [issued]
    by_cases same : other = id
    · rw [same] at held ⊢
      rw [holder read held, latest]
    · rw [others other same] at held
      exact told.latest other read held
  case known =>
    intro other read held
    rw [claims_same]
    by_cases same : other = id
    · rw [same] at held
      exact ⟨c, member_c, session_c.trans same.symm, generation_c.trans (holder read held).symm⟩
    · rw [others other same] at held
      exact told.known other read held
  case underway =>
    intro j member other later token_j
    rw [claims_same]
    rcases Multiset.mem_add.mp member with new | old
    · have same := handed j new
      rw [token_j] at same
      obtain ⟨rfl, rfl⟩ : other = id ∧ later = generation := by simpa using same
      rw [events_more]
      exact ⟨c, member_c, session_c, generation_c, continued j new⟩
    · -- The slot has one carrier, so what else is pending belongs to other reads.
      have apart : (other, later) ≠ (id, generation) := by
        rintro ⟨⟩
        exact token?_of_holders alone old generation token_j
      rw [events_same other later apart]
      exact told.underway j (Multiset.mem_add.mpr (.inr old)) other later token_j
  case settled =>
    intro d member forsaken
    rw [claims_same] at member
    obtain ⟨not_new, not_old⟩ := forsaken_add.mp forsaken
    by_cases same : (d.session, d.generation) = (id, generation)
    · obtain ⟨session_d, generation_d⟩ : d.session = id ∧ d.generation = generation := by simpa using same
      obtain rfl := told.unique member member_c (session_d.trans session_c.symm)
        (generation_d.trans generation_c.symm)
      rw [session_d, generation_d] at not_new ⊢
      rw [events_more]
      apply settles
      apply Multiset.eq_zero_of_forall_notMem
      intro j new
      exact not_new j new (handed j new)
    · have not_i : Forsaken {i} d.session d.generation := by
        intro j member_j token_j
        rw [Multiset.mem_singleton.mp member_j, token] at token_j
        exact same (Option.some.inj token_j).symm
      have settled := told.settled d member (forsaken_add.mpr ⟨not_i, not_old⟩)
      have held_same : (x' d.session).slot.isHeldBy d.generation = (x d.session).slot.isHeldBy d.generation := by
        by_cases session_d : d.session = id
        · -- Neither before nor after does the slot belong to another generation than the one worked on.
          have apart : generation ≠ d.generation := fun generation_d => same (by rw [session_d, generation_d])
          rw [session_d]
          have before : (x id).slot.isHeldBy d.generation = false := by simp [ReadSlot.isHeldBy, active, apart]
          rw [before]
          unfold ReadSlot.isHeldBy
          cases held : (x' id).slot.active with
          | none => rfl
          | some read => simp [holder read held, apart]
        · simp [ReadSlot.isHeldBy, others _ session_d]
      rwa [held_same, events_same _ _ same]
  case issued =>
    intro d member
    rw [claims_same] at member
    rw [issued]
    exact told.issued d member
  case distinct => simpa only [claims_same] using told.distinct
  case ordered =>
    intro other
    rw [turns_cases]
    split
    next same =>
      rw [List.pairwise_append]
      refine ⟨told.ordered other, List.pairwise_singleton _ _, ?_⟩
      intro earlier turn last member
      -- The slot is held by the generation issued last, so no turn before was a later one's.
      obtain rfl := List.mem_singleton.mp member
      have below := told.turn_le turn
      rw [same] at below
      omega
    next =>
      rw [List.append_nil]
      exact told.ordered other
  case claimed =>
    intro other later turn
    rw [claims_same]
    rw [turns_cases, List.mem_append] at turn
    rcases turn with earlier | last
    · exact told.claimed other later earlier
    · split at last
      next same =>
        rw [List.mem_singleton.mp last, same]
        exact ⟨c, member_c, session_c, generation_c⟩
      next => simp at last
/-- The item of a claim is replaced by its next one, at the same stage. -/
theorem goOn {i j : Item} {id generation : Nat} (told : Chronicle lossy history ({i} + rest) x)
    (token : i.token? = some (id, generation)) (next : j.token? = some (id, generation))
    (unclaimed : o.claim? = none) (works : o.deed.token? = some (id, generation)) (stage : j.stage = i.stage)
    (continues : ∀ c events, Underway c i events → c.Streams i → Underway c j (events ++ o.shown)) :
    Chronicle lossy (history ++ [o]) ({j} + rest) x := by
  have active := (told.held_by token).1
  refine told.turn token unclaimed works (forall_singleton next) ?_ (fun _ => rfl) (fun _ _ => rfl) ?_ ?_
  · intro c events underway streams
    refine ⟨forall_singleton ⟨continues c events underway streams, ?_⟩, ?_⟩
    · intro streaming
      exact streams (stage ▸ streaming)
    · intro nothing
      exact absurd nothing (Multiset.singleton_ne_zero j)
  · intro read held
    rw [active] at held
    cases held
    rfl
  · rw [holders_singleton, holder?_of_token next, active, stage]

theorem active_advanced {id : Nat} {read : ActiveRead} (held : (x id).slot.active = some read) :
    (withSlot x id ((x id).slot.advance read.generation).2 id).slot.active = some ⟨read.generation, true⟩ := by
  rw [slot_withSlot_self, ReadSlot.advance_of_held held]

theorem active_advanced_other {id other generation : Nat} (apart : other ≠ id) :
    (withSlot x id ((x id).slot.advance generation).2 other).slot.active = (x other).slot.active := by
  rw [slot_withSlot, if_neg apart]

/-- The answer has been taken, and the slot goes on to streaming with the item. -/
theorem advance {i j : Item} {id generation : Nat} (told : Chronicle lossy history ({i} + rest) x)
    (token : i.token? = some (id, generation)) (next : j.token? = some (id, generation))
    (streams : j.stage = .streaming) (unclaimed : o.claim? = none)
    (works : o.deed.token? = some (id, generation))
    (continues : ∀ c events, Underway c i events →
      Underway c j (events ++ o.shown) ∧ c.callback.aborts = false) :
    Chronicle lossy (history ++ [o]) ({j} + rest) (withSlot x id ((x id).slot.advance generation).2) := by
  have advanced := active_advanced (told.held_by token).1
  refine told.turn token unclaimed works (forall_singleton next) ?_ (issued_advanced x id generation)
    (fun _ => active_advanced_other) ?_ ?_
  · intro c events underway _
    obtain ⟨further, calm⟩ := continues c events underway
    refine ⟨forall_singleton ⟨further, fun _ => calm⟩, fun nothing => ?_⟩
    exact absurd nothing (Multiset.singleton_ne_zero j)
  · intro read held
    rw [advanced] at held
    cases held
    rfl
  · rw [holders_singleton, holder?_of_token next, advanced, streams]
    exact le_refl _

/-- The claim has given its slot back, and nothing else happened to any slot. -/
structure Frees (x x' : Nat → Session) (id : Nat) : Prop where
  free : (x' id).slot.active = none
  others : ∀ other, other ≠ id → (x' other).slot.active = (x other).slot.active
  issued : ∀ other, (x' other).slot.issued = (x other).slot.issued

theorem frees_released {id : Nat} {read : ActiveRead} (held : (x id).slot.active = some read) :
    Frees x (released x id read.generation) id where
  free := by simp [released, ReadSlot.release_of_held held]
  others other apart := by simp [released, slot_withSlot, apart]
  issued other := issued_released x id read.generation other

/-- Also a slot that has advanced can be given back. -/
theorem frees_advanced {id : Nat} {read : ActiveRead} (held : (x id).slot.active = some read) :
    Frees x (released (withSlot x id ((x id).slot.advance read.generation).2) id read.generation) id := by
  have frees := frees_released (active_advanced held)
  refine ⟨frees.free, fun other apart => ?_, fun other => ?_⟩
  · rw [frees.others other apart]
    simp [slot_withSlot, apart]
  · rw [frees.issued, issued_advanced]

/-- The last item of a claim is done, and the slot is given back. -/
theorem leave {i : Item} {id generation : Nat} (told : Chronicle lossy history ({i} + rest) x)
    (token : i.token? = some (id, generation)) (unclaimed : o.claim? = none)
    (works : o.deed.token? = some (id, generation)) (frees : Frees x x' id)
    (settles : ∀ c events, Underway c i events → c.Streams i → Settled lossy c false (events ++ o.shown)) :
    Chronicle lossy (history ++ [o]) (0 + rest) x' := by
  refine told.turn token unclaimed works (by simp) ?_ frees.issued frees.others ?_ (Multiset.zero_le _)
  · intro c events underway streams
    refine ⟨by simp, fun _ => ?_⟩
    rw [show (x' id).slot.isHeldBy generation = false by simp [ReadSlot.isHeldBy, frees.free]]
    exact settles c events underway streams
  · intro read held
    rw [frees.free] at held
    cases held

/-- The job of a claim is cut short by its callback, and the claim keeps the slot. -/
theorem halt {i : Item} {id generation : Nat} (told : Chronicle lossy history ({i} + rest) x)
    (token : i.token? = some (id, generation)) (unclaimed : o.claim? = none)
    (works : o.deed.token? = some (id, generation)) {streaming : Bool}
    (held : (x' id).slot.active = some ⟨generation, streaming⟩)
    (others : ∀ other, other ≠ id → (x' other).slot.active = (x other).slot.active)
    (issued : ∀ other, (x' other).slot.issued = (x other).slot.issued)
    (halts : ∀ c events, Underway c i events → c.callback.aborts = true ∧ Halted c (events ++ o.shown)) :
    Chronicle lossy (history ++ [o]) (0 + rest) x' := by
  have holds : (x' id).slot.isHeldBy generation = true := by simp [ReadSlot.isHeldBy, held]
  refine told.turn token unclaimed works (by simp) ?_ issued others ?_ (Multiset.zero_le _)
  · intro c events underway _
    obtain ⟨aborts, cut⟩ := halts c events underway
    exact ⟨by simp, fun _ => .halted aborts cut holds⟩
  · intro read active
    rw [held] at active
    cases active
    rfl

/-- Every step continues what has been told. A worker that is done can tell so as long as the control thread
serves its queue; without workers a read may be dropped. -/
theorem step {working alive : Bool} {a : Action} (told : Chronicle lossy history (consumed + rest) x)
    (agreed : ∀ i ∈ consumed, i.Agrees) (serves : ∀ i t, o.deed = .worked i t → alive = true)
    (loses : working = false → lossy) (effect : Effect working alive x a o consumed produced x') :
    Chronicle lossy (history ++ [o]) (produced + rest) x' := by
  have none_old : ∀ i ∈ (0 : Multiset Item), i.token? = none := by simp
  cases effect with
  | create | parse =>
    exact told.pass rfl rfl none_old (forall_sentIf rfl) fun id => .of_same rfl rfl
  | openSource | validate =>
    exact told.pass rfl rfl (forall_singleton rfl) (forall_sentIf rfl) fun id => .of_same rfl rfl
  | misread | took | stopping => exact told.pass rfl rfl none_old none_old fun id => .of_same rfl rfl
  | notCreated | inProgress =>
    exact told.pass rfl rfl (forall_singleton rfl) none_old fun id => .of_same rfl rfl
  | opened | validated =>
    exact told.pass rfl rfl (forall_singleton rfl) none_old fun id => .of_same (by simp) (by simp)
  | destroy => exact told.pass rfl rfl none_old none_old fun id => .of_same (by simp) (by simp)
  | cancel id =>
    refine told.pass rfl rfl none_old none_old fun other => ?_
    have same := same_holder_of_cancel x id other
    exact .of_same same.1 same.2
  | readUnclaimed id arguments positional callback split unclaimed =>
    refine told.pass ?_ rfl none_old (forall_sentIf ?_) fun id => .of_same rfl rfl
    · simp [Occurrence.claim?]
    · cases (x id).source <;> rfl
  | readClaimed id arguments positional callback source split found free served =>
    rw [zero_add] at told
    refine told.claim (c := ⟨id, (x id).slot.issued + 1, source, positional, callback⟩) ?_ rfl rfl free rfl rfl
    simp [Occurrence.claim?, split]
  | readStopped id arguments positional callback source split found free gone =>
    -- The generation is issued and given up at once.
    refine told.pass rfl rfl none_old none_old fun other => ?_
    rw [slot_withSlot]
    split
    next same =>
      subst same
      exact ⟨free.symm, Nat.le_succ _, fun held => absurd free held⟩
    next => exact .of_same rfl rfl
  | decodeFailed environment id generation source positional callback rejection notes refused quiet =>
    have active := (told.held_by rfl).1
    have shows : (⟨.ran (.startRead id (some source) (some generation) positional callback),
        notes ++ [refusal id callback rejection.message]⟩ : Occurrence).shown
        = [refusal id callback rejection.message] := shown_notes quiet _ _
    -- A callback that aborts leaves the slot to the claim.
    cases aborts : callback.aborts with
    | true =>
      refine told.halt rfl rfl rfl active (fun _ _ => rfl) (fun _ => rfl) fun c events underway => ?_
      cases underway with
      | posted => exact ⟨aborts, by rw [shows]; exact .undecodable rejection refused⟩
    | false =>
      refine told.leave rfl rfl rfl (frees_released active) fun c events underway _ => ?_
      cases underway with
      | posted => exact .complete aborts (by rw [shows]; exact .undecodable rejection refused) rfl
  | startQuery environment id generation source positional callback command notes made quiet =>
    have active := (told.held_by rfl).1
    have shows : (⟨.ran (.startRead id (some source) (some generation) positional callback), notes⟩ :
        Occurrence).shown = [] := by
      rw [← List.append_nil notes]
      exact shown_notes quiet _ []
    -- The workers take the query, or there are none left and the read is dropped before it has shown anything.
    cases working with
    | true =>
      refine told.goOn rfl ?_ rfl rfl rfl fun c events underway _ => ?_
      · rw [← ReadCommand.generation_ofArguments made]
        rfl
      · cases underway with
        | posted =>
          rw [shows]
          exact .querying command made
    | false =>
      refine told.leave rfl rfl rfl (frees_released active) fun c events underway _ => ?_
      cases underway with
      | posted => exact .dropped (loses rfl) (.inl (by rw [shows]; rfl)) rfl
  | queryFailed environment id generation result callback reason failed =>
    have active := (told.held_by rfl).1
    cases aborts : callback.aborts with
    | true =>
      refine told.halt rfl rfl rfl active (fun _ _ => rfl) (fun _ => rfl) fun c events underway => ?_
      obtain ⟨nothing, rfl, rfl, rfl, command, made, rfl⟩ := underway.of_queried
      rw [nothing]
      exact ⟨aborts, .failed command reason made failed⟩
    | false =>
      refine told.leave rfl rfl rfl (frees_released active) fun c events underway _ => ?_
      obtain ⟨nothing, rfl, rfl, rfl, command, made, rfl⟩ := underway.of_queried
      rw [nothing]
      exact .complete aborts (.failed command reason made failed) rfl
  | accept environment id generation command callback calm =>
    have active := (told.held_by rfl).1
    have same : command.generation = generation := agreed _ (Multiset.mem_singleton_self _)
    -- The workers take the transmission, or there are none left and nothing follows the acceptance.
    cases working with
    | true =>
      have token : (Item.task (.stream id command {})).token? = some (id, generation) := by
        rw [← same]
        rfl
      refine told.advance rfl token rfl rfl rfl fun c events underway => ?_
      obtain ⟨nothing, rfl, rfl, rfl, made_from, made, answered⟩ := underway.of_queried
      rw [nothing]
      exact ⟨.connecting command ⟨made_from, made, run_of_queryResult answered⟩ {} rfl, calm⟩
    | false =>
      refine told.leave rfl rfl rfl (frees_advanced active) fun c events underway _ => ?_
      obtain ⟨nothing, rfl, rfl, rfl, made_from, made, answered⟩ := underway.of_queried
      rw [nothing]
      exact .dropped (loses rfl) (.inr ⟨command, ⟨made_from, made, run_of_queryResult answered⟩, rfl⟩) rfl
  | acceptAborted environment id generation command callback aborts =>
    have active := (told.held_by rfl).1
    refine told.halt rfl rfl rfl (active_advanced active) (fun _ => active_advanced_other)
      (issued_advanced x id generation) fun c events underway => ?_
    obtain ⟨nothing, rfl, rfl, rfl, made_from, made, answered⟩ := underway.of_queried
    rw [nothing]
    exact ⟨aborts, .accepted command ⟨made_from, made, run_of_queryResult answered⟩⟩
  | finish environment id generation numBytes result =>
    have active := (told.held_by rfl).1
    refine told.leave rfl rfl rfl (frees_released active) fun c events underway streams => ?_
    cases underway with
    | ended filled fills contacts uses result =>
      exact .complete (streams rfl) (.streamed filled contacts _ fills uses) rfl
  | query environment i id command callback =>
    rw [serves i _ rfl]
    refine told.goOn rfl rfl rfl rfl rfl fun c events underway _ => ?_
    cases underway with
    | querying command made =>
      rw [made.generation]
      exact .queried command made
  | stream environment i id command t t' contacts stepped =>
    refine told.goOn rfl rfl rfl rfl rfl fun c events underway _ => ?_
    -- The contacts of this step are those that its read shows.
    obtain ⟨fills, rfl, so_far, uses, shows⟩ := underway.contacts
      (environment.consumer id command.generation command.host command.port)
      ((x id).slot.isCancelled command.generation)
    rw [stepped] at shows
    rw [shown_contacts, fills.generation, shows]
    exact .sending command fills t' (step_connected (congrArg Prod.snd stepped)) so_far uses
  | streamEnd environment i id command t contacts result stepped =>
    rw [serves i _ rfl]
    refine told.goOn rfl rfl rfl rfl rfl fun c events underway _ => ?_
    obtain ⟨fills, rfl, so_far, uses, shows⟩ := underway.contacts
      (environment.consumer id command.generation command.host command.port)
      ((x id).slot.isCancelled command.generation)
    rw [stepped] at shows
    rw [shown_contacts, fills.generation, shows]
    exact .ended command fills so_far uses result

end Chronicle

/-! ### Reads that are done -/

/-- Whoever's item is worked on has it pending. -/
theorem Effect.deed_carried {working alive : Bool} {x x' : Nat → Session} {a : Action} {o : Occurrence}
    {consumed produced : Multiset Item} (effect : Effect working alive x a o consumed produced x')
    {token : Nat × Nat} (works : o.deed.token? = some token) : ∃ i ∈ consumed, i.token? = some token := by
  cases effect with
  | create | parse | destroy | misread | readUnclaimed | readClaimed | readStopped | cancel | took | stopping =>
    cases works
  | _ => exact ⟨_, Multiset.mem_singleton_self _, works⟩

/-- What is put in place carries the claim of what was taken away, or a new one. -/
theorem Effect.produced_carried {working alive : Bool} {x x' : Nat → Session} {a : Action} {o : Occurrence}
    {consumed produced : Multiset Item} (effect : Effect working alive x a o consumed produced x')
    (agreed : ∀ i ∈ consumed, i.Agrees) :
    ∀ j ∈ produced, ∀ id generation, j.token? = some (id, generation) →
      (∃ i ∈ consumed, i.token? = some (id, generation)) ∨ (x id).slot.issued < generation := by
  cases effect with
  | readClaimed session arguments positional callback source split found free served =>
    refine forall_singleton fun id generation token => .inr ?_
    obtain ⟨rfl, rfl⟩ : session = id ∧ (x session).slot.issued + 1 = generation := by
      simpa [Item.token?] using token
    exact Nat.lt_succ_self _
  | startQuery environment session generation source positional callback command notes made =>
    refine forall_sentIf fun id g token => .inl ⟨_, Multiset.mem_singleton_self _, ?_⟩
    rw [← token, Item.token?, Item.token?, ReadCommand.generation_ofArguments made]
  | accept environment session generation command callback calm =>
    have same : command.generation = generation := agreed _ (Multiset.mem_singleton_self _)
    refine forall_sentIf fun id g token => .inl ⟨_, Multiset.mem_singleton_self _, ?_⟩
    rw [← token, Item.token?, Item.token?, same]
  | query | streamEnd => exact forall_sentIf fun id g token => .inl ⟨_, Multiset.mem_singleton_self _, token⟩
  | stream => exact forall_singleton fun id g token => .inl ⟨_, Multiset.mem_singleton_self _, token⟩
  | create | parse | openSource | validate => exact forall_sentIf (by simp [Item.token?])
  | readUnclaimed session => exact forall_sentIf (by cases (x session).source <;> simp [Item.token?])
  | _ => simp

/-- A claim that nothing carries any more is not taken up again. -/
theorem Forsaken.step {working alive : Bool} {x x' : Nat → Session} {a : Action} {o : Occurrence}
    {consumed produced rest : Multiset Item} {id generation : Nat}
    (forsaken : Forsaken (consumed + rest) id generation) (issued : generation ≤ (x id).slot.issued)
    (agreed : ∀ i ∈ consumed, i.Agrees) (effect : Effect working alive x a o consumed produced x') :
    Forsaken (produced + rest) id generation ∧ o.deed.token? ≠ some (id, generation) := by
  obtain ⟨not_old, not_kept⟩ := forsaken_add.mp forsaken
  refine ⟨forsaken_add.mpr ⟨fun j new token => ?_, not_kept⟩, fun works => ?_⟩
  · rcases effect.produced_carried agreed j new id generation token with ⟨i, old, carried⟩ | fresh
    · exact not_old i old carried
    · omega
  · obtain ⟨i, old, carried⟩ := effect.deed_carried works
    exact not_old i old carried

/-! ### Runs -/

theorem Orderly.serves {s s' : Scheduler} {a : Action} {o : Occurrence} (h : s.Orderly)
    (acted : s.act? a = some (s', o)) : ∀ i t, o.deed = .worked i t → s.controlAlive = true := by
  intro i t works
  have passage := act_passage acted
  rw [works] at passage
  cases passage with
  | wentOn environment _ _ t' found => exact (h.of_present (present_of_found found rfl)).1
  | finished environment _ _ j found => exact (h.of_present (present_of_found found rfl)).1

section

variable {admits : Action → Prop} {n : Nat} {lossy : Prop} {history : List Occurrence} {s : Scheduler}

theorem chronicle_of_run (positive : 0 < n)
    (loses : ∀ {history s}, Run admits (start n) history s → s.isWorking = false → lossy)
    (run : Run admits (start n) history s) :
    Chronicle lossy history s.pending s.sessions ∧ ∀ i ∈ s.pending, i.Agrees := by
  induction run with
  | start => exact ⟨chronicle_start lossy n, by simp⟩
  | @step history s a s' o earlier admitted acted ih =>
    obtain ⟨told, agreed⟩ := ih
    obtain ⟨rest, consumed, produced, before, after, effect⟩ := act_effect acted
    rw [before] at told agreed
    have consumed_agree : ∀ i ∈ consumed, i.Agrees := fun i member =>
      agreed i (Multiset.mem_add.mpr (.inl member))
    rw [after]
    refine ⟨told.step consumed_agree ((orderly_of_run positive earlier).serves acted) (loses earlier) effect, ?_⟩
    intro i member
    rcases Multiset.mem_add.mp member with new | old
    · exact effect.agrees i new
    · exact agreed i (Multiset.mem_add.mpr (.inr old))

/-- Of a run of which nothing is known any read may have been dropped. -/
theorem chronicle_of_any_run (positive : 0 < n) (run : Run admits (start n) history s) :
    Chronicle True history s.pending s.sessions ∧ ∀ i ∈ s.pending, i.Agrees :=
  chronicle_of_run positive (fun _ _ => trivial) run

/-- While nobody shuts the scheduler down no read is dropped. -/
theorem chronicle_of_serving_run (positive : 0 < n) (on : ∀ a, admits a → a ≠ .shutdown)
    (run : Run admits (start n) history s) : Chronicle False history s.pending s.sessions := by
  refine (chronicle_of_run positive (fun earlier left => ?_) run).1
  rw [(serving_of_run on positive earlier).isWorking] at left
  cases left

end

theorem forsaken_of_quiet {s : Scheduler} (quiet : s.IsQuiet) (id generation : Nat) :
    Forsaken s.pending id generation := by
  rw [pending_of_quiet quiet]
  exact fun i member => absurd member (Multiset.notMem_zero i)

/-- A claim that nothing carries any more shows nothing more, whatever is done. -/
theorem forsaken_later {admits : Action → Prop} {n : Nat} (positive : 0 < n) {before after : List Occurrence}
    {s s' : Scheduler} (run : Run admits (start n) before s) {c : Claim} (claimed : c ∈ claims before)
    (forsaken : Forsaken s.pending c.session c.generation) (later : Run admits s after s') :
    Forsaken s'.pending c.session c.generation ∧
    eventsOf c.session c.generation (before ++ after) = eventsOf c.session c.generation before := by
  induction later with
  | start => exact ⟨forsaken, by rw [List.append_nil]⟩
  | @step history s₁ a s₂ o earlier admitted acted ih =>
    obtain ⟨forsaken, same⟩ := ih
    obtain ⟨told, agreed⟩ := chronicle_of_any_run positive (run.trans earlier)
    obtain ⟨rest, consumed, produced, split, merged, effect⟩ := act_effect acted
    rw [split] at forsaken agreed
    obtain ⟨still, silent⟩ := forsaken.step (told.issued c (mem_claims_append claimed history))
      (fun i member => agreed i (Multiset.mem_add.mpr (.inl member))) effect
    refine ⟨merged ▸ still, ?_⟩
    rw [← List.append_assoc, eventsOf_snoc, same, Occurrence.shownOf, if_neg silent, List.append_nil]

end Scheduler

end PointStream
