import PointStream.Proofs.Read.Command
import PointStream.Proofs.Read.Slot
import PointStream.Proofs.Scheduler.Running

/-!
# Who owns a slot

A read carries its claim of the slot from the call through four more jobs and tasks. In every state of a calm
run the slot of a session is held by exactly the read that something pending carries, and by none if nothing
does; so a scheduler with nothing left to do has only free slots.
-/

namespace PointStream

namespace Scheduler

/-! ### Carriers -/

/-- The session and the generation of the read that an item belongs to, if the read has claimed the slot. -/
def Item.token? : Item → Option (Nat × Nat)
  | .job (.startRead id (some _) (some generation) _ _) => some (id, generation)
  | .job (.queried id generation _ _) => some (id, generation)
  | .job (.streamed id generation _ _) => some (id, generation)
  | .task (.query id command _) => some (id, command.generation)
  | .task (.stream id command _) => some (id, command.generation)
  | _ => none

/-- Where a read stands while an item of it is pending. -/
def Item.stage : Item → ReadState
  | .job (.startRead ..) | .job (.queried ..) | .task (.query ..) => .reading
  | .job (.streamed ..) | .task (.stream ..) => .streaming
  | _ => .idle

/-- The pending items that carry the token of a read. -/
def carriers (s : Scheduler) (id generation : Nat) : Multiset Item :=
  s.pending.filter fun i => i.token? = some (id, generation)

/-- What an item says of the slot of a session. -/
def Item.holder? (id : Nat) (i : Item) : Option ActiveRead :=
  i.token?.bind fun (session, generation) =>
    if session = id then some ⟨generation, i.stage = .streaming⟩ else none

theorem Item.holder?_eq_some_iff {id : Nat} {i : Item} {read : ActiveRead} :
    i.holder? id = some read ↔
      i.token? = some (id, read.generation) ∧ read.streaming = decide (i.stage = .streaming) := by
  unfold Item.holder?
  cases i.token? with
  | none => simp
  | some token =>
    obtain ⟨session, generation⟩ := token
    obtain ⟨held, streaming⟩ := read
    by_cases same : session = id
    · simp [same, eq_comm]
    · simp [same]

def holders (id : Nat) (items : Multiset Item) : Multiset ActiveRead := items.filterMap (Item.holder? id)

@[simp] theorem holders_zero (id : Nat) : holders id 0 = 0 := rfl

@[simp] theorem holders_add (id : Nat) (m₁ m₂ : Multiset Item) :
    holders id (m₁ + m₂) = holders id m₁ + holders id m₂ := Multiset.filterMap_add ..

theorem holders_singleton (id : Nat) (i : Item) : holders id {i} = ↑(i.holder? id).toList := by
  unfold holders
  rw [← Multiset.coe_singleton, Multiset.filterMap_coe]
  cases h : i.holder? id <;> simp [h]

/-- The slots are held by exactly the reads that pending items carry, and each by the latest of its session. -/
structure Owned (items : Multiset Item) (x : Nat → Session) : Prop where
  held : ∀ id, holders id items = ↑(x id).slot.active.toList
  latest : ∀ id read, (x id).slot.active = some read → read.generation = (x id).slot.issued

theorem owned_start (n : Nat) : Owned (start n).pending (start n).sessions where
  held id := by
    rw [pending_start]
    rfl
  latest id read active := by cases active

/-- A slot whose session has one carrier besides the rest is held by it, and the rest says nothing of it. -/
theorem held_by_carrier {items : Multiset Item} {x : Nat → Session} {i : Item} {rest : Multiset Item}
    {id : Nat} {read : ActiveRead} (owned : Owned items x) (split : items = {i} + rest)
    (carries : i.holder? id = some read) : (x id).slot.active = some read ∧ holders id rest = 0 := by
  have held := owned.held id
  rw [split, holders_add, holders_singleton, carries] at held
  cases active : (x id).slot.active with
  | none => simp [active] at held
  | some other =>
    simp only [active, Option.toList_some, Multiset.coe_singleton] at held
    -- The slot has room for one holder, and the carrier is it.
    have alone : holders id rest = 0 := by
      have size := congrArg Multiset.card held
      simp only [Multiset.card_add, Multiset.card_singleton] at size
      exact Multiset.card_eq_zero.mp (by omega)
    rw [alone, add_zero, Multiset.singleton_inj] at held
    exact ⟨by rw [held], alone⟩

/-- Items and slots may change so long as they agree on who holds each slot. -/
theorem Owned.change {items items' : Multiset Item} {x x' : Nat → Session} (owned : Owned items x)
    (id : Nat) (others : ∀ other, other ≠ id →
      holders other items' = holders other items ∧ (x' other).slot = (x other).slot)
    (held : holders id items' = ↑(x' id).slot.active.toList)
    (latest : ∀ read, (x' id).slot.active = some read → read.generation = (x' id).slot.issued) :
    Owned items' x' := by
  refine ⟨fun other => ?_, fun other => ?_⟩
  · by_cases same : other = id
    · rw [same]
      exact held
    · rw [(others other same).1, (others other same).2]
      exact owned.held other
  · by_cases same : other = id
    · rw [same]
      exact latest
    · rw [(others other same).2]
      exact owned.latest other

theorem Owned.keep {items items' : Multiset Item} {x x' : Nat → Session} (owned : Owned items x)
    (same : ∀ id, holders id items' = holders id items)
    (slots : ∀ id, (x' id).slot.active = (x id).slot.active ∧ (x' id).slot.issued = (x id).slot.issued) :
    Owned items' x' where
  held id := by
    rw [same id, (slots id).1]
    exact owned.held id
  latest id := by
    rw [(slots id).1, (slots id).2]
    exact owned.latest id

theorem same_holder_of_cancel (x : Nat → Session) (id other : Nat) :
    (withSlot x id (x id).slot.cancel.2 other).slot.active = (x other).slot.active ∧
    (withSlot x id (x id).slot.cancel.2 other).slot.issued = (x other).slot.issued :=
  ⟨kept_withSlot ReadSlot.active fun _ => ReadSlot.active_cancel _,
    kept_withSlot ReadSlot.issued fun _ => ReadSlot.issued_cancel _⟩

/-- The result of a query is handed on under the generation of its command. -/
def Item.Agrees : Item → Prop
  | .job (.queried _ generation (.returned (command, _)) _) => command.generation = generation
  | _ => True

theorem Effect.agrees {working alive : Bool} {x x' : Nat → Session} {a : Action} {o : Occurrence}
    {consumed produced : Multiset Item} (effect : Effect working alive x a o consumed produced x') :
    ∀ i ∈ produced, i.Agrees := by
  cases effect with
  | query environment i id command callback =>
    refine forall_sentIf ?_
    have kept := command.generation_run
    unfold queryResult
    split
    next filled result ran =>
      rw [ran] at kept
      exact kept
    next => trivial
  | readClaimed | stream => exact forall_singleton trivial
  | create | parse | readUnclaimed | startQuery | accept | openSource | validate | streamEnd =>
    exact forall_sentIf trivial
  | _ => simp

/-! ### Steps -/

theorem holder?_of_token {id generation : Nat} {i : Item} (token : i.token? = some (id, generation)) :
    i.holder? id = some ⟨generation, i.stage = .streaming⟩ := by
  simp [Item.holder?, token]

theorem holder?_of_other {id generation other : Nat} {i : Item} (token : i.token? = some (id, generation))
    (apart : other ≠ id) : i.holder? other = none := by
  simp [Item.holder?, token, Ne.symm apart]

theorem token?_of_holders {id : Nat} {items : Multiset Item} (alone : holders id items = 0) {i : Item}
    (member : i ∈ items) (generation : Nat) : i.token? ≠ some (id, generation) := by
  intro token
  have holder : ⟨generation, decide (i.stage = .streaming)⟩ ∈ holders id items :=
    (Multiset.mem_filterMap _ items).mpr ⟨i, member, holder?_of_token token⟩
  rw [alone] at holder
  exact Multiset.notMem_zero _ holder

theorem Owned.release {i : Item} {rest : Multiset Item} {x : Nat → Session} {id generation : Nat}
    (owned : Owned ({i} + rest) x) (token : i.token? = some (id, generation)) :
    Owned rest (released x id generation) := by
  obtain ⟨active, alone⟩ := held_by_carrier owned rfl (holder?_of_token token)
  have given := ReadSlot.release_of_held active
  refine owned.change id ?_ ?_ ?_
  · intro other apart
    constructor
    · rw [holders_add, holders_singleton, holder?_of_other token apart]
      simp
    · simp [released, slot_withSlot, apart]
  · simp [released, given, alone]
  · simp [released, given]

/-- The carrier of a claim is replaced by one that streams, and the slot advances. -/
theorem Owned.advance {i j : Item} {rest : Multiset Item} {x : Nat → Session} {id generation : Nat}
    (owned : Owned ({i} + rest) x) (token : i.token? = some (id, generation))
    (next : j.token? = some (id, generation)) (streams : j.stage = .streaming) :
    Owned ({j} + rest) (withSlot x id ((x id).slot.advance generation).2) := by
  obtain ⟨active, alone⟩ := held_by_carrier owned rfl (holder?_of_token token)
  have moved := ReadSlot.advance_of_held active
  have latest := owned.latest id _ active
  refine owned.change id ?_ ?_ ?_
  · intro other apart
    constructor
    · rw [holders_add, holders_add, holders_singleton, holders_singleton, holder?_of_other token apart,
        holder?_of_other next apart]
    · simp [slot_withSlot, apart]
  · rw [holders_add, holders_singleton, holder?_of_token next, alone]
    simp [moved, streams]
  · simpa [moved] using latest

theorem Owned.claim {j : Item} {rest : Multiset Item} {x : Nat → Session} {id : Nat}
    (owned : Owned rest x) (free : (x id).slot.active = none)
    (token : j.token? = some (id, (x id).slot.issued + 1)) (reads : j.stage = .reading) :
    Owned ({j} + rest) (withSlot x id { (x id).slot with
      active := some ⟨(x id).slot.issued + 1, false⟩, issued := (x id).slot.issued + 1 }) := by
  have alone := owned.held id
  rw [free] at alone
  refine owned.change id ?_ ?_ ?_
  · intro other apart
    constructor
    · rw [holders_add, holders_singleton, holder?_of_other token apart]
      simp
    · simp [slot_withSlot, apart]
  · rw [holders_add, holders_singleton, holder?_of_token token, alone]
    simp [reads]
  · intro read active
    obtain rfl : _ = read := by simpa using active
    simp

theorem Owned.swap {consumed produced rest : Multiset Item} {x x' : Nat → Session}
    (owned : Owned (consumed + rest) x) (same : ∀ id, holders id produced = holders id consumed)
    (slots : ∀ id, (x' id).slot.active = (x id).slot.active ∧ (x' id).slot.issued = (x id).slot.issued) :
    Owned (produced + rest) x' := by
  refine owned.keep (fun id => ?_) slots
  rw [holders_add, holders_add, same id]

/-- Every step hands the claims on, or gives them back. -/
theorem Owned.step {x x' : Nat → Session} {a : Action} {o : Occurrence}
    {rest consumed produced : Multiset Item} (owned : Owned (consumed + rest) x)
    (agreed : ∀ i ∈ consumed, i.Agrees) (calm : ∀ i ∈ consumed, i.IsCalm)
    (effect : Effect true true x a o consumed produced x') :
    Owned (produced + rest) x' := by
  cases effect with
  | create | parse | misread | readUnclaimed | notCreated | inProgress | took | openSource | validate
  | stream | streamEnd | stopping =>
    exact owned.swap (fun id => by simp [holders_singleton, Item.holder?, Item.token?, Item.stage])
      fun id => ⟨rfl, rfl⟩
  | destroy id => exact owned.swap (fun _ => rfl) fun other => by simp
  | readClaimed id arguments positional callback source split found free served =>
    rw [zero_add] at owned
    exact owned.claim free rfl rfl
  | cancel id =>
    exact owned.swap (fun _ => rfl) (same_holder_of_cancel x id)
  | decodeFailed environment id generation source positional callback rejection =>
    rw [calm _ (Multiset.mem_singleton_self _) callback rfl, zero_add]
    exact owned.release rfl
  | readStopped id arguments positional callback source split found free gone => cases gone
  | startQuery environment id generation source positional callback command notes made quiet =>
    refine owned.swap (fun id => ?_) fun id => ⟨rfl, rfl⟩
    simp [holders_singleton, Item.holder?, Item.token?, Item.stage, ReadCommand.generation_ofArguments made]
  | opened | validated =>
    refine owned.swap (fun id => ?_) fun id => by simp
    simp [holders_singleton, Item.holder?, Item.token?]
  | queryFailed environment id generation result callback reason failed =>
    rw [calm _ (Multiset.mem_singleton_self _) callback rfl, zero_add]
    exact owned.release rfl
  | accept environment id generation command callback =>
    have same : command.generation = generation := agreed _ (Multiset.mem_singleton_self _)
    exact owned.advance rfl (by rw [← same]; rfl) rfl
  | acceptAborted environment id generation command callback aborts =>
    -- The slot would stay taken here, but no calm callback aborts.
    have quiet := calm _ (Multiset.mem_singleton_self _) callback rfl
    rw [aborts] at quiet
    cases quiet
  | finish environment id generation numBytes result =>
    rw [zero_add]
    exact owned.release rfl
  | query environment i id command callback =>
    refine owned.swap (fun id => ?_) fun id => ⟨rfl, rfl⟩
    simp [holders_singleton, Item.holder?, Item.token?, Item.stage]

/-! ### Runs -/

theorem owned_of_run {n : Nat} (positive : 0 < n) {history : List Occurrence} {s : Scheduler}
    (run : Run Action.IsCalm (start n) history s) :
    Owned s.pending s.sessions ∧ ∀ i ∈ s.pending, i.Agrees := by
  refine calm_run_induction positive (P := fun _ s => Owned s.pending s.sessions ∧ ∀ i ∈ s.pending, i.Agrees)
    ⟨owned_start n, by simp⟩ ?_ run
  intro history s s' a o rest consumed produced _ holds before after calm effect
  rw [before] at holds
  obtain ⟨owned, agreed⟩ := holds
  have consumed_agree : ∀ i ∈ consumed, i.Agrees := fun i member =>
    agreed i (Multiset.mem_add.mpr (.inl member))
  rw [after]
  refine ⟨owned.step consumed_agree calm effect, ?_⟩
  intro i member
  rcases Multiset.mem_add.mp member with new | old
  · exact effect.agrees i new
  · exact agreed i (Multiset.mem_add.mpr (.inr old))

theorem card_carriers (s : Scheduler) (id generation : Nat) :
    (s.carriers id generation).card
      = ((holders id s.pending).filter fun read => read.generation = generation).card := by
  unfold carriers
  induction s.pending using Multiset.induction_on with
  | empty => rfl
  | cons i items ih =>
    rw [← Multiset.singleton_add, holders_add, Multiset.filter_add, Multiset.filter_add, Multiset.card_add,
      Multiset.card_add, ih, holders_singleton]
    congr 1
    -- An item carries the token exactly if the holder it names has the generation.
    by_cases token : i.token? = some (id, generation)
    · simp [Multiset.filter_singleton, token, holder?_of_token token]
    · cases holder : i.holder? id with
      | none => simp [Multiset.filter_singleton, token]
      | some read =>
        have other : read.generation ≠ generation := by
          rintro rfl
          exact token (Item.holder?_eq_some_iff.mp holder).1
        simp [Multiset.filter_singleton, token, other]

theorem card_carriers_of_owned {s : Scheduler} (owned : Owned s.pending s.sessions) (id generation : Nat) :
    (s.carriers id generation).card
      = if (s.sessions id).slot.isHeldBy generation then 1 else 0 := by
  rw [card_carriers, owned.held id]
  unfold ReadSlot.isHeldBy
  cases (s.sessions id).slot.active with
  | none => rfl
  | some read => by_cases same : read.generation = generation <;> simp [same, Multiset.filter_singleton]

theorem Item.stage_of_token {i : Item} {id generation : Nat} (token : i.token? = some (id, generation)) :
    i.stage = .reading ∨ i.stage = .streaming := by
  unfold Item.token? at token
  split at token <;> first | exact .inl rfl | exact .inr rfl | cases token

theorem state_of_carrier {s : Scheduler} (owned : Owned s.pending s.sessions) {id generation : Nat}
    {i : Item} (member : i ∈ s.carriers id generation) : (s.sessions id).slot.state = i.stage := by
  obtain ⟨pending, token⟩ := Multiset.mem_filter.mp member
  obtain ⟨rest, split⟩ := Multiset.exists_cons_of_mem pending
  rw [← Multiset.singleton_add] at split
  have active := (held_by_carrier owned split (holder?_of_token token)).1
  rcases Item.stage_of_token token with reads | streams
  · simp [ReadSlot.state, active, reads]
  · simp [ReadSlot.state, active, streams]

theorem splitCallback_append (positional : List Argument) (callback : Callback) :
    Argument.splitCallback (positional ++ [.callback callback]) = .ok (positional, callback) := by
  simp [Argument.splitCallback]

/-- In every state of a calm run, for every session: a generation holds the slot exactly if one pending item
carries its token, and otherwise none does; the slot is reading until the control thread has taken up the answer
of the query, and streaming from then on. So in a quiet state it is free, and the next read of a session with a
source is claimed. -/
theorem slot_held_iff_one_carrier {n : Nat} (positive : 0 < n) {history : List Occurrence} {s : Scheduler}
    (run : Run Action.IsCalm (start n) history s) (id : Nat) :
    (∀ generation, (s.sessions id).slot.isHeldBy generation = true ↔ (s.carriers id generation).card = 1) ∧
    (∀ generation, (s.sessions id).slot.isHeldBy generation = false → s.carriers id generation = 0) ∧
    (∀ generation, ∀ i ∈ s.carriers id generation, (s.sessions id).slot.state = i.stage) ∧
    (s.IsQuiet → (s.sessions id).slot.state = .idle ∧
      ∀ source positional callback, (s.sessions id).source = some source →
        ∃ after generation, s.call (.read id (positional ++ [.callback callback]))
            = (after, .read (.ok ()) (some source) (some generation)) ∧
          (after.sessions id).slot.isHeldBy generation = true) := by
  obtain ⟨owned, -⟩ := owned_of_run positive run
  have cards := card_carriers_of_owned owned id
  refine ⟨fun generation => ?_, fun generation free => ?_, fun generation i => state_of_carrier owned, ?_⟩
  · rw [cards generation]
    cases (s.sessions id).slot.isHeldBy generation <;> simp
  · have none_left := cards generation
    rw [free] at none_left
    exact Multiset.card_eq_zero.mp none_left
  · intro quiet
    -- Nothing is pending, so nothing names a holder.
    have free : (s.sessions id).slot.active = none := by
      have held := owned.held id
      rw [pending_of_quiet quiet] at held
      cases active : (s.sessions id).slot.active with
      | none => rfl
      | some read => simp [active] at held
    refine ⟨by simp [ReadSlot.state, free], ?_⟩
    intro source positional callback found
    have alive := (serving_of_run (fun _ => Action.IsCalm.on) positive run).alive
    have claimed := read_claimed (splitCallback_append positional callback) found free alive
    refine ⟨(s.read id (positional ++ [.callback callback])).1, (s.sessions id).slot.issued + 1, ?_, ?_⟩
    · simp [call, claimed, found, newHolder?, ReadSlot.isActive, free]
    · simp [claimed, ReadSlot.isHeldBy]

/-- Of two reads that are called before the first gets its answer, the first holds the slot while its query
runs. -/
theorem first_read_holds_slot :
    Run Action.IsCalm (start 2) ((start 2).follow twoReads).2 ((start 2).follow twoReads).1 ∧
    (((start 2).follow twoReads).1.carriers 0 1).card = 1 := by
  have run := run_follow (start 2) twoReads calm_twoReads
  exact ⟨run, ((slot_held_iff_one_carrier (by decide) run 0).1 1).mp rfl⟩

end Scheduler

end PointStream
