import PointStream.Proofs.Scheduler.Chronicle
import PointStream.Proofs.Transmit.Cancelling

/-!
# How far reads go

The loop of a read begins a chunk whenever it tests that the read is not cancelled. So the tests that a history shows
before the read was cancelled count the chunks that are ever begun, and bound the bytes that its consumer gets.
-/

namespace PointStream

open Scheduler

def Event.contact? : Event → Option Contact
  | contacted _ _ contact => some contact
  | _ => none

/-- The calls to consumers among some events. -/
def contactsOf (events : List Event) : List Contact := events.filterMap Event.contact?

@[simp] theorem contactsOf_append (early late : List Event) :
    contactsOf (early ++ late) = contactsOf early ++ contactsOf late := List.filterMap_append

@[simp] theorem contactsOf_contacted (id generation : Nat) (contacts : List Contact) :
    contactsOf (contacts.map (.contacted id generation)) = contacts := by
  induction contacts with
  | nil => rfl
  | cons contact rest ih => simpa [contactsOf, Event.contact?] using ih

namespace Scheduler

/-! ### Tokens -/

/-- The action cancels whatever read of a session is outstanding. -/
def Action.cancels (id : Nat) : Action → Bool
  | .call (.cancel session) => session == id
  | _ => false

/-- Reads are cancelled by cancels, and only those that hold the slot then. -/
theorem Effect.isCancelled {working alive : Bool} {x x' : Nat → Session} {a : Action} {o : Occurrence}
    {consumed produced : Multiset Item} (effect : Effect working alive x a o consumed produced x')
    (id generation : Nat) :
    (x' id).slot.isCancelled generation
      = ((x id).slot.isCancelled generation || (a.cancels id && (x id).slot.isHeldBy generation)) := by
  have kept (session : Nat) (slot : ReadSlot)
      (same : slot.isCancelled generation = (x session).slot.isCancelled generation) :
      (withSlot x session slot id).slot.isCancelled generation = (x id).slot.isCancelled generation :=
    kept_withSlot (fun slot => slot.isCancelled generation) fun _ => same
  cases effect with
  | cancel session =>
    rw [slot_withSlot]
    split
    next same => simp [Action.cancels, same, ReadSlot.isCancelled_cancel]
    next apart => simp [Action.cancels, Ne.symm apart]
  | readClaimed session | readStopped session =>
    simp only [Action.cancels, Bool.false_and, Bool.or_false]
    exact kept session _ rfl
  | decodeFailed environment session g source positional callback | queryFailed environment session g result callback =>
    cases callback.aborts <;> simp [released, kept, Action.cancels]
  | startQuery environment session g => cases working <;> simp [released, kept, Action.cancels]
  | accept environment session g =>
    cases working <;> simp [released, kept, Action.cancels]
  | acceptAborted environment session g => simp [kept, Action.cancels]
  | finish environment session g => simp [released, kept, Action.cancels]
  | destroy | opened | validated => simp [Action.cancels]
  | stopping a silent =>
    have not_cancel : a.cancels id = false := by
      cases a with
      | call c => exact absurd rfl (silent c)
      | _ => rfl
    simp [not_cancel]
  | _ => simp [Action.cancels]

/-! ### Tests -/

/-- The step tests whether a read was cancelled. -/
def Occurrence.tests (id generation : Nat) (o : Occurrence) : Bool :=
  match o.deed with
  | .worked _ (.stream session command t) => session == id && command.generation == generation && t.tests command
  | _ => false

/-- How often the loop of a read has tested whether the read was cancelled. -/
def tests (id generation : Nat) (history : List Occurrence) : Nat :=
  history.countP (Occurrence.tests id generation)

theorem tests_snoc (id generation : Nat) (history : List Occurrence) (o : Occurrence) :
    tests id generation (history ++ [o]) = tests id generation history + (o.tests id generation).toNat := by
  unfold tests
  rw [List.countP_append, List.countP_singleton]
  cases o.tests id generation <;> rfl

theorem token?_of_tests {id generation : Nat} {o : Occurrence} (tests : o.tests id generation = true) :
    o.deed.token? = some (id, generation) := by
  unfold Occurrence.tests at tests
  split at tests
  next i session command t works =>
    obtain ⟨⟨rfl, rfl⟩, -⟩ : (session = id ∧ command.generation = generation) ∧ t.tests command = true := by
      simpa using tests
    rw [works]
    rfl
  next => cases tests

theorem tests_of_no_turn {id generation : Nat} {history : List Occurrence}
    (no_turn : generation ∉ turns id history) : tests id generation history = 0 := by
  rw [tests, List.countP_eq_zero]
  intro o member tests
  exact no_turn (mem_turns_iff.mpr ⟨o, member, token?_of_tests tests⟩)

/-! ### How far a read goes -/

/-- What the contacts of a read and its number of chunks say of an item of it. -/
def Item.Metered (filled : ReadCommand) (obliging : Prop) (contacts : List Contact) (begun : Nat) : Item → Prop
  | .task (.stream _ _ t) => Transmission.Metered filled obliging contacts begun (.goesOn t)
  | .job (.streamed _ _ _ result) => Transmission.Metered filled obliging contacts begun (.ends result)
  | _ => contacts = [] ∧ begun = 0

/-- So many chunks of a claim have been begun: what this says of its pending item, of the bytes that its consumer
has got, and of the end that has been reported. -/
structure Measured (c : Claim) (filled : ReadCommand) (obliging : Prop) (begun : Nat)
    (history : List Occurrence) (items : Multiset Item) : Prop where
  carried : ∀ i ∈ items, i.token? = some (c.session, c.generation) →
    i.Metered filled obliging (contactsOf (eventsOf c.session c.generation history)) begun
  received : (Contact.received (contactsOf (eventsOf c.session c.generation history))).length
    ≤ min (begun * chunkSize) filled.numBytes
  reported : obliging → ∀ outcome,
    .reported c.session (.transmitFinished c.generation outcome) ∈ eventsOf c.session c.generation history →
    outcome = Transmission.verdict filled begun

theorem Claim.Fills.unique {c : Claim} {filled other : ReadCommand} (fills : c.Fills filled)
    (fills_other : c.Fills other) : filled = other := by
  obtain ⟨command, made, ran⟩ := fills
  obtain ⟨command', made', ran'⟩ := fills_other
  obtain rfl : command = command' := Except.ok.inj (made.symm.trans made')
  exact congrArg Prod.fst (ran.symm.trans ran')

theorem Claim.Fills.numBytes_le {c : Claim} {filled : ReadCommand} (fills : c.Fills filled) :
    filled.numBytes ≤ filled.capacity := by
  obtain ⟨command, made, ran⟩ := fills
  exact ReadCommand.numBytes_le_of_run ran

/-- What is taken away in a step belongs to the read that is worked on. -/
theorem Effect.consumed_carried {working alive : Bool} {x x' : Nat → Session} {a : Action} {o : Occurrence}
    {consumed produced : Multiset Item} (effect : Effect working alive x a o consumed produced x') :
    ∀ i ∈ consumed, o.deed.token? = i.token? := by
  cases effect with
  | create | parse | destroy | misread | readUnclaimed | readClaimed | readStopped | cancel | took | stopping => simp
  | _ => exact forall_singleton rfl

namespace Measured

variable {c : Claim} {filled : ReadCommand} {obliging : Prop} {begun : Nat} {history : List Occurrence}
  {o : Occurrence} {consumed produced rest : Multiset Item}

/-- A step of another read, or of none, leaves the measure as it is. -/
theorem pass {working alive : Bool} {x x' : Nat → Session} {a : Action}
    (measured : Measured c filled obliging begun history (consumed + rest))
    (elsewhere : o.deed.token? ≠ some (c.session, c.generation))
    (issued : c.generation ≤ (x c.session).slot.issued) (agreed : ∀ i ∈ consumed, i.Agrees)
    (effect : Effect working alive x a o consumed produced x') :
    Measured c filled obliging begun (history ++ [o]) (produced + rest) := by
  have events_same : eventsOf c.session c.generation (history ++ [o])
      = eventsOf c.session c.generation history := by
    rw [eventsOf_snoc, Occurrence.shownOf, if_neg elsewhere, List.append_nil]
  constructor
  case carried =>
    intro i member token
    rw [events_same]
    rcases Multiset.mem_add.mp member with new | old
    · -- A new item of the read would continue one that is worked on, or be that of a later claim.
      rcases effect.produced_carried agreed i new _ _ token with ⟨j, taken, carried⟩ | fresh
      · exact absurd (effect.consumed_carried j taken ▸ carried) elsewhere
      · omega
    · exact measured.carried i (Multiset.mem_add.mpr (.inr old)) token
  case received =>
    rw [events_same]
    exact measured.received
  case reported =>
    rw [events_same]
    exact measured.reported

/-- The item of the read is worked on. -/
theorem turn {x : Nat → Session} {i : Item}
    (told : Chronicle True history ({i} + rest) x) (token : i.token? = some (c.session, c.generation))
    (works : o.deed.token? = some (c.session, c.generation)) {later : Nat}
    (carried : ∀ j ∈ produced,
      j.Metered filled obliging (contactsOf (eventsOf c.session c.generation history ++ o.shown)) later)
    (received : (Contact.received (contactsOf (eventsOf c.session c.generation history ++ o.shown))).length
      ≤ min (later * chunkSize) filled.numBytes)
    (reported : obliging → ∀ outcome, .reported c.session (.transmitFinished c.generation outcome)
      ∈ eventsOf c.session c.generation history ++ o.shown → outcome = Transmission.verdict filled later) :
    Measured c filled obliging later (history ++ [o]) (produced + rest) := by
  have events_more : eventsOf c.session c.generation (history ++ [o])
      = eventsOf c.session c.generation history ++ o.shown := by
    rw [eventsOf_snoc, Occurrence.shownOf, if_pos works]
  rw [← events_more] at carried received reported
  refine ⟨fun j member token_j => ?_, received, reported⟩
  rcases Multiset.mem_add.mp member with new | old
  · exact carried j new
  · -- The slot has one carrier.
    exact absurd token_j (token?_of_holders (told.held_by token).2 old _)

/-- An item of the read that neither contacts the consumer nor reports the end is worked on. -/
theorem quiet_turn {x : Nat → Session} {i : Item}
    (measured : Measured c filled obliging begun history ({i} + rest))
    (told : Chronicle True history ({i} + rest) x) (token : i.token? = some (c.session, c.generation))
    (works : o.deed.token? = some (c.session, c.generation)) (no_contact : contactsOf o.shown = [])
    (no_end : ∀ outcome, .reported c.session (.transmitFinished c.generation outcome) ∉ o.shown)
    (carried : ∀ j ∈ produced,
      j.Metered filled obliging (contactsOf (eventsOf c.session c.generation history)) begun) :
    Measured c filled obliging begun (history ++ [o]) (produced + rest) := by
  have same : contactsOf (eventsOf c.session c.generation history ++ o.shown)
      = contactsOf (eventsOf c.session c.generation history) := by
    rw [contactsOf_append, no_contact, List.append_nil]
  refine turn told token works ?_ ?_ ?_
  · rwa [same]
  · rw [same]
    exact measured.received
  · intro obliged outcome member
    rcases List.mem_append.mp member with earlier | now
    · exact measured.reported obliged outcome earlier
    · exact absurd now (no_end outcome)

/-- The worker takes a step of the transmission. -/
theorem stream_turn {x : Nat → Session} {environment : Environment} {i : Nat} {t : Transmission}
    {contacts : List Contact} {next : Transmission.Next}
    (measured : Measured c filled obliging begun history ({.task (.stream c.session filled t)} + rest))
    (told : Chronicle True history ({.task (.stream c.session filled t)} + rest) x) (fills : c.Fills filled)
    (stepped : t.step (environment.consumer c.session filled.generation filled.host filled.port) filled
      ((x c.session).slot.isCancelled filled.generation) = (contacts, next))
    (obliges : obliging → ∀ host port,
      Transmission.Obliging (environment.consumer c.session c.generation host port))
    (carried : ∀ (contacts : List Contact) begun, Transmission.Metered filled obliging contacts begun next →
      ∀ j ∈ produced, j.Metered filled obliging contacts begun) :
    Measured c filled obliging
      (begun + (t.tests filled && !(x c.session).slot.isCancelled c.generation).toNat)
      (history ++ [⟨.worked i (.stream c.session filled t), contacts.map (.contacted c.session filled.generation)⟩])
      (produced + rest) := by
  have token : (Item.task (.stream c.session filled t)).token? = some (c.session, c.generation) := by
    rw [← fills.generation]
    rfl
  have first : Item.task (.stream c.session filled t) ∈ {Item.task (.stream c.session filled t)} + rest :=
    Multiset.mem_add.mpr (.inl (Multiset.mem_singleton_self _))
  rw [fills.generation] at stepped ⊢
  have metered := Transmission.step_metered fills.numBytes_le (fun obliged => obliges obliged filled.host filled.port)
    (measured.carried _ first token) ((x c.session).slot.isCancelled c.generation)
  rw [stepped] at metered
  have shows : contactsOf (eventsOf c.session c.generation history
        ++ (⟨.worked i (.stream c.session filled t), contacts.map (.contacted c.session c.generation)⟩ :
          Occurrence).shown)
      = contactsOf (eventsOf c.session c.generation history) ++ contacts := by
    rw [shown_contacts, contactsOf_append, contactsOf_contacted]
  have works : (⟨.worked i (.stream c.session filled t), contacts.map (.contacted c.session c.generation)⟩ :
      Occurrence).deed.token? = some (c.session, c.generation) := token
  refine turn told token works ?_ ?_ ?_
  · intro j new
    rw [shows]
    exact carried _ _ metered j new
  · rw [shows]
    exact metered.length_received_le fills.numBytes_le
  · intro obliged outcome member
    rw [shown_contacts] at member
    rcases List.mem_append.mp member with earlier | now
    · -- While an item of the read streams its end has not been reported.
      obtain ⟨d, -, -, -, underway, -⟩ := told.underway _ first _ _ token
      exact absurd earlier (underway.not_finished _ _ outcome)
    · simp at now

/-- The end of the read is reported. -/
theorem finish_turn {x : Nat → Session} {id generation numBytes : Nat} {result : Attempt Outcome}
    (measured : Measured c filled obliging begun history ({.job (.streamed id generation numBytes result)} + rest))
    (told : Chronicle True history ({.job (.streamed id generation numBytes result)} + rest) x)
    (token : (Item.job (.streamed id generation numBytes result)).token? = some (c.session, c.generation))
    (underway : Underway c (.job (.streamed id generation numBytes result))
      (eventsOf c.session c.generation history)) :
    Measured c filled obliging begun
      (history ++ [⟨.ran (.streamed id generation numBytes result),
        [.reported id (.transmitFinished generation (finalOutcome numBytes result))]⟩]) (0 + rest) := by
  have metered := measured.carried _ (Multiset.mem_add.mpr (.inl (Multiset.mem_singleton_self _))) token
  have works : (Deed.ran (.streamed id generation numBytes result)).token? = some (c.session, c.generation) := token
  have shows : (⟨.ran (.streamed id generation numBytes result),
      [.reported id (.transmitFinished generation (finalOutcome numBytes result))]⟩ : Occurrence).shown
      = [.reported id (.transmitFinished generation (finalOutcome numBytes result))] := rfl
  have no_contact : contactsOf [.reported id (.transmitFinished generation (finalOutcome numBytes result))]
      = [] := rfl
  refine turn told token works (by simp) ?_ ?_
  · rw [shows, contactsOf_append, no_contact, List.append_nil]
    exact measured.received
  · intro obliged outcome member
    rw [shows] at member
    rcases List.mem_append.mp member with earlier | now
    · -- Until this step no end of the read has been reported.
      exact absurd earlier (underway.not_finished _ _ outcome)
    · obtain ⟨-, -, rfl⟩ : c.session = id ∧ c.generation = generation ∧
          outcome = finalOutcome numBytes result := by simpa using now
      rw [metered.2 obliged, finalOutcome]

/-- Every step of a run leaves as many chunks begun as tests have found the read not cancelled. -/
theorem step {working alive : Bool} {x x' : Nat → Session} {a : Action}
    (measured : Measured c filled obliging begun history (consumed + rest))
    (told : Chronicle True history (consumed + rest) x) (claimed : c ∈ claims history) (fills : c.Fills filled)
    (agreed : ∀ i ∈ consumed, i.Agrees) (effect : Effect working alive x a o consumed produced x')
    (obliges : obliging → ∀ environment m, a = .move environment m → ∀ host port,
      Transmission.Obliging (environment.consumer c.session c.generation host port)) :
    Measured c filled obliging
      (begun + (o.tests c.session c.generation && !(x c.session).slot.isCancelled c.generation).toNat)
      (history ++ [o]) (produced + rest) := by
  by_cases works : o.deed.token? = some (c.session, c.generation)
  case neg =>
    have untested : o.tests c.session c.generation = false := by
      cases tests : o.tests c.session c.generation with
      | false => rfl
      | true => exact absurd (token?_of_tests tests) works
    rw [untested]
    exact measured.pass works (told.issued c claimed) agreed effect
  case pos =>
    have first {i : Item} : i ∈ {i} + rest := Multiset.mem_add.mpr (.inl (Multiset.mem_singleton_self i))
    cases effect with
    | create | parse | destroy | misread | readUnclaimed | readClaimed | readStopped | cancel | took | stopping =>
      cases works
    | notCreated | inProgress | opened | validated | openSource | validate => cases works
    | decodeFailed environment id generation source positional callback rejection notes refused quiet =>
      have shows : (⟨.ran (.startRead id (some source) (some generation) positional callback),
          notes ++ [refusal id callback rejection.message]⟩ : Occurrence).shown
          = [refusal id callback rejection.message] := shown_notes quiet _ _
      refine measured.quiet_turn told works works ?_ ?_ (by simp)
      · rw [shows]
        rfl
      · rw [shows]
        simp [refusal]
    | startQuery environment id generation source positional callback command notes made quiet =>
      have shows : (⟨.ran (.startRead id (some source) (some generation) positional callback), notes⟩ :
          Occurrence).shown = [] := by
        rw [← List.append_nil notes]
        exact shown_notes quiet _ []
      have unasked := measured.carried _ first works
      refine measured.quiet_turn told works works ?_ ?_ (forall_sentIf unasked)
      · rw [shows]
        rfl
      · simp [shows]
    | queryFailed environment id generation result callback reason failed =>
      exact measured.quiet_turn told works works rfl (by simp [Occurrence.shown, Event.isNote, refusal]) (by simp)
    | accept environment id generation command callback calm =>
      obtain ⟨none_shown, none_begun⟩ := measured.carried _ first works
      refine measured.quiet_turn told works works rfl (by simp [Occurrence.shown, Event.isNote]) (forall_sentIf ?_)
      rw [none_shown, none_begun]
      exact Transmission.metered_connecting filled obliging
    | acceptAborted =>
      exact measured.quiet_turn told works works rfl (by simp [Occurrence.shown, Event.isNote]) (by simp)
    | finish environment id generation numBytes result =>
      exact measured.finish_turn told works (told.underway_of claimed first works)
    | query environment i id command callback =>
      have unasked := measured.carried _ first works
      exact measured.quiet_turn told works works rfl (by simp [Occurrence.shown]) (forall_sentIf unasked)
    | stream environment i id command t t' contacts stepped =>
      -- The transmission sends what the query of this claim has filled.
      obtain ⟨fills', rfl, -⟩ := (told.underway_of claimed first works).contacts
        (environment.consumer id command.generation command.host command.port) false
      obtain rfl := fills.unique fills'
      have turned := measured.stream_turn (i := i) told fills stepped
        (fun obliged => obliges obliged environment _ rfl)
        (fun _ _ metered => @forall_singleton _ (.task (.stream c.session filled t')) metered)
      simpa [Occurrence.tests, fills.generation] using turned
    | streamEnd environment i id command t contacts result stepped =>
      obtain ⟨fills', rfl, -⟩ := (told.underway_of claimed first works).contacts
        (environment.consumer id command.generation command.host command.port) false
      obtain rfl := fills.unique fills'
      have turned := measured.stream_turn (i := i) told fills stepped
        (fun obliged => obliges obliged environment _ rfl)
        (fun _ _ metered => @forall_sentIf _ alive (.job (.streamed c.session filled.generation filled.numBytes result))
          metered)
      simpa [Occurrence.tests, fills.generation] using turned

end Measured

/-! ### Runs -/

/-- No call that a move makes for a read fails. Every move has an environment of its own, so nothing is said of the
calls that it does not make. -/
def Action.Obliges (id generation : Nat) : Action → Prop
  | .move environment _ => ∀ host port, Transmission.Obliging (environment.consumer id generation host port)
  | .call _ | .shutdown => True

/-- A step that claims a slot found it free, and leaves nothing but its job. -/
theorem Effect.of_claim {working alive : Bool} {x x' : Nat → Session} {a : Action} {o : Occurrence}
    {consumed produced : Multiset Item} (effect : Effect working alive x a o consumed produced x') {c : Claim}
    (claims_slot : o.claim? = some c) :
    consumed = 0 ∧
    produced = {.job (.startRead c.session (some c.source) (some c.generation) c.positional c.callback)} ∧
    (x c.session).slot.active = none ∧ c.generation = (x c.session).slot.issued + 1 := by
  cases effect with
  | readClaimed id arguments positional callback source split found free served =>
    obtain rfl : (⟨id, (x id).slot.issued + 1, source, positional, callback⟩ : Claim) = c := by
      simpa [Occurrence.claim?, split] using claims_slot
    exact ⟨rfl, rfl, free, rfl⟩
  | readUnclaimed => simp [Occurrence.claim?] at claims_slot
  | _ => cases claims_slot

/-- A claim is made by a call, which works on no item. -/
theorem silent_of_claim {o : Occurrence} {c : Claim} (claims_slot : o.claim? = some c) : o.deed.token? = none := by
  unfold Occurrence.claim? at claims_slot
  split at claims_slot
  next called =>
    rw [called]
    rfl
  next => cases claims_slot

/-- A new claim has begun nothing. -/
theorem measured_of_claim {c : Claim} {filled : ReadCommand} {obliging : Prop} {working alive : Bool}
    {history : List Occurrence} {x x' : Nat → Session} {a : Action} {o : Occurrence}
    {consumed produced rest : Multiset Item} (told : Chronicle True history (consumed + rest) x)
    (effect : Effect working alive x a o consumed produced x') (claims_slot : o.claim? = some c) :
    Measured c filled obliging (tests c.session c.generation (history ++ [o])) (history ++ [o]) (produced + rest) := by
  obtain ⟨rfl, rfl, free, fresh⟩ := effect.of_claim claims_slot
  rw [zero_add] at told
  -- The generation is new, so it has had no turn and no test.
  have no_turn : c.generation ∉ turns c.session (history ++ [o]) := by
    rw [turns_snoc_of_silent (silent_of_claim claims_slot)]
    intro turn
    have earlier := told.turn_le turn
    omega
  have alone : holders c.session rest = 0 := by
    have carried := told.carried c.session
    rw [free] at carried
    exact Multiset.le_zero.mp carried
  rw [tests_of_no_turn no_turn]
  have nothing := eventsOf_of_no_turn no_turn
  constructor
  case carried =>
    intro i member token
    rw [nothing]
    rcases Multiset.mem_add.mp member with new | old
    · rw [Multiset.mem_singleton.mp new]
      exact ⟨rfl, rfl⟩
    · exact absurd token (token?_of_holders alone old _)
  case received =>
    rw [nothing]
    exact Nat.zero_le _
  case reported =>
    intro _ outcome member
    rw [nothing] at member
    cases member

section

variable {admits : Action → Prop} {n : Nat} {before after : List Occurrence} {s s' : Scheduler} {c : Claim}
  {filled : ReadCommand} {obliging : Prop}

/-- A step of a run begins a chunk exactly if it finds the read not cancelled. -/
theorem measured_act (positive : 0 < n) (fills : c.Fills filled) (run : Run admits (start n) before s)
    (claimed : c ∈ claims before) {begun : Nat} (measured : Measured c filled obliging begun before s.pending)
    {a : Action} {o : Occurrence} (acted : s.act? a = some (s', o))
    (obliges : obliging → a.Obliges c.session c.generation) :
    Measured c filled obliging
      (begun + (o.tests c.session c.generation && !(s.sessions c.session).slot.isCancelled c.generation).toNat)
      (before ++ [o]) s'.pending := by
  obtain ⟨told, agreed⟩ := chronicle_of_any_run positive run
  obtain ⟨rest, consumed, produced, split, merged, effect⟩ := act_effect acted
  rw [split] at told agreed measured
  rw [merged]
  exact measured.step told claimed fills (fun i member => agreed i (Multiset.mem_add.mpr (.inl member))) effect
    fun obliged environment m same => by simpa [same, Action.Obliges] using obliges obliged

/-- As long as a read is not cancelled every test begins a chunk. -/
theorem measured_of_run (positive : 0 < n) (obliges : obliging → ∀ a, admits a → a.Obliges c.session c.generation)
    (fills : c.Fills filled) (run : Run admits (start n) before s) (claimed : c ∈ claims before)
    (unset : (s.sessions c.session).slot.isCancelled c.generation = false) :
    Measured c filled obliging (tests c.session c.generation before) before s.pending := by
  induction run with
  | start => simp [claims] at claimed
  | @step history s a s' o earlier admitted acted ih =>
    obtain ⟨rest, consumed, produced, split, merged, effect⟩ := act_effect acted
    rw [claims_snoc, List.mem_append] at claimed
    rcases claimed with old | new
    · -- The read was not cancelled before this step either, so a test in it begins a chunk.
      rw [effect.isCancelled, Bool.or_eq_false_iff] at unset
      have stepped := measured_act positive fills earlier old (ih old unset.1) acted fun obliged =>
        obliges obliged a admitted
      rwa [unset.1, Bool.not_false, Bool.and_true, ← tests_snoc] at stepped
    · have told := (chronicle_of_any_run positive earlier).1
      rw [split] at told
      rw [merged]
      exact measured_of_claim told effect (by simpa using new)

/-- Once a read is cancelled no chunk is begun any more. -/
theorem measured_later (positive : 0 < n)
    (obliges : obliging → ∀ a, admits a → a.Obliges c.session c.generation) (fills : c.Fills filled)
    (run : Run admits (start n) before s) (claimed : c ∈ claims before)
    (set : (s.sessions c.session).slot.isCancelled c.generation = true) {begun : Nat}
    (measured : Measured c filled obliging begun before s.pending) (later : Run admits s after s') :
    (s'.sessions c.session).slot.isCancelled c.generation = true ∧
    Measured c filled obliging begun (before ++ after) s'.pending := by
  induction later with
  | start => exact ⟨set, by rwa [List.append_nil]⟩
  | @step history s₁ a s₂ o earlier admitted acted ih =>
    obtain ⟨still, measured⟩ := ih
    obtain ⟨_, _, _, _, _, effect⟩ := act_effect acted
    have stepped := measured_act positive fills (run.trans earlier) (mem_claims_append claimed history) measured acted
      fun obliged => obliges obliged a admitted
    rw [still, Bool.not_true, Bool.and_false, Bool.toNat_false, add_zero] at stepped
    refine ⟨by rw [effect.isCancelled, still, Bool.true_or], ?_⟩
    rwa [← List.append_assoc]

end

end Scheduler

end PointStream
