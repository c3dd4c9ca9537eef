import PointStream.Proofs.Scheduler.Ownership

/-!
# The events of a read

A history tells which reads claimed the slot of their session, and what each of them has shown. A read shows its
events in one of three orders: it is refused at once, its query fails, or it is accepted, transmitted and
finished. What an item of the read has yet to do continues what the read has shown so far, so the item and the
events together tell where the read stands.
-/

namespace PointStream

open Scheduler

def Contact.isConnect : Contact → Bool
  | connect _ _ => true
  | _ => false

def Event.isAnswer : Event → Bool
  | answered _ _ _ => true
  | _ => false

def Report.generation? : Report → Option Nat
  | readRejected _ => none
  | readAccepted generation _ _ | readFailed generation _ | transmitStarted generation _ _ _
  | transmitFinished generation _ => some generation

def Event.token? : Event → Option (Nat × Nat)
  | reported session report => report.generation?.map (session, ·)
  | contacted session generation _ => some (session, generation)
  | answered _ _ _ | noted _ _ => none

/-- The event reports the end of the transmission of a read. -/
def Event.finishes (id generation : Nat) : Event → Bool
  | reported session (.transmitFinished g _) => session == id && g == generation
  | _ => false

theorem Event.finishes_iff {id generation : Nat} {e : Event} :
    e.finishes id generation = true ↔ ∃ outcome, e = .reported id (.transmitFinished generation outcome) := by
  constructor
  · intro finishes
    unfold Event.finishes at finishes
    split at finishes
    next session g outcome =>
      obtain ⟨rfl, rfl⟩ : session = id ∧ g = generation := by simpa using finishes
      exact ⟨outcome, rfl⟩
    next => cases finishes
  · rintro ⟨outcome, rfl⟩
    simp [Event.finishes]

namespace Scheduler

/-! ### What a history tells of a read -/

/-- A read that claimed the slot of its session. -/
structure Claim where
  session : Nat
  generation : Nat
  source : Source
  positional : List Argument
  callback : Callback

/-- The claim that a step makes. -/
def Occurrence.claim? (o : Occurrence) : Option Claim :=
  match o.deed with
  | .called (.read session arguments) (.read (.ok ()) (some source) (some generation)) =>
    match Argument.splitCallback arguments with
    | .ok (positional, callback) => some ⟨session, generation, source, positional, callback⟩
    | .error _ => none
  | _ => none

def claims (history : List Occurrence) : List Claim := history.filterMap Occurrence.claim?

/-- The read whose item is worked on in a step. -/
def Deed.token? : Deed → Option (Nat × Nat)
  | .ran j => (Item.job j).token?
  | .worked _ t => (Item.task t).token?
  | .called .. | .took .. | .stopping => none

/-- What a step shows to callbacks, observers and consumers. -/
def Occurrence.shown (o : Occurrence) : List Event := o.events.filter fun e => !e.isNote

/-- What a step shows of the read of a generation. -/
def Occurrence.shownOf (id generation : Nat) (o : Occurrence) : List Event :=
  if o.deed.token? = some (id, generation) then o.shown else []

/-- What a history shows of the read of a generation. -/
def eventsOf (id generation : Nat) (history : List Occurrence) : List Event :=
  history.flatMap (Occurrence.shownOf id generation)

/-- The generation of a session whose item is worked on in a step. -/
def Occurrence.turn? (id : Nat) (o : Occurrence) : Option Nat :=
  o.deed.token?.bind fun (session, generation) => if session = id then some generation else none

/-- The generations of a session in the order in which their items are worked on. -/
def turns (id : Nat) (history : List Occurrence) : List Nat := history.filterMap (Occurrence.turn? id)

theorem shown_notes {notes : List Event} (quiet : ∀ e ∈ notes, e.isNote = true) (d : Deed)
    (events : List Event) : (⟨d, notes ++ events⟩ : Occurrence).shown = (⟨d, events⟩ : Occurrence).shown := by
  unfold Occurrence.shown
  rw [List.filter_append, List.filter_eq_nil_iff.mpr, List.nil_append]
  intro e member
  simp [quiet e member]

theorem shown_contacts (d : Deed) (id generation : Nat) (contacts : List Contact) :
    (⟨d, contacts.map (.contacted id generation)⟩ : Occurrence).shown
      = contacts.map (.contacted id generation) := by
  unfold Occurrence.shown
  rw [List.filter_eq_self]
  intro e member
  obtain ⟨contact, _, rfl⟩ := List.mem_map.mp member
  rfl

theorem claims_snoc (history : List Occurrence) (o : Occurrence) :
    claims (history ++ [o]) = claims history ++ o.claim?.toList := by
  unfold claims
  rw [List.filterMap_append]
  cases h : o.claim? <;> simp [h]

theorem mem_claims_append {c : Claim} {early : List Occurrence} (claimed : c ∈ claims early)
    (late : List Occurrence) : c ∈ claims (early ++ late) := by
  rw [claims, List.filterMap_append]
  exact List.mem_append_left _ claimed

theorem eventsOf_snoc (id generation : Nat) (history : List Occurrence) (o : Occurrence) :
    eventsOf id generation (history ++ [o]) = eventsOf id generation history ++ o.shownOf id generation := by
  simp [eventsOf]

theorem turns_snoc (id : Nat) (history : List Occurrence) (o : Occurrence) :
    turns id (history ++ [o]) = turns id history ++ (o.turn? id).toList := by
  unfold turns
  rw [List.filterMap_append]
  cases h : o.turn? id <;> simp [h]

theorem eventsOf_snoc_of_silent {o : Occurrence} (silent : o.deed.token? = none) (id generation : Nat)
    (history : List Occurrence) :
    eventsOf id generation (history ++ [o]) = eventsOf id generation history := by
  simp [eventsOf_snoc, Occurrence.shownOf, silent]

theorem turns_snoc_of_silent {o : Occurrence} (silent : o.deed.token? = none) (id : Nat)
    (history : List Occurrence) : turns id (history ++ [o]) = turns id history := by
  simp [turns_snoc, Occurrence.turn?, silent]

theorem turn?_eq_some_iff {id generation : Nat} {o : Occurrence} :
    o.turn? id = some generation ↔ o.deed.token? = some (id, generation) := by
  unfold Occurrence.turn?
  cases o.deed.token? with
  | none => simp
  | some token =>
    obtain ⟨session, other⟩ := token
    by_cases same : session = id <;> simp [same]

theorem mem_turns_iff {id generation : Nat} {history : List Occurrence} :
    generation ∈ turns id history ↔ ∃ o ∈ history, o.deed.token? = some (id, generation) := by
  simp [turns, turn?_eq_some_iff]

theorem eventsOf_of_no_turn {id generation : Nat} {history : List Occurrence}
    (no_turn : generation ∉ turns id history) : eventsOf id generation history = [] := by
  unfold eventsOf
  rw [List.flatMap_eq_nil_iff]
  intro o member
  unfold Occurrence.shownOf
  split
  next token => exact absurd (mem_turns_iff.mpr ⟨o, member, token⟩) no_turn
  next => rfl

/-! ### Whose events are shown -/

/-- The event is shown by the thread and for the read that it belongs to. -/
structure Occurrence.Attributes (o : Occurrence) (e : Event) : Prop where
  answers : e.isAnswer = true → ∃ j, o.deed = .ran j
  names : ∀ token, e.token? = some token → o.deed.token? = some token

theorem attributes_of_note {o : Occurrence} {e : Event} (note : e.isNote = true) : o.Attributes e := by
  cases e with
  | noted =>
    constructor
    · intro answer
      cases answer
    · intro token named
      cases named
  | _ => cases note

theorem attributes_of_answer {j : ControlJob} {events : List Event} {id : Nat} {callback : Callback}
    {answer : Answer} : (⟨.ran j, events⟩ : Occurrence).Attributes (.answered id callback answer) where
  answers _ := ⟨j, rfl⟩
  names token named := by cases named

theorem attributes_of_report {d : Deed} {events : List Event} {id : Nat} {report : Report}
    (about : ∀ generation, report.generation? = some generation → d.token? = some (id, generation)) :
    (⟨d, events⟩ : Occurrence).Attributes (.reported id report) where
  answers answer := by cases answer
  names token named := by
    obtain ⟨generation, reported, rfl⟩ := Option.map_eq_some_iff.mp named
    exact about generation reported

theorem attributes_of_contact {d : Deed} {id generation : Nat} (token : d.token? = some (id, generation))
    (contacts : List Contact) :
    ∀ e ∈ contacts.map (Event.contacted id generation),
      (⟨d, contacts.map (Event.contacted id generation)⟩ : Occurrence).Attributes e := by
  intro e member
  obtain ⟨contact, _, rfl⟩ := List.mem_map.mp member
  constructor
  · intro answer
    cases answer
  · intro token named
    cases named
    assumption

/-- An event that names a read is shown for that read, and an answer is given by the control thread. -/
theorem Effect.attributed {working alive : Bool} {x x' : Nat → Session} {a : Action} {o : Occurrence}
    {consumed produced : Multiset Item} (effect : Effect working alive x a o consumed produced x') :
    ∀ e ∈ o.events, o.Attributes e := by
  cases effect with
  | notCreated | inProgress =>
    rw [List.forall_mem_cons, List.forall_mem_singleton]
    exact ⟨attributes_of_report nofun, attributes_of_answer⟩
  | decodeFailed environment id generation source positional callback rejection notes refused quiet =>
    rw [List.forall_mem_append, List.forall_mem_singleton]
    exact ⟨fun e member => attributes_of_note (quiet e member), attributes_of_answer⟩
  | startQuery environment id generation source positional callback command notes made quiet =>
    exact fun e member => attributes_of_note (quiet e member)
  | opened environment id result callback notes quiet =>
    rw [List.forall_mem_append, List.forall_mem_singleton]
    exact ⟨fun e member => attributes_of_note (quiet e member), attributes_of_answer⟩
  | validated =>
    rw [List.forall_mem_singleton]
    exact attributes_of_answer
  | queryFailed =>
    rw [List.forall_mem_cons, List.forall_mem_singleton]
    exact ⟨attributes_of_report fun generation same => by cases same; rfl, attributes_of_answer⟩
  | accept =>
    rw [List.forall_mem_cons, List.forall_mem_cons, List.forall_mem_singleton]
    exact ⟨attributes_of_report fun generation same => by cases same; rfl, attributes_of_answer,
      attributes_of_report fun generation same => by cases same; rfl⟩
  | acceptAborted =>
    rw [List.forall_mem_cons, List.forall_mem_singleton]
    exact ⟨attributes_of_report fun generation same => by cases same; rfl, attributes_of_answer⟩
  | finish =>
    rw [List.forall_mem_singleton]
    exact attributes_of_report fun generation same => by cases same; rfl
  | stream environment i id command t t' contacts => exact attributes_of_contact rfl contacts
  | streamEnd environment i id command t contacts => exact attributes_of_contact rfl contacts
  | _ => simp

theorem attributed_of_run {admits : Action → Prop} {initial s : Scheduler} {history : List Occurrence}
    (run : Run admits initial history s) : ∀ o ∈ history, ∀ e ∈ o.events, o.Attributes e := by
  induction run with
  | start => simp
  | step _ _ acted ih =>
    obtain ⟨_, _, _, _, _, effect⟩ := act_effect acted
    rw [List.forall_mem_append, List.forall_mem_singleton]
    exact ⟨ih, effect.attributed⟩

/-! ### The three orders -/

/-- The events with which an accepted read begins. -/
def acceptance (c : Claim) (filled : ReadCommand) : List Event := [
  .reported c.session (.readAccepted c.generation filled.numPoints filled.numBytes),
  .answered c.session c.callback (.read (.accepted filled.numPoints filled.numBytes)),
  .reported c.session (.transmitStarted c.generation filled.host filled.port filled.numBytes)]

/-- The events of an accepted read from then on until its connection was used for some contacts. -/
def transmission (c : Claim) (filled : ReadCommand) (contacts : List Contact) : List Event :=
  acceptance c filled
    ++ (Contact.connect filled.host filled.port :: contacts).map (.contacted c.session c.generation)

def Claim.Makes (c : Claim) (command : ReadCommand) : Prop :=
  ReadCommand.ofArguments c.source c.positional c.generation = .ok command

/-- The command of the claim ran to its end and was filled. -/
def Claim.Fills (c : Claim) (filled : ReadCommand) : Prop :=
  ∃ command, c.Makes command ∧ command.run = (filled, .returned (.ok ()))

def OnlyUses (contacts : List Contact) : Prop := ∀ contact ∈ contacts, contact.isConnect = false

/-- All that a read which claimed the slot shows, in order. -/
inductive Lifecycle (c : Claim) : List Event → Prop
  /-- The arguments cannot be decoded, or no command can be made of them. -/
  | undecodable (rejection : Rejection)
      (refused : ReadCommand.ofArguments c.source c.positional c.generation = .error rejection) :
      Lifecycle c [refusal c.session c.callback rejection.message]
  /-- The query fails or is aborted. -/
  | failed (command : ReadCommand) (reason : String) (made : c.Makes command)
      (fails : failure? (queryResult command) = some reason) :
      Lifecycle c [.reported c.session (.readFailed c.generation reason),
        refusal c.session c.callback reason]
  | streamed (filled : ReadCommand) (contacts : List Contact) (outcome : Outcome) (fills : c.Fills filled)
      (uses : OnlyUses contacts) :
      Lifecycle c (transmission c filled contacts
        ++ [.reported c.session (.transmitFinished c.generation outcome)])

/-- What a claim has shown while an item of it is pending. -/
inductive Underway (c : Claim) : Item → List Event → Prop
  | posted :
      Underway c (.job (.startRead c.session (some c.source) (some c.generation) c.positional c.callback)) []
  | querying (command : ReadCommand) (made : c.Makes command) :
      Underway c (.task (.query c.session command c.callback)) []
  | queried (command : ReadCommand) (made : c.Makes command) :
      Underway c (.job (.queried c.session c.generation (queryResult command) c.callback)) []
  | connecting (filled : ReadCommand) (fills : c.Fills filled) (t : Transmission)
      (phase : t.phase = .connecting) :
      Underway c (.task (.stream c.session filled t)) (acceptance c filled)
  | sending (filled : ReadCommand) (fills : c.Fills filled) (t : Transmission)
      (phase : t.phase ≠ .connecting) (contacts : List Contact) (uses : OnlyUses contacts) :
      Underway c (.task (.stream c.session filled t)) (transmission c filled contacts)
  | ended (filled : ReadCommand) (fills : c.Fills filled) (contacts : List Contact)
      (uses : OnlyUses contacts) (result : Attempt Outcome) :
      Underway c (.job (.streamed c.session c.generation filled.numBytes result))
        (transmission c filled contacts)

theorem Claim.Makes.generation {c : Claim} {command : ReadCommand} (made : c.Makes command) :
    command.generation = c.generation := ReadCommand.generation_ofArguments made

theorem Claim.Fills.generation {c : Claim} {filled : ReadCommand} (fills : c.Fills filled) :
    filled.generation = c.generation := by
  obtain ⟨command, made, ran⟩ := fills
  have kept := command.generation_run
  rw [ran] at kept
  rw [kept, made.generation]

theorem countP_finishes_acceptance (c : Claim) (filled : ReadCommand) (id generation : Nat) :
    (acceptance c filled).countP (Event.finishes id generation) = 0 := by
  simp [acceptance, Event.finishes]

theorem countP_finishes_transmission (c : Claim) (filled : ReadCommand) (contacts : List Contact)
    (id generation : Nat) : (transmission c filled contacts).countP (Event.finishes id generation) = 0 := by
  rw [transmission, List.countP_append, countP_finishes_acceptance, List.countP_eq_zero.mpr]
  intro e member
  obtain ⟨contact, _, rfl⟩ := List.mem_map.mp member
  simp [Event.finishes]

/-- As long as an item of a read is pending the end of its transmission has not been reported. -/
theorem Underway.countP_finishes {c : Claim} {i : Item} {events : List Event} (underway : Underway c i events)
    (id generation : Nat) : events.countP (Event.finishes id generation) = 0 := by
  cases underway with
  | posted | querying | queried => rfl
  | connecting filled => exact countP_finishes_acceptance c filled id generation
  | sending filled fills t phase contacts => exact countP_finishes_transmission c filled contacts id generation
  | ended filled fills contacts => exact countP_finishes_transmission c filled contacts id generation

theorem Underway.not_finished {c : Claim} {i : Item} {events : List Event} (underway : Underway c i events)
    (id generation : Nat) (outcome : Outcome) : .reported id (.transmitFinished generation outcome) ∉ events := by
  intro member
  exact List.countP_eq_zero.mp (underway.countP_finishes id generation) _ member (Event.finishes_iff.mpr ⟨outcome, rfl⟩)

theorem transmission_append (c : Claim) (filled : ReadCommand) (early late : List Contact) :
    transmission c filled early ++ late.map (.contacted c.session c.generation)
      = transmission c filled (early ++ late) := by
  simp [transmission]

/-! ### Steps of a transmission -/

theorem step_connecting {t : Transmission} (phase : t.phase = .connecting) (consumer : Consumer)
    (filled : ReadCommand) (cancelled : Bool) :
    (t.step consumer filled cancelled).1 = [.connect filled.host filled.port] := by
  simp [Transmission.step, phase]

theorem step_uses {t : Transmission} (phase : t.phase ≠ .connecting) (consumer : Consumer)
    (filled : ReadCommand) (cancelled : Bool) : OnlyUses (t.step consumer filled cancelled).1 := by
  intro contact member
  unfold Transmission.step at member
  split at member
  next connecting => exact absurd connecting phase
  next => simp at member
  next =>
    obtain rfl : contact = _ := by simpa using member
    unfold Consumer.offer
    split <;> rfl
  next =>
    obtain rfl : contact = _ := by simpa using member
    rfl

/-- What a transmission goes on with is connected. -/
theorem step_connected {t t' : Transmission} {consumer : Consumer} {filled : ReadCommand} {cancelled : Bool}
    (goes_on : (t.step consumer filled cancelled).2 = .goesOn t') : t'.phase ≠ .connecting := by
  unfold Transmission.step at goes_on
  split at goes_on
  next =>
    dsimp only at goes_on
    split at goes_on <;> cases goes_on
    simp
  next =>
    dsimp only at goes_on
    split at goes_on
    · cases goes_on
      simp
    · split at goes_on
      · cases goes_on
      · split at goes_on <;> cases goes_on
        simp
  next =>
    dsimp only at goes_on
    split at goes_on <;> cases goes_on
    dsimp only
    split <;> simp
  next =>
    dsimp only at goes_on
    split at goes_on <;> cases goes_on

theorem Underway.contacts {c : Claim} {filled : ReadCommand} {t : Transmission} {id : Nat}
    {events : List Event} (underway : Underway c (.task (.stream id filled t)) events) (consumer : Consumer)
    (cancelled : Bool) :
    c.Fills filled ∧ c.session = id ∧ ∃ contacts, OnlyUses contacts ∧
      events ++ (t.step consumer filled cancelled).1.map (.contacted c.session c.generation)
        = transmission c filled contacts := by
  cases underway with
  | connecting _ fills _ phase =>
    refine ⟨fills, rfl, [], by simp [OnlyUses], ?_⟩
    rw [step_connecting phase]
    rfl
  | sending _ fills _ phase contacts uses =>
    refine ⟨fills, rfl, contacts ++ (t.step consumer filled cancelled).1, ?_, transmission_append ..⟩
    intro contact member
    rcases List.mem_append.mp member with early | late
    · exact uses contact early
    · exact step_uses phase consumer filled cancelled contact late

/-- An answered query was that of a command that the claim makes, and nothing was shown before. -/
theorem Underway.of_queried {c : Claim} {id generation : Nat}
    {result : Attempt (ReadCommand × Except ReadError Unit)} {callback : Callback} {events : List Event}
    (underway : Underway c (.job (.queried id generation result callback)) events) :
    events = [] ∧ c.session = id ∧ c.generation = generation ∧ c.callback = callback ∧
      ∃ command, c.Makes command ∧ result = queryResult command := by
  cases underway with
  | queried command made => exact ⟨rfl, rfl, rfl, rfl, command, made, rfl⟩

theorem run_of_queryResult {command filled : ReadCommand} {result : Except ReadError Unit}
    (answered : .returned (filled, result) = queryResult command) :
    command.run = (filled, .returned result) := by
  unfold queryResult at answered
  split at answered
  next filled' result' ran =>
    cases answered
    exact ran
  next => cases answered

/-! ### Slots that change hands -/

theorem issued_released (x : Nat → Session) (id generation other : Nat) :
    (released x id generation other).slot.issued = (x other).slot.issued :=
  kept_withSlot ReadSlot.issued fun _ => ReadSlot.issued_release _ generation

theorem issued_advanced (x : Nat → Session) (id generation other : Nat) :
    (withSlot x id ((x id).slot.advance generation).2 other).slot.issued = (x other).slot.issued :=
  kept_withSlot ReadSlot.issued fun _ => ReadSlot.issued_advance _ generation

end Scheduler

end PointStream
