import PointStream.Proofs.Scheduler.Cancelling

/-!
# The course of a read

A read keeps the source and the claim that it got when it was called. What it shows then is determined step by step, by
the item of it that is worked on and by its consumer, and does not depend on what else is done in between. `solo` is
this course by itself, and in every run a read that holds its slot is at some point of it.
-/

namespace PointStream

open Scheduler

/-- The generation for which a read claims the slot of a session in this state. -/
def Session.claim? (session : Session) : Option Nat :=
  (session.source.bind fun _ => session.slot.begin?).map (·.1)

namespace Scheduler

/-! ### A read by itself -/

/-- What a step on an item of a read shows and what it leaves to be done, if the workers are there and the read is not
cancelled. -/
def Item.takeUp (consumer : String → Nat → Consumer) : Item → List Event × Option Item
  | .job (.startRead id none _ _ callback) =>
    ([.reported id (.readRejected notCreatedText), refusal id callback notCreatedText], none)
  | .job (.startRead id (some _) none _ callback) =>
    ([.reported id (.readRejected inProgressText), refusal id callback inProgressText], none)
  | .job (.startRead id (some source) (some generation) positional callback) =>
    match ReadCommand.ofArguments source positional generation with
    | .ok command => ([], some (.task (.query id command callback)))
    | .error rejection => ([refusal id callback rejection.message], none)
  | .task (.query id command callback) =>
    ([], some (.job (.queried id command.generation (queryResult command) callback)))
  | .job (.queried id generation (.returned (command, .ok ())) callback) =>
    let accepted := [
      .reported id (.readAccepted generation command.numPoints command.numBytes),
      .answered id callback (.read (.accepted command.numPoints command.numBytes))]
    if callback.aborts then (accepted, none)
    else (accepted ++ [.reported id (.transmitStarted generation command.host command.port command.numBytes)],
      some (.task (.stream id command {})))
  | .job (.queried id generation result callback) =>
    let reason := (failure? result).getD abortedText
    ([.reported id (.readFailed generation reason), refusal id callback reason], none)
  | .task (.stream id command t) =>
    match t.step (consumer command.host command.port) command false with
    | (contacts, .goesOn t') => (contacts.map (.contacted id command.generation), some (.task (.stream id command t')))
    | (contacts, .ends result) =>
      (contacts.map (.contacted id command.generation),
        some (.job (.streamed id command.generation command.numBytes result)))
  | .job (.streamed id generation numBytes result) =>
    ([.reported id (.transmitFinished generation (finalOutcome numBytes result))], none)
  | _ => ([], none)

/-- What a read has shown after so many steps on its items, and the item that is left of it. -/
def solo (consumer : String → Nat → Consumer) (first : Item) : Nat → List Event × Option Item
  | 0 => ([], some first)
  | k + 1 =>
    match solo consumer first k with
    | (shown, some i) => (shown ++ (i.takeUp consumer).1, (i.takeUp consumer).2)
    | (shown, none) => (shown, none)

section

variable {consumer : String → Nat → Consumer} {first i : Item} {k l : Nat}

theorem solo_succ (left : (solo consumer first k).2 = some i) :
    solo consumer first (k + 1) = ((solo consumer first k).1 ++ (i.takeUp consumer).1, (i.takeUp consumer).2) := by
  rw [solo]
  split
  next same =>
    rw [same] at left ⊢
    obtain rfl := Option.some.inj left
    rfl
  next same =>
    rw [same] at left
    cases left

theorem solo_ended (ended : (solo consumer first k).2 = none) (le : k ≤ l) :
    solo consumer first l = solo consumer first k := by
  induction l, le using Nat.le_induction with
  | base => rfl
  | succ l _ ih =>
    rw [solo, ih]
    split
    next same =>
      rw [same] at ended
      cases ended
    next same => exact same.symm

theorem solo_mono (le : k ≤ l) : (solo consumer first k).1 <+: (solo consumer first l).1 := by
  induction l, le using Nat.le_induction with
  | base => exact List.prefix_rfl
  | succ l _ ih =>
    -- A step shows something more, and one beyond the end nothing.
    cases left : (solo consumer first l).2 with
    | none => rwa [solo_ended left (Nat.le_succ l)]
    | some i =>
      rw [solo_succ left]
      exact ih.trans (List.prefix_append _ _)

/-- A read that claimed a slot is not refused for want of one. -/
theorem Item.takeUp_of_token (consumer : String → Nat → Consumer) (holds : i.token? ≠ none) :
    (∀ id reason, .reported id (.readRejected reason) ∉ (i.takeUp consumer).1) ∧
    ∀ j, (i.takeUp consumer).2 = some j → j.token? ≠ none := by
  unfold Item.takeUp
  -- The first two forms are reads without a slot; of the others, three go on in one of two ways.
  split
  case h_1 | h_2 => exact absurd rfl holds
  case h_3 | h_5 | h_7 => split <;> simp [refusal, Item.token?]
  case h_4 | h_6 | h_8 | h_9 => simp [refusal, Item.token?]

theorem solo_of_token (holds : first.token? ≠ none) :
    (∀ id reason, .reported id (.readRejected reason) ∉ (solo consumer first k).1) ∧
    ∀ j, (solo consumer first k).2 = some j → j.token? ≠ none := by
  induction k with
  | zero => exact ⟨fun id reason => List.not_mem_nil, fun j same => Option.some.inj same ▸ holds⟩
  | succ k ih =>
    obtain ⟨never, carries⟩ := ih
    cases left : (solo consumer first k).2 with
    | none =>
      rw [solo_ended left (Nat.le_succ k)]
      exact ⟨never, carries⟩
    | some i =>
      rw [solo_succ left]
      obtain ⟨not_now, carries_on⟩ := Item.takeUp_of_token consumer (carries i left)
      refine ⟨fun id reason member => ?_, carries_on⟩
      rcases List.mem_append.mp member with earlier | now
      · exact never id reason earlier
      · exact not_now id reason now

/-- A course ends in one way. -/
theorem solo_end_unique (ended : (solo consumer first k).2 = none) (ended' : (solo consumer first l).2 = none) :
    (solo consumer first k).1 = (solo consumer first l).1 := by
  rcases Nat.le_total k l with le | le
  · rw [solo_ended ended le]
  · rw [solo_ended ended' le]

end

/-! ### A step on an item of a read -/

section

variable {x x' : Nat → Session} {a : Action} {o : Occurrence} {consumed produced : Multiset Item} {id generation : Nat}
  {consumer : String → Nat → Consumer}

/-- A step on a read whose slot is claimed shows what comes next in its course, and leaves what is left then. -/
theorem Effect.takesUp (effect : Effect true true x a o consumed produced x')
    (works : o.deed.token? = some (id, generation)) (agreed : ∀ i ∈ consumed, i.Agrees)
    (uncancelled : (x id).slot.isCancelled generation = false)
    (offers : ∀ environment m, a = .move environment m → environment.consumer id generation = consumer) :
    ∃ i, consumed = {i} ∧ o.shown = (i.takeUp consumer).1 ∧ produced = (i.takeUp consumer).2.elim 0 ({·}) ∧
      ∀ j ∈ produced, j.token? = some (id, generation) := by
  cases effect with
  | create | parse | destroy | misread | readUnclaimed | readClaimed | readStopped | cancel | took | stopping
  | notCreated | inProgress | opened | validated | openSource | validate => cases works
  | decodeFailed environment session g source positional callback rejection notes refused quiet =>
    refine ⟨_, rfl, ?_, ?_, by simp⟩
    · rw [shown_notes quiet]
      simp only [Item.takeUp, refused]
      rfl
    · simp only [Item.takeUp, refused]
      rfl
  | startQuery environment session g source positional callback command notes made quiet =>
    refine ⟨_, rfl, ?_, ?_, forall_singleton ?_⟩
    · rw [← List.append_nil notes, shown_notes quiet]
      simp only [Item.takeUp, made]
      rfl
    · simp only [Item.takeUp, made]
      rfl
    · rw [← works, Item.token?, ReadCommand.generation_ofArguments made]
      rfl
  | queryFailed environment session g result callback reason failed =>
    -- A query that has failed brings no command that could be accepted.
    have course : (Item.job (.queried session g result callback)).takeUp consumer
        = ([.reported session (.readFailed g reason), refusal session callback reason], none) := by
      cases result with
      | aborted =>
        obtain rfl := Option.some.inj failed
        rfl
      | returned handed =>
        obtain ⟨command, outcome⟩ := handed
        cases outcome with
        | ok => cases failed
        | error e =>
          obtain rfl := Option.some.inj failed
          rfl
    exact ⟨_, rfl, by rw [course]; rfl, by rw [course]; rfl, by simp⟩
  | accept environment session g command callback calm =>
    refine ⟨_, rfl, ?_, ?_, forall_singleton ?_⟩
    · simp [Item.takeUp, calm, Occurrence.shown, Event.isNote]
    · simp [Item.takeUp, calm]
    · have same : command.generation = g := agreed _ (Multiset.mem_singleton_self _)
      rw [← works, Item.token?, same]
      rfl
  | acceptAborted environment session g command callback aborts =>
    refine ⟨_, rfl, ?_, ?_, by simp⟩
    · simp [Item.takeUp, aborts, Occurrence.shown, Event.isNote]
    · simp [Item.takeUp, aborts]
  | finish environment session g numBytes result => exact ⟨_, rfl, rfl, rfl, by simp⟩
  | query environment i session command callback => exact ⟨_, rfl, rfl, rfl, forall_singleton works⟩
  | stream environment i session command t t' contacts stepped =>
    -- The transmission sees no token and the consumer of its read.
    obtain ⟨rfl, rfl⟩ : session = id ∧ command.generation = generation := by
      simpa [Deed.token?, Item.token?] using works
    rw [uncancelled, offers environment _ rfl] at stepped
    refine ⟨_, rfl, ?_, ?_, forall_singleton works⟩
    · rw [shown_contacts]
      simp only [Item.takeUp, stepped]
    · simp only [Item.takeUp, stepped]
      rfl
  | streamEnd environment i session command t contacts result stepped =>
    obtain ⟨rfl, rfl⟩ : session = id ∧ command.generation = generation := by
      simpa [Deed.token?, Item.token?] using works
    rw [uncancelled, offers environment _ rfl] at stepped
    refine ⟨_, rfl, ?_, ?_, forall_singleton works⟩
    · rw [shown_contacts]
      simp only [Item.takeUp, stepped]
    · simp only [Item.takeUp, stepped]
      rfl

/-- A read that has not claimed a slot is refused when its job is run. -/
theorem Effect.refuses (effect : Effect true true x a o consumed produced x') {source : Option Source}
    {claim : Option Nat} {positional : List Argument} {callback : Callback}
    (runs : o.deed = .ran (.startRead id source claim positional callback)) (unclaimed : claim = none) :
    o.shown = ((Item.job (.startRead id source claim positional callback)).takeUp consumer).1 := by
  cases effect with
  | notCreated | inProgress =>
    cases runs
    rfl
  | decodeFailed | startQuery =>
    cases runs
    cases unclaimed
  | _ => cases runs

/-- A call of a read posts its job, with the source and the claim that the session has then. -/
theorem Effect.calls_read {positional : List Argument} {callback : Callback}
    (effect : Effect true true x (.call (.read id (positional ++ [.callback callback]))) o consumed produced x') :
    o.deed = .called (.read id (positional ++ [.callback callback])) (.read (.ok ()) (x id).source (x id).claim?) ∧
    produced = {.job (.startRead id (x id).source (x id).claim? positional callback)} := by
  have whole := splitCallback_append positional callback
  cases effect with
  | misread _ _ e split =>
    rw [whole] at split
    cases split
  | readUnclaimed _ _ positional' callback' split unclaimed =>
    obtain ⟨rfl, rfl⟩ : positional = positional' ∧ callback = callback' := by simpa [whole] using split
    have none_claimed : (x id).claim? = none := by
      unfold Session.claim?
      rcases unclaimed with missing | held
      · rw [missing]
        rfl
      · cases active : (x id).slot.active with
        | none => exact absurd active held
        | some read => simp [ReadSlot.begin?, active]
    rw [none_claimed]
    exact ⟨rfl, rfl⟩
  | readClaimed _ _ positional' callback' source split found free =>
    obtain ⟨rfl, rfl⟩ : positional = positional' ∧ callback = callback' := by simpa [whole] using split
    have claimed : (x id).claim? = some ((x id).slot.issued + 1) := by
      simp [Session.claim?, found, ReadSlot.begin?, free]
    rw [claimed, found]
    exact ⟨rfl, rfl⟩
  | readStopped _ _ _ _ _ _ _ _ gone => cases gone
  | stopping _ silent => exact absurd rfl (silent _)

end

/-! ### A read that holds a slot -/

section

variable {admits : Action → Prop} {n : Nat} {early late : List Occurrence} {s s' : Scheduler} {id generation : Nat}
  {consumer : String → Nat → Consumer} {first : Item}

theorem carriers_of_step (id generation : Nat) {consumed produced rest : Multiset Item}
    (before : s.pending = consumed + rest) (after : s'.pending = produced + rest) :
    s.carriers id generation = consumed.filter (fun i => i.token? = some (id, generation))
        + rest.filter (fun i => i.token? = some (id, generation)) ∧
    s'.carriers id generation = produced.filter (fun i => i.token? = some (id, generation))
        + rest.filter (fun i => i.token? = some (id, generation)) := by
  unfold carriers
  rw [before, after, Multiset.filter_add, Multiset.filter_add]
  exact ⟨rfl, rfl⟩

theorem elim_eq_singleton_add {o : Option Item} {i : Item} {m : Multiset Item} (same : o.elim 0 ({·}) = {i} + m) :
    o = some i ∧ m = 0 := by
  cases o with
  | none => simp at same
  | some j =>
    have size := congrArg Multiset.card same
    simp only [Option.elim_some, Multiset.card_singleton, Multiset.card_add] at size
    obtain rfl : m = 0 := Multiset.card_eq_zero.mp (by omega)
    rw [Option.elim_some, add_zero, Multiset.singleton_inj] at same
    exact ⟨by rw [same], rfl⟩

/-- Whatever is done in between, a read that holds its slot is at some point of its course. -/
theorem stage_of_claimed (positive : 0 < n) (on : ∀ a, admits a → a ≠ .shutdown)
    (offers : ∀ environment m, admits (.move environment m) → environment.consumer id generation = consumer)
    (run : Run (· ≠ .shutdown) (start n) early s) {c : Claim} (claimed : c ∈ claims early)
    (named : c.session = id ∧ c.generation = generation) (silent : eventsOf id generation early = [])
    (carried : s.carriers id generation = {first}) (later : Run admits s late s')
    (uncancelled : (s'.sessions id).slot.isCancelled generation = false) :
    ∃ k, eventsOf id generation (early ++ late) = (solo consumer first k).1 ∧
      s'.carriers id generation = (solo consumer first k).2.elim 0 ({·}) := by
  induction later with
  | start => exact ⟨0, by rwa [List.append_nil], carried⟩
  | @step late s₁ a s₂ o between admitted acted ih =>
    -- The token would stay set.
    have uncancelled_before : (s₁.sessions id).slot.isCancelled generation = false := by
      rw [← Bool.not_eq_true]
      intro set
      have still := isCancelled_mono (.step .start admitted acted) set
      rw [uncancelled] at still
      cases still
    obtain ⟨k, shown, left⟩ := ih uncancelled_before
    have so_far : Run (· ≠ .shutdown) (start n) (early ++ late) s₁ := run.trans (between.mono on)
    obtain ⟨told, agreed⟩ := chronicle_of_any_run positive so_far
    have serving := serving_of_run (fun _ running => running) positive so_far
    obtain ⟨rest, consumed, produced, before, after, effect⟩ := act_effect acted
    rw [serving.isWorking, serving.alive] at effect
    rw [before] at agreed
    have consumed_agree : ∀ i ∈ consumed, i.Agrees := fun i member => agreed i (Multiset.mem_add.mpr (.inl member))
    obtain ⟨carriers_before, carriers_after⟩ := carriers_of_step id generation before after
    rw [← List.append_assoc, eventsOf_snoc, shown, Occurrence.shownOf]
    by_cases works : o.deed.token? = some (id, generation)
    · obtain ⟨i, rfl, shows, rfl, tokens⟩ := effect.takesUp works consumed_agree uncancelled_before
        fun environment m same => offers environment m (same ▸ admitted)
      -- The item that is worked on is the one that is left of the read.
      have token : i.token? = some (id, generation) :=
        (effect.consumed_carried i (Multiset.mem_singleton_self i)).symm.trans works
      rw [left, Multiset.filter_singleton, if_pos token] at carriers_before
      obtain ⟨here, none_else⟩ := elim_eq_singleton_add carriers_before
      refine ⟨k + 1, ?_, ?_⟩
      · rw [if_pos works, solo_succ here, shows]
      · rw [carriers_after, none_else, add_zero, solo_succ here, Multiset.filter_eq_self]
        exact tokens
    · -- Any other step takes away no item of the read and brings none, since its generation was issued before.
      refine ⟨k, by rw [if_neg works, List.append_nil], ?_⟩
      have none_old : consumed.filter (fun i => i.token? = some (id, generation)) = 0 := by
        rw [Multiset.filter_eq_nil]
        intro i member token
        exact works ((effect.consumed_carried i member).trans token)
      have none_new : produced.filter (fun i => i.token? = some (id, generation)) = 0 := by
        rw [Multiset.filter_eq_nil]
        intro i member token
        have issued := told.issued c (mem_claims_append claimed late)
        rcases effect.produced_carried consumed_agree i member id generation token with ⟨j, old, same⟩ | fresh
        · exact works ((effect.consumed_carried j old).trans same)
        · rw [named.1, named.2] at issued
          omega
      rw [none_old] at carriers_before
      rw [carriers_after, none_new, ← carriers_before, left]

end

end Scheduler

end PointStream
