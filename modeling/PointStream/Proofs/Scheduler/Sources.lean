import PointStream.Proofs.Scheduler.Errands

/-!
# The source of a session

Three things change the source that a session holds: the completion of an open that succeeded, the completion of a
validation that succeeded, and a destroy. The last of them decides. A pipeline call that is taken on is answered once,
by the control thread, in the step that applies what the provider said of its pipeline.
-/

namespace PointStream

namespace Scheduler

/-- What a step makes of the source of a session, if it is one of those that decide it. -/
def Deed.source? (id : Nat) : Deed → Option (Option Source)
  | .ran (.opened session (.returned (.ok source)) _) => if session = id then some (some source) else none
  | .ran (.validated session (.returned (.ok ())) _) => if session = id then some none else none
  | .called (.destroy session) _ => if session = id then some none else none
  | _ => none

/-- The control thread runs the completion of an open or a validation. -/
def Deed.IsCompletion : Deed → Prop
  | .ran (.opened ..) | .ran (.validated ..) => True
  | _ => False

end Scheduler

open Scheduler

/-- The task that a pipeline call hands to the workers. -/
def Scheduler.Call.task? : Call → Option Task
  | .create session pipeline callback => some (.openSource session pipeline callback)
  | .parse session pipeline callback => some (.validate session pipeline callback)
  | _ => none

/-- The answer to a pipeline call. -/
def Scheduler.Call.answer? (result : Except String Unit) : Call → Option Event
  | .create session _ callback => some (.answered session callback (.opened result))
  | .parse session _ callback => some (.answered session callback (.validated result))
  | _ => none

/-- What the provider makes of the pipeline of a call: the source that the session is to hold, or why not. -/
def Environment.verdict? (environment : Environment) : Call → Option (Attempt (Except SourceError (Option Source)))
  | .create _ pipeline _ => some ((environment.provider.openSource pipeline).map (Except.map some))
  | .parse _ pipeline _ => some ((environment.provider.validate pipeline).map (Except.map fun _ => none))
  | _ => none

namespace Scheduler

/-! ### What decides a source -/

theorem source_withSource (x : Nat → Session) (session : Nat) (source : Option Source) (id : Nat) :
    (withSource x session source id).source = if session = id then source else (x id).source := by
  unfold withSource
  rw [Function.update_apply]
  by_cases here : session = id
  · subst here
    rw [if_pos rfl, if_pos rfl]
  · rw [if_neg here, if_neg (Ne.symm here)]

section

variable {working alive : Bool} {x x' : Nat → Session} {a : Action} {o : Occurrence} {consumed produced : Multiset Item}

/-- A step leaves every source, or makes of it what its deed says. -/
theorem Effect.source (effect : Effect working alive x a o consumed produced x') (id : Nat) :
    (x' id).source = (o.deed.source? id).getD (x id).source := by
  cases effect with
  | destroy session =>
    rw [source_withSource]
    by_cases here : session = id <;> simp [Deed.source?, here]
  | opened environment session result callback =>
    rw [source_withSource]
    by_cases here : session = id
    · subst here
      cases result with
      | aborted => simp [Deed.source?, sourceAfter]
      | returned answer => cases answer <;> simp [Deed.source?, sourceAfter]
    · cases result with
      | aborted => simp [Deed.source?, here]
      | returned answer => cases answer <;> simp [Deed.source?, here]
  | validated environment session result callback =>
    rw [source_withSource]
    by_cases here : session = id
    · subst here
      cases result with
      | aborted => simp [Deed.source?, sourceAfterValidation]
      | returned answer => cases answer <;> simp [Deed.source?, sourceAfterValidation]
    · cases result with
      | aborted => simp [Deed.source?, here]
      | returned answer => cases answer <;> simp [Deed.source?, here]
  | decodeFailed | startQuery | queryFailed | accept =>
    simp only [Deed.source?, Option.getD_none]
    split <;> simp [released]
  | _ => simp [Deed.source?, released]

/-- A completion that brings no source and drops none changes nothing. -/
theorem Effect.kept (effect : Effect working alive x a o consumed produced x') (completes : o.deed.IsCompletion)
    (fails : ∀ id, o.deed.source? id = none) : x' = x := by
  cases effect with
  | opened environment session result callback =>
    have here := fails session
    cases result with
    | aborted => simp [sourceAfter]
    | returned answer =>
      cases answer with
      | error e => simp [sourceAfter]
      | ok source => simp [Deed.source?] at here
  | validated environment session result callback =>
    have here := fails session
    cases result with
    | aborted => simp [sourceAfterValidation]
    | returned answer =>
      cases answer with
      | error e => simp [sourceAfterValidation]
      | ok source => simp [Deed.source?] at here
  | _ => cases completes

end

section

variable {admits : Action → Prop} {n : Nat} {s : Scheduler} {steps : List Step} {x : Step} {p : Nat}

theorem source_of_act (acted : x.before.act? x.action = some (x.after, x.occurrence)) (id : Nat) :
    (x.after.sessions id).source = (x.deed.source? id).getD (x.before.sessions id).source := by
  obtain ⟨_, _, _, _, _, effect⟩ := act_effect acted
  exact effect.source id

/-- The last step that decides a source has made it what it is. -/
theorem source_of_path (path : Path admits (start n) steps s) (id : Nat) :
    (s.sessions id).source = (steps.filterMap fun x => x.deed.source? id).getLast?.getD none := by
  induction path with
  | start => rfl
  | @step steps s a s' o _ _ acted ih =>
    have last := source_of_act (x := ⟨s, a, o, s'⟩) acted id
    dsimp only at last
    rw [filterMap_snoc, last, ih]
    cases (Step.mk s a o s').deed.source? id with
    | none => simp
    | some source => simp

end

/-! ### What answers a pipeline call -/

/-- The control thread answers a call, after it has made of the session's source what the provider said. -/
structure Step.Answers (z : Step) (c : Call) (verdict : Attempt (Except SourceError (Option Source))) : Prop where
  last : ∃ notes answer, c.answer? (resultText verdict) = some answer ∧ (∀ e ∈ notes, e.isNote = true) ∧
    z.occurrence.events = notes ++ [answer]
  applied : ∀ source, verdict = .returned (.ok source) →
    z.after.sessions = withSource z.before.sessions c.session source
  kept : (∀ source, verdict ≠ .returned (.ok source)) → z.after.sessions = z.before.sessions

/-- The way of a call that is made at `p`: its task is handed to the workers then, the provider gives its verdict at
`e`, and the call is answered at `r`. -/
structure Answered (steps : List Step) (p e r : Nat) (c : Call)
    (verdict : Attempt (Except SourceError (Option Source))) : Prop where
  called : ∃ x : Step, steps[p]? = some x ∧ x.deed = .called c (.invoked (.ok ()))
  errand : ∃ q i t j, Errand steps p q e r i t j ∧ c.task? = some t
  asked : ∃ (y : Step) (environment : Environment) (m : Move), steps[e]? = some y ∧ y.action = .move environment m ∧
    environment.verdict? c = some verdict
  told : ∃ z : Step, steps[r]? = some z ∧ z.Answers c verdict

theorem resultText_map {α β : Type} (f : α → β) (result : Attempt (Except SourceError α)) :
    resultText (result.map (Except.map f)) = resultText result := by
  cases result with
  | aborted => rfl
  | returned answer => cases answer <;> rfl

/-- The source that a session holds after a verdict. -/
def heldAfter (old : Option Source) : Attempt (Except SourceError (Option Source)) → Option Source
  | .returned (.ok source) => source
  | _ => old

theorem sourceAfter_eq (old : Option Source) (result : Attempt (Except SourceError Source)) :
    sourceAfter old result = heldAfter old (result.map (Except.map some)) := by
  cases result with
  | aborted => rfl
  | returned answer => cases answer <;> rfl

theorem sourceAfterValidation_eq (old : Option Source) (result : Attempt (Except SourceError Unit)) :
    sourceAfterValidation old result = heldAfter old (result.map (Except.map fun _ => none)) := by
  cases result with
  | aborted => rfl
  | returned answer => cases answer <;> rfl

theorem Step.Answers.of {z : Step} {c : Call} {verdict : Attempt (Except SourceError (Option Source))}
    {notes : List Event} {answer : Event} (answers : c.answer? (resultText verdict) = some answer)
    (quiet : ∀ e ∈ notes, e.isNote = true) (events : z.occurrence.events = notes ++ [answer])
    (sessions : z.after.sessions = withSource z.before.sessions c.session
      (heldAfter (z.before.sessions c.session).source verdict)) : z.Answers c verdict where
  last := ⟨notes, answer, answers, quiet, events⟩
  applied source same := by rw [sessions, same, heldAfter]
  kept fails := by
    have same : heldAfter (z.before.sessions c.session).source verdict = (z.before.sessions c.session).source := by
      unfold heldAfter
      split
      next source => exact absurd rfl (fails source)
      next => rfl
    rw [sessions, same, withSource_self]

section

variable {working alive : Bool} {x x' : Nat → Session} {a : Action} {o : Occurrence} {consumed produced : Multiset Item}

theorem Effect.of_opened (effect : Effect working alive x a o consumed produced x') {id : Nat}
    {result : Attempt (Except SourceError Source)} {callback : Callback}
    (runs : o.deed = .ran (.opened id result callback)) :
    ∃ notes, (∀ e ∈ notes, e.isNote = true) ∧
      o.events = notes ++ [.answered id callback (.opened (resultText result))] ∧
      x' = withSource x id (sourceAfter (x id).source result) := by
  cases effect with
  | opened _ _ _ _ notes quiet =>
    cases runs
    exact ⟨notes, quiet, rfl, rfl⟩
  | _ => simp at runs

theorem Effect.of_validated (effect : Effect working alive x a o consumed produced x') {id : Nat}
    {result : Attempt (Except SourceError Unit)} {callback : Callback}
    (runs : o.deed = .ran (.validated id result callback)) :
    o.events = [.answered id callback (.validated (resultText result))] ∧
      x' = withSource x id (sourceAfterValidation (x id).source result) := by
  cases effect with
  | validated =>
    cases runs
    exact ⟨rfl, rfl⟩
  | _ => simp at runs

/-- Who is told how a pipeline call went is told so by its completion. -/
theorem Effect.completes_of_answer (effect : Effect working alive x a o consumed produced x') {id : Nat}
    {callback : Callback} {answer : Answer} (shows : .answered id callback answer ∈ o.events)
    (pipeline : ∀ response, answer ≠ .read response) :
    ∃ j, o.deed = .ran j ∧ Deed.IsCompletion (.ran j) := by
  have not_noted {notes : List Event} (quiet : ∀ e ∈ notes, e.isNote = true) :
      .answered id callback answer ∉ notes := fun member => by cases quiet _ member
  cases effect with
  | opened | validated => exact ⟨_, rfl, trivial⟩
  | startQuery _ _ _ _ _ _ _ _ _ quiet => exact absurd shows (not_noted quiet)
  | decodeFailed _ _ _ _ _ _ _ _ _ quiet =>
    rcases List.mem_append.mp shows with noted | refused
    · exact absurd noted (not_noted quiet)
    · simp [refusal, pipeline] at refused
  | notCreated | inProgress | queryFailed => simp [refusal, pipeline] at shows
  | accept | acceptAborted => simp [pipeline] at shows
  | _ => simp at shows

theorem task?_injective {c c' : Call} {t : Task} (same : c.task? = c'.task?) (asks : c.task? = some t) : c = c' := by
  cases c <;> cases c' <;> simp_all [Call.task?]

/-- A call that is taken on hands its task to the workers. -/
theorem Effect.produced_of_invoked (effect : Effect working alive x a o consumed produced x') {c : Call}
    (calls : o.deed = .called c (.invoked (.ok ()))) : ∃ t, c.task? = some t ∧ produced = {.task t} := by
  cases effect with
  | create id pipeline callback =>
    cases working with
    | true =>
      obtain ⟨rfl, -⟩ := Deed.called.inj calls
      exact ⟨_, rfl, rfl⟩
    | false => simp [submission] at calls
  | parse id pipeline callback =>
    cases working with
    | true =>
      obtain ⟨rfl, -⟩ := Deed.called.inj calls
      exact ⟨_, rfl, rfl⟩
    | false => simp [submission] at calls
  | _ => simp at calls

/-- Tasks for the provider come from pipeline calls that are taken on. -/
theorem Effect.invoked_of_produced (effect : Effect working alive x a o consumed produced x')
    (client : o.deed.worker? = none) {c : Call} {t : Task} (asks : c.task? = some t) (member : .task t ∈ produced) :
    ∃ c', c'.task? = some t ∧ o.deed = .called c' (.invoked (.ok ())) := by
  have no_query {id : Nat} {command : ReadCommand} {callback : Callback} : t ≠ .query id command callback := by
    rintro rfl
    cases c <;> simp [Call.task?] at asks
  have no_stream {id : Nat} {command : ReadCommand} {transmission : Transmission} :
      t ≠ .stream id command transmission := by
    rintro rfl
    cases c <;> simp [Call.task?] at asks
  cases effect with
  | create | parse =>
    cases working with
    | true =>
      obtain rfl := Item.task.inj (Multiset.mem_singleton.mp member)
      exact ⟨_, rfl, rfl⟩
    | false => simp at member
  | startQuery | accept =>
    cases working with
    | true =>
      have same := Item.task.inj (Multiset.mem_singleton.mp member)
      first
        | exact absurd same no_query
        | exact absurd same no_stream
    | false => simp at member
  | readUnclaimed => cases alive <;> simp at member
  | took | openSource | validate | query | stream | streamEnd => cases client
  | _ => simp at member

end

section

variable {admits : Action → Prop} {n : Nat} {s : Scheduler} {steps : List Step} {x z : Step} {p q e r i : Nat}
  {c : Call} {t : Task} {j : ControlJob}

theorem queued_of_invoked (acted : x.before.act? x.action = some (x.after, x.occurrence))
    (calls : x.deed = .called c (.invoked (.ok ()))) : ∃ t, c.task? = some t ∧ x.queued? = some t := by
  have client : x.deed.worker? = none := by
    rw [calls]
    rfl
  have effect := (show Turned x from turned_of_act acted).sends client
  obtain ⟨t, asks, sends⟩ := effect.produced_of_invoked calls
  exact ⟨t, asks, (sentOf_eq_task sends.symm).2⟩

theorem invoked_of_queued (acted : x.before.act? x.action = some (x.after, x.occurrence)) (asks : c.task? = some t)
    (queues : x.queued? = some t) : x.deed = .called c (.invoked (.ok ())) := by
  have effect := (show Turned x from turned_of_act acted).sends (client_of_queues acted queues)
  obtain ⟨c', asks', calls⟩ := effect.invoked_of_produced (client_of_queues acted queues) asks
    (by simp [Step.sent, sentOf, queues])
  rwa [task?_injective (asks'.trans asks.symm) asks'] at calls

/-- Running the completion of a call answers it. -/
theorem answers_of_ran {environment : Environment} {sessions : Nat → Session} (asks : c.task? = some t)
    (result : t.result? environment sessions = some j)
    (acted : z.before.act? z.action = some (z.after, z.occurrence)) (runs : z.deed = .ran j) :
    ∃ verdict, environment.verdict? c = some verdict ∧ z.Answers c verdict := by
  obtain ⟨_, _, _, _, _, effect⟩ := act_effect acted
  cases c with
  | create session pipeline callback =>
    obtain rfl := Option.some.inj asks
    obtain rfl := Option.some.inj result
    obtain ⟨notes, quiet, events, sessions⟩ := effect.of_opened runs
    refine ⟨_, rfl, .of rfl quiet (by rw [events, resultText_map]) ?_⟩
    rw [sessions, sourceAfter_eq]
    rfl
  | parse session pipeline callback =>
    obtain rfl := Option.some.inj asks
    obtain rfl := Option.some.inj result
    obtain ⟨events, sessions⟩ := effect.of_validated runs
    have quiet : ∀ e ∈ ([] : List Event), e.isNote = true := fun _ member => by cases member
    refine ⟨_, rfl, .of rfl quiet (by rw [events, resultText_map, List.nil_append]) ?_⟩
    rw [sessions, sourceAfterValidation_eq]
    rfl
  | destroy | read | cancel => cases asks

/-- A task of a call stays as it is while it is worked on. -/
theorem eq_of_kin {u : Task} (asks : c.task? = some t) (kin : u.afresh = t.afresh) : u = t := by
  cases c with
  | create | parse =>
    obtain rfl := Option.some.inj asks
    cases u <;> simp_all [Task.afresh]
  | destroy | read | cancel => cases asks

/-- A call whose task has gone its way was answered. -/
theorem answered_of_errand (path : Path admits (start n) steps s) (errand : Errand steps p q e r i t j)
    (asks : c.task? = some t) : ∃ verdict, Answered steps p e r c verdict := by
  obtain ⟨x, at_p, queues⟩ := errand.queued.puts
  have calls := invoked_of_queued (path.step_at at_p).2.2.1 asks queues
  obtain ⟨y, at_e, ⟨⟨u, works, kin⟩, result⟩, -⟩ := errand.ended
  obtain rfl := eq_of_kin asks kin
  obtain ⟨environment, moves, -, -⟩ := act_worked (path.step_at at_e).2.2.1 works
  rw [result?_of_worked moves works] at result
  obtain ⟨z, at_r, ran⟩ := errand.told.takes
  obtain ⟨verdict, asked, answers⟩ := answers_of_ran asks result (path.step_at at_r).2.2.1 (deed_of_ran ran)
  exact ⟨verdict, ⟨x, at_p, calls⟩, ⟨q, i, u, j, errand, asks⟩, ⟨y, environment, _, at_e, moves, asked⟩,
    ⟨z, at_r, answers⟩⟩

namespace Answered

variable {p' e' r' : Nat} {c' : Call} {verdict verdict' : Attempt (Except SourceError (Option Source))}

theorem unique (one : Answered steps p e r c verdict) (other : Answered steps p e' r' c' verdict') :
    e' = e ∧ r' = r ∧ c' = c ∧ verdict' = verdict := by
  obtain ⟨x, at_p, calls⟩ := one.called
  obtain ⟨x', at_p', calls'⟩ := other.called
  obtain rfl : x' = x := by simpa [at_p] using at_p'.symm
  obtain rfl : c' = c := by simpa [calls] using calls'.symm
  obtain ⟨q, i, t, j, errand, -⟩ := one.errand
  obtain ⟨q', i', t', j', errand', -⟩ := other.errand
  obtain ⟨-, rfl, rfl, -, -, -⟩ := errand.unique errand'
  obtain ⟨y, environment, m, at_e, moves, asked⟩ := one.asked
  obtain ⟨y', environment', m', at_e', moves', asked'⟩ := other.asked
  obtain rfl : y' = y := by simpa [at_e] using at_e'.symm
  obtain ⟨rfl, -⟩ : environment' = environment ∧ m' = m := by simpa [moves] using moves'.symm
  exact ⟨rfl, rfl, rfl, by simpa [asked] using asked'.symm⟩

/-- No step answers two calls. -/
theorem injective (one : Answered steps p e r c verdict) (other : Answered steps p' e' r c' verdict') : p' = p := by
  obtain ⟨q, i, t, j, errand, -⟩ := one.errand
  obtain ⟨q', i', t', j', errand', -⟩ := other.errand
  exact errand'.injective errand

end Answered

/-- A task whose result is the completion of a pipeline call was handed on by one. -/
theorem exists_call_of_errand (path : Path admits (start n) steps s) (errand : Errand steps p q e r i t j)
    (completes : Deed.IsCompletion (.ran j)) : ∃ c : Call, c.task? = some t := by
  obtain ⟨y, at_e, ⟨⟨u, works, kin⟩, result⟩, -⟩ := errand.ended
  obtain ⟨environment, moves, -, -⟩ := act_worked (path.step_at at_e).2.2.1 works
  rw [result?_of_worked moves works] at result
  cases u with
  | openSource session pipeline callback =>
    refine ⟨.create session pipeline callback, ?_⟩
    cases t <;> simp_all [Task.afresh, Call.task?]
  | validate session pipeline callback =>
    refine ⟨.parse session pipeline callback, ?_⟩
    cases t <;> simp_all [Task.afresh, Call.task?]
  | query =>
    obtain rfl := Option.some.inj result
    cases completes
  | stream =>
    simp only [Task.result?] at result
    split at result
    · cases result
    · obtain rfl := Option.some.inj result
      cases completes

/-- What is answered to a pipeline call is the answer to one that was taken on. -/
theorem exists_answered (path : Path admits (start n) steps s) (found : steps[r]? = some z) {id : Nat}
    {callback : Callback} {answer : Answer} (shows : .answered id callback answer ∈ z.occurrence.events)
    (pipeline : ∀ response, answer ≠ .read response) :
    ∃ p e c verdict, Answered steps p e r c verdict ∧
      c.answer? (resultText verdict) = some (.answered id callback answer) := by
  obtain ⟨_, _, _, _, _, effect⟩ := act_effect (path.step_at found).2.2.1
  obtain ⟨j, runs, completes⟩ := effect.completes_of_answer shows pipeline
  obtain ⟨p, q, e, i, t, errand⟩ := exists_errand_of_ran path found runs (by rintro _ _ _ _ _ rfl; cases completes)
  obtain ⟨c, asks⟩ := exists_call_of_errand path errand completes
  obtain ⟨verdict, answered⟩ := answered_of_errand path errand asks
  refine ⟨p, e, c, verdict, answered, ?_⟩
  obtain ⟨z', at_r, answers⟩ := answered.told
  obtain rfl : z' = z := by simpa [found] using at_r.symm
  -- Everything but the one answer is a note.
  obtain ⟨notes, told, same, quiet, events⟩ := answers.last
  rw [events] at shows
  rcases List.mem_append.mp shows with noted | is
  · cases quiet _ noted
  · rw [same, List.mem_singleton.mp is]

/-- A call that is taken on is answered, once nothing is queued or running any more, or once a shutdown is over that
had not gone far when the call was made. -/
theorem answered_of_invoked (positive : 0 < n) (path : Path admits (start n) steps s) (found : steps[p]? = some x)
    (calls : x.deed = .called c (.invoked (.ok ())))
    (ended : s.IsQuiet ∨ s.isShutDown = true ∧ x.before.HasUnsent) : ∃ e r verdict, Answered steps p e r c verdict := by
  obtain ⟨t, asks, queues⟩ := queued_of_invoked (path.step_at found).2.2.1 calls
  obtain ⟨q, e, r, i, j, errand⟩ : ∃ q e r i j, Errand steps p q e r i t j := by
    rcases ended with quiet | ⟨shut, unsent⟩
    · exact exists_errand_of_quiet positive path quiet found queues
    · exact exists_errand_of_shutDown positive path shut found queues unsent
  obtain ⟨verdict, answered⟩ := answered_of_errand path errand asks
  exact ⟨e, r, verdict, answered⟩

end

/-- A source is opened with a callback that aborts, and a pipeline is found invalid. -/
def openThenParse : List Action :=
  let strict : Environment := { openHanded with
    provider := { openHanded.provider with validate := fun _ => .returned (.error (.invalidPipeline "empty")) } }
  [.call (.create 0 "pipeline" { recipient := 0, aborts := true }), .call (.parse 0 "" { recipient := 1 }),
    .move strict (.worker 0), .move strict (.worker 1), .move strict (.worker 1), .move strict (.worker 0),
    .move strict .control, .move strict .control]

end Scheduler

end PointStream
