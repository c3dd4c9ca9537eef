import PointStream.Proofs.Scheduler.Draining
import PointStream.Proofs.Scheduler.Sources

/-!
# The last call

Pipeline calls on one session can be made before earlier ones are answered. A destroy takes effect when it is called,
a create or a parse when the control thread runs its completion, and the last effect is what the session is left with.
So the last call that was made need not be the one that decides; it does if all others had taken effect by then, or if
a single worker serves it in its turn.
-/

namespace PointStream

namespace Scheduler

/-- What a verdict on a call makes of the source of a session. -/
def Call.decides? (c : Call) (id : Nat) : Attempt (Except SourceError (Option Source)) → Option (Option Source)
  | .returned (.ok source) => if c.session = id then some source else none
  | _ => none

/-- A call that is made at `p` gives a session its source at `r`: a destroy at once, a create or a parse with its
completion. -/
inductive TakesEffect (steps : List Step) (id : Nat) : (p r : Nat) → Option Source → Prop
  | destroy {p : Nat} {x : Step} {reply : Reply} (found : steps[p]? = some x)
      (calls : x.deed = .called (.destroy id) reply) : TakesEffect steps id p p none
  | completion {p e r : Nat} {c : Call} {source : Option Source}
      (answered : Answered steps p e r c (.returned (.ok source))) (here : c.session = id) :
      TakesEffect steps id p r source

section

variable {admits : Action → Prop} {n : Nat} {s : Scheduler} {steps : List Step} {p p' e r r' id : Nat} {c : Call}
  {source source' : Option Source} {z : Step} {verdict : Attempt (Except SourceError (Option Source))}

/-! ### Effects and the steps where they take place -/

theorem source?_of_result {environment : Environment} {sessions : Nat → Session} {t : Task} {j : ControlJob}
    (asks : c.task? = some t) (result : t.result? environment sessions = some j)
    (asked : environment.verdict? c = some verdict) : Deed.source? id (.ran j) = c.decides? id verdict := by
  cases c with
  | create session pipeline callback =>
    obtain rfl := Option.some.inj asks
    obtain rfl := Option.some.inj result
    obtain rfl := Option.some.inj asked
    cases environment.provider.openSource pipeline with
    | aborted => rfl
    | returned answer => cases answer <;> rfl
  | parse session pipeline callback =>
    obtain rfl := Option.some.inj asks
    obtain rfl := Option.some.inj result
    obtain rfl := Option.some.inj asked
    cases environment.provider.validate pipeline with
    | aborted => rfl
    | returned answer => cases answer <;> rfl
  | destroy | read | cancel => cases asks

/-- The step that answers a call is the one that decides what it decides. -/
theorem Answered.decides (answered : Answered steps p e r c verdict) :
    p < r ∧ ∃ z : Step, steps[r]? = some z ∧ ∀ id, z.deed.source? id = c.decides? id verdict := by
  obtain ⟨q, i, t, j, errand, asks⟩ := answered.errand
  obtain ⟨y, at_e, ⟨⟨u, works, kin⟩, result⟩, -⟩ := errand.ended
  obtain rfl := eq_of_kin asks kin
  obtain ⟨y', environment, m, at_e', moves, asked⟩ := answered.asked
  obtain rfl : y' = y := by simpa [at_e] using at_e'.symm
  rw [result?_of_worked moves works] at result
  obtain ⟨z, at_r, ran⟩ := errand.told.takes
  refine ⟨?_, z, at_r, fun id => ?_⟩
  · exact errand.queued_lt.trans (errand.taken_lt.trans errand.ended_lt)
  · rw [deed_of_ran ran, source?_of_result asks result asked]

/-- A call that is answered by a completion is no destroy. -/
theorem Answered.not_destroy (answered : Answered steps p e r c verdict) {x : Step} (found : steps[p]? = some x)
    (reply : Reply) : x.deed ≠ .called (.destroy id) reply := by
  intro calls
  obtain ⟨x', found', calls'⟩ := answered.called
  obtain ⟨_, _, t, _, -, asks⟩ := answered.errand
  obtain rfl := Option.some.inj (found.symm.trans found')
  rw [calls] at calls'
  cases calls'
  cases asks

/-- The step that answers a call is no call itself. -/
theorem Answered.not_called (answered : Answered steps p e r c verdict) {x : Step} (found : steps[r]? = some x)
    (c' : Call) (reply : Reply) : x.deed ≠ .called c' reply := by
  intro calls
  obtain ⟨_, _, _, j, errand, -⟩ := answered.errand
  obtain ⟨z, at_r, ran⟩ := errand.told.takes
  obtain rfl := Option.some.inj (found.symm.trans at_r)
  have runs := deed_of_ran ran
  rw [calls] at runs
  cases runs

namespace TakesEffect

theorem le (effect : TakesEffect steps id p r source) : p ≤ r := by
  cases effect with
  | destroy => exact le_refl p
  | completion answered => exact answered.decides.1.le

theorem source? (effect : TakesEffect steps id p r source) :
    ∃ z : Step, steps[r]? = some z ∧ z.deed.source? id = some source := by
  cases effect with
  | destroy found calls => exact ⟨_, found, by simp [calls, Deed.source?]⟩
  | completion answered here =>
    obtain ⟨-, z, at_r, decides⟩ := answered.decides
    exact ⟨z, at_r, by rw [decides, Call.decides?, if_pos here]⟩

theorem called (effect : TakesEffect steps id p r source) :
    ∃ (x : Step) (c : Call) (reply : Reply), steps[p]? = some x ∧ x.deed = .called c reply := by
  cases effect with
  | destroy found calls => exact ⟨_, _, _, found, calls⟩
  | completion answered =>
    obtain ⟨x, found, calls⟩ := answered.called
    exact ⟨x, _, _, found, calls⟩

/-- A call takes effect once. -/
theorem unique (one : TakesEffect steps id p r source) (other : TakesEffect steps id p r' source') : r' = r := by
  cases one with
  | destroy found calls =>
    cases other with
    | destroy => rfl
    | completion answered => exact absurd calls (answered.not_destroy found _)
  | completion answered =>
    cases other with
    | destroy found calls => exact absurd calls (answered.not_destroy found _)
    | completion answered' => exact (answered.unique answered').2.1

/-- A step is the effect of one call. -/
theorem injective (one : TakesEffect steps id p r source) (other : TakesEffect steps id p' r source') : p' = p := by
  cases one with
  | destroy found calls =>
    cases other with
    | destroy => rfl
    | completion answered => exact absurd calls (answered.not_called found _ _)
  | completion answered =>
    cases other with
    | destroy found calls => exact absurd calls (answered.not_called found _ _)
    | completion answered' => exact answered.injective answered'

end TakesEffect

/-- Whatever decides a source is the effect of a call. -/
theorem exists_takesEffect (path : Path admits (start n) steps s) (found : steps[r]? = some z)
    (decides : z.deed.source? id = some source) : ∃ p, TakesEffect steps id p r source := by
  -- A completion is that of a call, and the verdict on it is what it brings.
  have of_completion {j : ControlJob} (runs : z.deed = .ran j) (completes : Deed.IsCompletion (.ran j)) :
      ∃ p, TakesEffect steps id p r source := by
    obtain ⟨p, q, e, i, t, errand⟩ := exists_errand_of_ran path found runs (by rintro _ _ _ _ _ rfl; cases completes)
    obtain ⟨c, asks⟩ := exists_call_of_errand path errand completes
    obtain ⟨verdict, answered⟩ := answered_of_errand path errand asks
    obtain ⟨-, z', at_r, same⟩ := answered.decides
    obtain rfl : z' = z := by simpa [found] using at_r.symm
    rw [same] at decides
    unfold Call.decides? at decides
    split at decides
    next source' =>
      split at decides
      next here =>
        obtain rfl := Option.some.inj decides
        exact ⟨p, .completion answered here⟩
      next => cases decides
    next => cases decides
  cases deed : z.deed with
  | ran j =>
    apply of_completion deed
    rw [deed] at decides
    cases j with
    | opened | validated => trivial
    | startRead | queried | streamed => cases decides
  | called c reply =>
    rw [deed] at decides
    cases c with
    | destroy session =>
      obtain ⟨rfl, rfl⟩ : session = id ∧ none = source := by simpa [Deed.source?] using decides
      exact ⟨r, .destroy found deed⟩
    | create | parse | read | cancel => cases decides
  | took | worked | stopping =>
    rw [deed] at decides
    cases decides

/-! ### The last effect -/

/-- The source is what the last effect made of it. -/
theorem source_of_last (path : Path admits (start n) steps s) (effect : TakesEffect steps id p r source)
    (last : ∀ p' r' source', TakesEffect steps id p' r' source' → r' ≤ r) : (s.sessions id).source = source := by
  obtain ⟨z, found, decides⟩ := effect.source?
  have nothing_later : (steps.drop (r + 1)).filterMap (fun x => x.deed.source? id) = [] := by
    rw [List.filterMap_eq_nil_iff]
    intro x member
    obtain ⟨d, at_d⟩ := List.getElem?_of_mem member
    rw [List.getElem?_drop] at at_d
    cases later : x.deed.source? id with
    | none => rfl
    | some source' =>
      obtain ⟨p', effect'⟩ := exists_takesEffect path at_d later
      have := last p' _ source' effect'
      omega
  rw [source_of_path path id, ← List.take_append_drop (r + 1) steps, List.filterMap_append, nothing_later,
    List.append_nil, List.take_add_one, found, Option.toList_some, filterMap_snoc, decides]
  simp

theorem source_of_none (path : Path admits (start n) steps s)
    (none_took : ∀ p r source, ¬TakesEffect steps id p r source) : (s.sessions id).source = none := by
  have nothing : steps.filterMap (fun x => x.deed.source? id) = [] := by
    rw [List.filterMap_eq_nil_iff]
    intro x member
    obtain ⟨k, found⟩ := List.getElem?_of_mem member
    cases decides : x.deed.source? id with
    | none => rfl
    | some source =>
      obtain ⟨p, effect⟩ := exists_takesEffect path found decides
      exact absurd effect (none_took p k source)
  rw [source_of_path path id, nothing]
  rfl

/-! ### A single worker -/

/-- A single worker serves one task after the other, so they end in the order in which they were queued. -/
theorem Errand.told_in_order (path : Path admits (start 1) steps s) {q e i q' e' i' : Nat} {t t' : Task}
    {j j' : ControlJob} (one : Errand steps p q e r i t j) (other : Errand steps p' q' e' r' i' t' j')
    (lt : p' < p) : r' < r := by
  have only {q i : Nat} {t : Task} (taken : ∃ x : Step, steps[q]? = some x ∧ x.deed = .took i t) : i = 0 := by
    obtain ⟨x, found, took⟩ := taken
    obtain ⟨earlier, -, acted, later⟩ := path.step_at found
    obtain ⟨below, -⟩ := List.getElem?_eq_some_iff.mp (running_of_took acted took)
    have through : Path admits (start 1) (steps.take q ++ [x]) x.after :=
      earlier.step (path.step_at found).2.1 acted
    rw [length_workers through] at below
    omega
  obtain rfl := only one.taken
  obtain rfl := only other.taken
  have taken_first := other.queued.lt_of_lt one.queued lt
  -- The worker takes the later task when it has ended the earlier one.
  have ended_first : e' < q := by
    obtain ⟨x, found, took⟩ := one.taken
    rcases Nat.lt_trichotomy e' q with early | same | late
    · exact early
    · obtain ⟨y, at_e, ⟨⟨u, works, -⟩, -⟩, -⟩ := other.ended
      subst same
      obtain rfl := Option.some.inj (found.symm.trans at_e)
      rw [took] at works
      cases works
    · exact absurd took (other.underway q x taken_first late found).not_takes
  exact other.told.lt_of_lt one.told (ended_first.trans one.taken_lt)

/-- With a single worker a create or a parse takes effect after all calls that were made before it. -/
theorem TakesEffect.lt_of_single (path : Path admits (start 1) steps s) (effect : TakesEffect steps id p r source)
    (pipeline : p < r) (other : TakesEffect steps id p' r' source') (lt : p' < p) : r' < r := by
  cases other with
  | destroy => exact lt.trans pipeline
  | completion answered' =>
    cases effect with
    | destroy => exact absurd pipeline (lt_irrefl _)
    | completion answered =>
      -- Both tasks go through the one worker.
      obtain ⟨q, i, t, j, errand, -⟩ := answered.errand
      obtain ⟨q', i', t', j', errand', -⟩ := answered'.errand
      exact errand.told_in_order path errand' lt

end

/-! ### Which call decides -/

/-- Once nothing is queued or running every call that was taken on is answered, and the successful ones have taken
effect. The effect that came last decides the source of a session, and there is none without an effect. So the call that
was made last decides, if each other one had taken effect when it was made, or if there is one worker and it is not a
destroy. -/
theorem last_effect_decides {n : Nat} (positive : 0 < n) {steps : List Step} {s : Scheduler}
    (path : Path (fun _ => True) (start n) steps s) (id : Nat) :
    (s.IsQuiet → ∀ (p : Nat) (x : Step) (c : Call), steps[p]? = some x → x.deed = .called c (.invoked (.ok ())) →
      c.session = id → ∃ e r verdict, Answered steps p e r c verdict ∧
        ∀ source, verdict = .returned (.ok source) → TakesEffect steps id p r source) ∧
    ((∀ p r source, ¬TakesEffect steps id p r source) → (s.sessions id).source = none) ∧
    (∀ p r source, TakesEffect steps id p r source →
      (∀ p' r' source', TakesEffect steps id p' r' source' → r' ≤ r) → (s.sessions id).source = source) ∧
    (∀ p r source, TakesEffect steps id p r source →
      (∀ p' r' source', TakesEffect steps id p' r' source' → p' ≠ p → p' < p ∧ (r' < p ∨ n = 1 ∧ p < r)) →
      (s.sessions id).source = source) := by
  refine ⟨fun quiet p x c found calls here => ?_, source_of_none path, fun p r source => source_of_last path, ?_⟩
  · obtain ⟨e, r, verdict, answered⟩ := answered_of_invoked positive path found calls (.inl quiet)
    refine ⟨e, r, verdict, answered, ?_⟩
    rintro source rfl
    exact .completion answered here
  · intro p r source effect earlier
    apply source_of_last path effect
    intro p' r' source' other
    by_cases same : p' = p
    · subst same
      exact (effect.unique other).le
    · obtain ⟨lt, early | ⟨rfl, pipeline⟩⟩ := earlier p' r' source' other same
      · exact early.le.trans effect.le
      · exact (effect.lt_of_single path pipeline other lt).le

/-- A source is opened, and dropped when it is there. -/
def openThenDestroy : List Action := [
  .call (.create 0 "pipeline" { recipient := 0 }), .move openHanded (.worker 0), .move openHanded (.worker 0),
  .move openHanded .control, .call (.destroy 0)]

/-- The destroy was called when the create had taken effect, and decides. -/
theorem openThenDestroy_none :
    TakesEffect ((start 1).trail openThenDestroy) 0 4 4 none ∧
    (((start 1).follow openThenDestroy).1.sessions 0).source = none := by
  have path : Path (fun _ => True) (start 1) ((start 1).trail openThenDestroy)
    ((start 1).follow openThenDestroy).1 := path_trail (start 1) openThenDestroy fun _ _ => trivial
  have last : TakesEffect ((start 1).trail openThenDestroy) 0 4 4 none := .destroy rfl rfl
  obtain ⟨-, -, -, decides⟩ := last_effect_decides (by decide) path 0
  refine ⟨last, decides 4 4 none last ?_⟩
  intro p r source other different
  obtain ⟨z, found, decided⟩ := other.source?
  have le := other.le
  obtain ⟨below, -⟩ := List.getElem?_eq_some_iff.mp found
  have length : ((start 1).trail openThenDestroy).length = 5 := rfl
  have early : r ≠ 4 := by
    rintro rfl
    exact different (last.injective other)
  omega

/-- A source is asked for and dropped at once. -/
def createThenDestroy : List Action := [
  .call (.create 0 "pipeline" { recipient := 0 }), .call (.destroy 0), .move openHanded (.worker 0),
  .move openHanded (.worker 0), .move openHanded .control]

/-- An environment where one pipeline opens a source of one point, and the others of two. -/
def oneOrTwo : Environment := { openHanded with
  provider := { openHanded.provider with
    openSource := fun pipeline =>
      let points := if pipeline = "one" then 1 else 2
      .returned (.ok ((FixedAnswer.counts points).toSource points [⟨"Intensity", .unsigned, 1⟩] "\x7b\x7d")) } }

/-- Two sources are asked for, one after the other, and the second is opened first. -/
def createTwice : List Action := [
  .call (.create 0 "one" { recipient := 0 }), .call (.create 0 "two" { recipient := 1 }), .move oneOrTwo (.worker 0),
  .move oneOrTwo (.worker 1), .move oneOrTwo (.worker 1), .move oneOrTwo (.worker 0), .move oneOrTwo .control,
  .move oneOrTwo .control]

theorem calm_createThenDestroy : ∀ a ∈ createThenDestroy, a.IsCalm := by
  simp only [createThenDestroy, List.forall_mem_cons, List.not_mem_nil, false_implies, implies_true, and_true]
  refine ⟨?_, ?_, trivial, trivial, trivial⟩
  · intro callback same
    cases same
    rfl
  · intro callback none_given
    cases none_given

theorem calm_createTwice : ∀ a ∈ createTwice, a.IsCalm := by
  have calm (pipeline : String) (recipient : Nat) : (Action.call (.create 0 pipeline { recipient })).IsCalm := by
    intro callback same
    cases same
    rfl
  simp only [createTwice, List.forall_mem_cons, List.not_mem_nil, false_implies, implies_true, and_true]
  exact ⟨calm "one" 0, calm "two" 1, trivial, trivial, trivial, trivial, trivial, trivial⟩

/-- The call that was made last need not decide: a source comes after its destroy, and the first of two sources after
the second. -/
theorem earlier_call_decides :
    (Path Action.IsCalm (start 1) ((start 1).trail createThenDestroy) ((start 1).follow createThenDestroy).1 ∧
      ((start 1).follow createThenDestroy).1.IsQuiet ∧
      TakesEffect ((start 1).trail createThenDestroy) 0 1 1 none ∧
      (∀ p r source, TakesEffect ((start 1).trail createThenDestroy) 0 p r source → p ≤ 1) ∧
      ((start 1).follow createThenDestroy).1.numPoints? 0 = some 2) ∧
    (Path Action.IsCalm (start 2) ((start 2).trail createTwice) ((start 2).follow createTwice).1 ∧
      ((start 2).follow createTwice).1.IsQuiet ∧
      ((start 2).follow createTwice).2.flatMap (fun o => o.events.filter fun e => !e.isNote)
        = [.answered 0 { recipient := 1 } (.opened (.ok ())), .answered 0 { recipient := 0 } (.opened (.ok ()))] ∧
      ((start 2).follow createTwice).1.numPoints? 0 = some 1) := by
  have quiet : ((start 1).follow createThenDestroy).1.IsQuiet := isQuiet_of_workers 1 rfl rfl rfl
  have quiet' : ((start 2).follow createTwice).1.IsQuiet := isQuiet_of_workers 2 rfl rfl rfl
  refine ⟨⟨path_trail _ _ calm_createThenDestroy, quiet, .destroy rfl rfl, ?_, rfl⟩,
    path_trail _ _ calm_createTwice, quiet', rfl, rfl⟩
  -- Only the first two steps are calls.
  intro p r source effect
  obtain ⟨x, c, reply, found, calls⟩ := effect.called
  match p, found with
  | 0, _ | 1, _ => decide
  | 2, found | 3, found | 4, found =>
    cases found
    cases calls
  | p + 5, found => cases found

end Scheduler

end PointStream
