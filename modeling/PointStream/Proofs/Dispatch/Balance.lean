import PointStream.Proofs.Dispatch.Service

/-!
# One response for each request

Every line that was served has been answered by one message, or its answer is about to be said, or it is owed: what
is owed is what the pending items of the session are in debt with, together with the answers that the control thread
is about to write. So when the stream has ended and nothing is left to do, messages and lines match one to one.
-/

namespace PointStream

open Scheduler

/-- The message that is said for what came of serving a line. -/
def spoken : Except DispatchError (Option Message) → Option Message
  | .error e => some (.ofError e)
  | .ok m => m

/-- On a connection whose client listens everything is said, and only a fatal error ends it. -/
theorem Connection.say_of_open {c : Connection} (isOpen : c.writer.IsOpen)
    {result : Except DispatchError (Option Message)} (survives : ∀ e, result = .error e → e.isFatal = false) :
    (c.say result).1 = { c with
      writer := { c.writer with sent := c.writer.sent ++ (spoken result).toList.flatMap Message.wire } } := by
  cases result with
  | error e => simp [say, reject, isOpen.send, survives e rfl, spoken]
  | ok m =>
    cases m with
    | none => simp [say, spoken]
    | some m => simp [say, isOpen.send, spoken]

def Worker.isIdle : Worker → Bool
  | idle => true
  | _ => false

theorem Scheduler.isQuiet_of_idle {s : Scheduler}
    (idle : (s.control.isEmpty && s.work.isEmpty && s.workers.all Worker.isIdle) = true) : s.IsQuiet := by
  simp only [Bool.and_eq_true, List.isEmpty_iff, List.all_eq_true] at idle
  obtain ⟨⟨no_job, no_task⟩, waiting⟩ := idle
  refine ⟨no_job, no_task, fun w member => ?_⟩
  have waits := waiting w member
  cases w with
  | idle => rfl
  | running | exited => cases waits

namespace Service

/-- The line of which something is about to be said now. -/
def saying (v : Service) : Multiset (List UInt8) :=
  ↑(v.unsaid.bind fun (line, result) => (spoken result).map fun _ => line).toList

theorem saying_of_silent {v : Service} (silent : v.unsaid = none) : v.saying = 0 := by
  simp [saying, silent]

theorem saying_of_unsaid {v : Service} {line : List UInt8} {result : Except DispatchError (Option Message)}
    (unsaid : v.unsaid = some (line, result)) : v.saying = ↑((spoken result).map fun _ => line).toList := by
  simp [saying, unsaid]

/-- Each of the lines served so far is answered in an exchange, or is owed an answer. -/
structure Balanced (session : Nat) (lines : Multiset (List UInt8)) (exchanges : List (List UInt8 × Message))
    (owed : Multiset (List UInt8)) (v : Service) : Prop where
  serving : v.scheduler.Serving
  own : v.connection.session = session
  isOpen : v.connection.writer.IsOpen
  sent : v.connection.writer.sent = (exchanges.map Prod.snd).flatMap Message.wire
  answers : ∀ e ∈ exchanges, Answers e.1 e.2
  lines : ↑(exchanges.map Prod.fst) + owed + v.saying = lines
  means : ∀ line result, v.unsaid = some (line, result) → ∀ m, spoken result = some m → Answers line m
  survives : ∀ line e, v.unsaid = some (line, .error e) → e.isFatal = false
  debts : owed.map asked
    = (↑(v.unheard.map Answer.command) + debts session v.scheduler.pending).map Except.ok

theorem balanced_start {n : Nat} (positive : 0 < n) (session : Nat) (bytes : List UInt8) :
    Balanced session 0 [] 0 (start n session bytes) where
  serving := serving_start positive
  own := rfl
  isOpen := ⟨rfl, rfl⟩
  sent := rfl
  answers := by simp
  lines := rfl
  means := nofun
  survives := nofun
  debts := by simp [start]

namespace Balanced

variable {session : Nat} {lines owed : Multiset (List UInt8)} {exchanges : List (List UInt8 × Message)} {v w : Service}

theorem advance (balanced : Balanced session lines exchanges owed v) (framing : Framing) (unread : List UInt8) :
    Balanced session lines exchanges owed (v.advance framing unread) :=
  ⟨balanced.serving, balanced.own, balanced.isOpen, balanced.sent, balanced.answers, balanced.lines, balanced.means,
    balanced.survives, balanced.debts⟩

/-- A line is served, and something is to be said of it. -/
theorem tell (balanced : Balanced session lines exchanges owed v) (silent : v.unsaid = none) {s : Scheduler}
    (serving : s.Serving) (same_debts : Scheduler.debts session s.pending = Scheduler.debts session v.scheduler.pending)
    {line : List UInt8} {result : Except DispatchError (Option Message)} {m : Message}
    (speaks : spoken result = some m) (answers : Answers line m)
    (survives : ∀ e, result = .error e → e.isFatal = false) :
    Balanced session ({line} + lines) exchanges owed { v with scheduler := s, unsaid := some (line, result) } where
  serving := serving
  own := balanced.own
  isOpen := balanced.isOpen
  sent := balanced.sent
  answers := balanced.answers
  lines := by
    rw [← balanced.lines, saying_of_silent silent, saying_of_unsaid rfl, speaks, Option.map_some, Option.toList_some,
      Multiset.coe_singleton, add_zero]
    ac_rfl
  means := by
    rintro _ _ ⟨⟩ m' same
    rw [speaks] at same
    cases same
    exact answers
  survives := by
    rintro _ e ⟨⟩
    exact survives e rfl
  debts := by
    rw [same_debts]
    exact balanced.debts

/-- A line is served, and its answer is owed. -/
theorem owe (balanced : Balanced session lines exchanges owed v) (silent : v.unsaid = none) {s : Scheduler}
    (serving : s.Serving) {line : List UInt8} {command : Command} (asks : asked line = .ok command)
    (new_debt : Scheduler.debts session s.pending = {command} + Scheduler.debts session v.scheduler.pending) :
    Balanced session ({line} + lines) exchanges ({line} + owed)
      { v with scheduler := s, unsaid := some (line, .ok none) } where
  serving := serving
  own := balanced.own
  isOpen := balanced.isOpen
  sent := balanced.sent
  answers := balanced.answers
  lines := by
    rw [← balanced.lines, saying_of_silent silent, saying_of_unsaid rfl]
    simp only [spoken, Option.map_none, Option.toList_none, Multiset.coe_nil]
    ac_rfl
  means := by
    rintro _ _ ⟨⟩ m ⟨⟩
  survives := by
    rintro _ e ⟨⟩
  debts := by
    rw [Multiset.map_add, balanced.debts, Multiset.map_singleton, asks, new_debt]
    simp only [Multiset.map_add, Multiset.map_singleton]
    ac_rfl

theorem serveLine (balanced : Balanced session lines exchanges owed v) (silent : v.unsaid = none) (line : List UInt8) :
    ∃ owed, Balanced session ({line} + lines) exchanges owed (v.serveLine line) := by
  have serving := balanced.serving
  have serves := served serving session line
  unfold Service.serveLine
  rw [balanced.own]
  generalize v.scheduler.serveLine session line = outcome at serves
  obtain ⟨s, result⟩ := outcome
  cases serves with
  | refused e answers survives =>
    refine ⟨owed, balanced.tell silent serving rfl rfl answers ?_⟩
    rintro _ ⟨⟩
    exact survives
  | told m answers => exact ⟨owed, balanced.tell silent serving rfl rfl answers nofun⟩
  | done c m own owes_nothing answers =>
    refine ⟨owed, balanced.tell silent (serving.call c) ?_ rfl answers nofun⟩
    simp [debts_call serving, Action.debt, owes_nothing]
  | owed c command own owes asks =>
    refine ⟨{line} + owed, balanced.owe silent (serving.call c) asks ?_⟩
    simp [debts_call serving, Action.debt, own, owes]

/-- What is to be said is said. -/
theorem say (balanced : Balanced session lines exchanges owed v) {line : List UInt8}
    {result : Except DispatchError (Option Message)} (unsaid : v.unsaid = some (line, result)) :
    Balanced session lines (exchanges ++ ((spoken result).map (line, ·)).toList) owed
      { v with connection := (v.connection.say result).1, unsaid := none } := by
  rw [Connection.say_of_open balanced.isOpen fun e same => balanced.survives line e (same ▸ unsaid)]
  refine ⟨balanced.serving, balanced.own, ⟨balanced.isOpen.room, balanced.isOpen.flushes⟩, ?_, ?_, ?_, nofun, nofun,
    balanced.debts⟩
  · rw [balanced.sent]
    cases spoken result <;> simp
  · rw [List.forall_mem_append]
    refine ⟨balanced.answers, ?_⟩
    cases speaks : spoken result with
    | none => simp
    | some m => simpa using balanced.means line result unsaid m speaks
  · rw [← balanced.lines, saying_of_unsaid unsaid, saying_of_silent rfl]
    cases spoken result with
    | none => simp
    | some m =>
      simp only [Option.map_some, Option.toList_some, List.map_append, List.map_cons, List.map_nil, ← Multiset.coe_add,
        Multiset.coe_singleton, add_zero]
      ac_rfl

/-- Somebody else's step pays as many debts as it gives answers. -/
theorem pass (balanced : Balanced session lines exchanges owed v) {s : Scheduler} {a : Action} {o : Occurrence}
    (on : a ≠ .shutdown) (no_debt : a.debt session = 0) (acted : v.scheduler.act? a = some (s, o)) :
    Balanced session lines exchanges owed
      { v with scheduler := s, unheard := v.unheard ++ answersTo session o.events } := by
  refine ⟨balanced.serving.act on acted, balanced.own, balanced.isOpen, balanced.sent, balanced.answers,
    balanced.lines, balanced.means, balanced.survives, ?_⟩
  have pays := pays_of_act balanced.serving acted session
  rw [no_debt, zero_add] at pays
  rw [balanced.debts, ← pays, List.map_append, ← Multiset.coe_add, add_assoc]

/-- An answer that is owed is written. -/
theorem deliver (balanced : Balanced session lines exchanges owed v) {a : Answer} {unheard : List Answer}
    (next : v.unheard = a :: unheard) :
    ∃ line owed, Balanced session lines (exchanges ++ [(line, .ofAnswer a)]) owed
      { v with connection := v.connection.deliver a, unheard } := by
  have debts := balanced.debts
  rw [next, List.map_cons, ← Multiset.cons_coe, Multiset.cons_add, Multiset.map_cons] at debts
  -- The answer is the first of the debts, so some line that is owed one asks for it.
  obtain ⟨line, member, asks⟩ := Multiset.mem_map.mp (debts ▸ Multiset.mem_cons_self (Except.ok a.command) _)
  obtain ⟨others, rfl⟩ := Multiset.exists_cons_of_mem member
  rw [Multiset.map_cons, asks, Multiset.cons_inj_right] at debts
  have written : v.connection.deliver a = { v.connection with writer :=
      { v.connection.writer with sent := v.connection.writer.sent ++ (Message.ofAnswer a).wire } } := by
    rw [Connection.deliver, balanced.isOpen.send]
  rw [written]
  refine ⟨line, others, balanced.serving, balanced.own, ⟨balanced.isOpen.room, balanced.isOpen.flushes⟩, ?_, ?_, ?_,
    balanced.means, balanced.survives, debts⟩
  · simp [balanced.sent]
  · rw [List.forall_mem_append, List.forall_mem_singleton]
    exact ⟨balanced.answers, answers_ofAnswer asks⟩
  · rw [← balanced.lines, ← Multiset.singleton_add]
    simp only [List.map_append, List.map_cons, List.map_nil, ← Multiset.coe_add, Multiset.coe_singleton, saying]
    ac_rfl

end Balanced

/-! ### The stream -/

/-- The lines of the stream are those that were served and those of what is left of it: the front of a line, and the
bytes that are not read yet. The connection ends when nothing is left. -/
structure Framed (bytes : List UInt8) (lines : Multiset (List UInt8)) (front : List UInt8) (v : Service) : Prop where
  within : v.connection.framing.Within front
  rest : lines + ↑(linesOf (front ++ v.unread)) = ↑(linesOf bytes)
  ended : v.connection.serving = false → front = [] ∧ v.unread = []

/-- What every step of the service keeps. -/
def Kept (session : Nat) (bytes : List UInt8) (v : Service) : Prop :=
  ∃ lines exchanges owed front, Balanced session lines exchanges owed v ∧ Framed bytes lines front v

variable {session : Nat} {bytes : List UInt8} {v w : Service}

theorem Framed.short {lines : Multiset (List UInt8)} {front : List UInt8} (framed : Framed bytes lines front v)
    (short : ∀ line ∈ linesOf bytes, line.length ≤ lineLimit) :
    ∀ line ∈ linesOf (front ++ v.unread), line.length ≤ lineLimit := by
  intro line member
  refine short line ?_
  rw [← Multiset.mem_coe, ← framed.rest]
  exact Multiset.mem_add.mpr (.inr member)

theorem kept_start {n : Nat} (positive : 0 < n) (session : Nat) (bytes : List UInt8) :
    Kept session bytes (start n session bytes) := by
  refine ⟨0, [], 0, [], balanced_start positive session bytes, Framing.within_start, ?_, nofun⟩
  rw [zero_add]
  rfl

/-- A byte goes on with a line, or finishes it, and then the line is served. -/
theorem Kept.take (kept : Kept session bytes v) (short : ∀ line ∈ linesOf bytes, line.length ≤ lineLimit)
    (reading : v.isReading = true) (took : v.take? = some w) : Kept session bytes w := by
  obtain ⟨lines, exchanges, owed, front, balanced, framed⟩ := kept
  obtain ⟨serving, silent⟩ := Bool.and_eq_true_iff.mp reading
  have still_serving {framing : Framing} {unread : List UInt8} : (v.advance framing unread).connection.serving = true :=
    serving
  have limited := framed.short short
  have rest := framed.rest
  unfold take? at took
  split at took
  next => cases took
  next b unread next_byte =>
    rw [next_byte] at limited rest
    by_cases finishes : b = lineFeed
    · subst finishes
      rw [framed.within.step_lineFeed limited] at took
      cases took
      obtain ⟨owed, served⟩ := (balanced.advance {} unread).serveLine (Option.isNone_iff_eq_none.mp silent)
        (front ++ [lineFeed])
      refine ⟨_, exchanges, owed, [], served, Framing.within_start, ?_, fun gone => ?_⟩
      · rw [← rest, linesOf_append_lineFeed framed.within.unfinished, ← Multiset.cons_coe, ← Multiset.singleton_add]
        dsimp only [Service.serveLine, advance]
        rw [List.nil_append]
        ac_rfl
      · cases serving.symm.trans gone
    · -- The byte makes no frame, so the line is not too long either.
      obtain ⟨nothing, within⟩ := framed.within.step_inside finishes limited
      split at took
      next framing stepped =>
        cases took
        rw [stepped] at within
        refine ⟨lines, exchanges, owed, front ++ [b], balanced.advance framing unread, within, ?_, fun gone => ?_⟩
        · rw [← rest, advance, List.append_assoc, List.singleton_append]
        · cases serving.symm.trans gone
      all_goals
        next stepped =>
          rw [stepped] at nothing
          cases nothing

/-- The end of the stream leaves a line, which is served, or nothing, and then the connection ends. -/
theorem Kept.ends (kept : Kept session bytes v) (reading : v.isReading = true) (ended : v.end? = some w) :
    Kept session bytes w := by
  obtain ⟨lines, exchanges, owed, front, balanced, framed⟩ := kept
  obtain ⟨serving, silent⟩ := Bool.and_eq_true_iff.mp reading
  have rest := framed.rest
  unfold end? at ended
  split at ended
  next => cases ended
  next done =>
    rw [not_not.mp done, List.append_nil] at rest
    rw [framed.within.remainder] at ended
    -- Framing has a remainder exactly if it is inside a line.
    by_cases nothing : front = []
    · rw [if_pos nothing] at ended
      cases ended
      refine ⟨lines, exchanges, owed, front, ?_, framed.within, framed.rest, fun _ => ⟨nothing, not_not.mp done⟩⟩
      exact ⟨balanced.serving, balanced.own, balanced.isOpen, balanced.sent, balanced.answers, balanced.lines,
        balanced.means, balanced.survives, balanced.debts⟩
    · rw [if_neg nothing] at ended
      cases ended
      obtain ⟨owed, served⟩ := (balanced.advance {} []).serveLine (Option.isNone_iff_eq_none.mp silent) front
      refine ⟨_, exchanges, owed, [], served, Framing.within_start, ?_, fun _ => ⟨rfl, rfl⟩⟩
      rw [← rest, linesOf_unfinished nothing framed.within.unfinished, Multiset.coe_singleton]
      dsimp only [Service.serveLine, Service.advance]
      rw [List.append_nil, linesOf, Multiset.coe_nil, add_zero, add_comm]

/-- Every step of the service keeps the balance. -/
theorem Kept.step (kept : Kept session bytes v) (short : ∀ line ∈ linesOf bytes, line.length ≤ lineLimit)
    {step : Step} (stepped : v.step? step = some w) : Kept session bytes w := by
  cases step with
  | take =>
    simp only [step?] at stepped
    split at stepped
    next reading => exact kept.take short reading stepped
    next => cases stepped
  | ends =>
    simp only [step?] at stepped
    split at stepped
    next reading => exact kept.ends reading stepped
    next => cases stepped
  | say =>
    obtain ⟨lines, exchanges, owed, front, balanced, framed⟩ := kept
    simp only [step?, Option.map_eq_some_iff] at stepped
    obtain ⟨⟨line, result⟩, unsaid, rfl⟩ := stepped
    have said := Connection.say_of_open balanced.isOpen fun e same => balanced.survives line e (same ▸ unsaid)
    refine ⟨lines, _, owed, front, balanced.say unsaid, ?_, framed.rest, ?_⟩
    · simpa using framed.within
    · dsimp only
      rw [said]
      exact framed.ended
  | move environment m =>
    obtain ⟨lines, exchanges, owed, front, balanced, framed⟩ := kept
    simp only [step?] at stepped
    split at stepped
    next => cases stepped
    next =>
      obtain ⟨⟨s, events⟩, moved, rfl⟩ := Option.map_eq_some_iff.mp stepped
      have acted : v.scheduler.act? (.move environment m)
          = some (s, ⟨v.scheduler.deed (.move environment m), events⟩) := by
        simp [act?, moved]
      rw [balanced.own]
      exact ⟨lines, exchanges, owed, front, balanced.pass (a := .move environment m) (by simp) rfl acted,
        framed.within, framed.rest, framed.ended⟩
  | deliver =>
    obtain ⟨lines, exchanges, owed, front, balanced, framed⟩ := kept
    simp only [step?] at stepped
    split at stepped
    next => cases stepped
    next a unheard next =>
      cases stepped
      obtain ⟨line, owed, balanced⟩ := balanced.deliver next
      exact ⟨lines, _, owed, front, balanced, framed.within, framed.rest, framed.ended⟩
  | call c =>
    obtain ⟨lines, exchanges, owed, front, balanced, framed⟩ := kept
    simp only [step?] at stepped
    split at stepped
    next => cases stepped
    next other =>
      cases stepped
      -- The call is another session's, and so is its debt.
      have no_debt : (Action.call c).debt session = 0 := by
        rw [balanced.own] at other
        simp [Action.debt, other]
      have passed := balanced.pass (a := .call c) (by simp) no_debt (act_call v.scheduler c)
      rw [answersTo_nil, List.append_nil] at passed
      exact ⟨lines, exchanges, owed, front, passed, framed.within, framed.rest, framed.ended⟩

theorem kept_of_reaches {n : Nat} (positive : 0 < n) (short : ∀ line ∈ linesOf bytes, line.length ≤ lineLimit)
    (reached : (start n session bytes).Reaches v) : Kept session bytes v := by
  induction reached with
  | refl => exact kept_start positive session bytes
  | tail _ stepped ih =>
    obtain ⟨step, stepped⟩ := stepped
    exact ih.step short stepped

/-- The stream has ended and nothing is left to do. -/
structure IsQuiet (v : Service) : Prop where
  ended : v.connection.serving = false
  silent : v.unsaid = none
  heard : v.unheard = []
  quiet : v.scheduler.IsQuiet

/-- Takes the steps of a list, leaving out those that cannot be taken. -/
def follow (v : Service) (steps : List Step) : Service := steps.foldl (fun v step => (v.step? step).getD v) v

theorem reaches_follow (v : Service) (steps : List Step) : v.Reaches (v.follow steps) := by
  induction steps generalizing v with
  | nil => exact .refl
  | cons step steps ih =>
    have others := ih ((v.step? step).getD v)
    cases stepped : v.step? step with
    | none =>
      rw [stepped] at others
      rwa [follow, List.foldl_cons, stepped]
    | some w =>
      rw [stepped] at others
      rw [follow, List.foldl_cons, stepped]
      exact .head ⟨step, stepped⟩ others

/-- A request to create, a blank line, and a request to cancel that no line feed ends. -/
def threeLines : List UInt8 := [
  0x7b, 0x22, 0x63, 0x6f, 0x6d, 0x6d, 0x61, 0x6e, 0x64, 0x22, 0x3a, 0x22, 0x63, 0x72, 0x65, 0x61, 0x74, 0x65, 0x22,
  0x2c, 0x22, 0x61, 0x72, 0x67, 0x75, 0x6d, 0x65, 0x6e, 0x74, 0x73, 0x22, 0x3a, 0x5b, 0x22, 0x70, 0x22, 0x5d, 0x7d,
  0x0a, 0x0a, 0x7b, 0x22, 0x63, 0x6f, 0x6d, 0x6d, 0x61, 0x6e, 0x64, 0x22, 0x3a, 0x22, 0x63, 0x61, 0x6e, 0x63, 0x65,
  0x6c, 0x22, 0x7d]

/-- The pipeline is opened after the stream has ended. -/
def threeRequests : List Step :=
  List.replicate 39 Step.take ++ [.say, .take, .say] ++ List.replicate 20 Step.take ++ [.ends, .say, .ends,
    .move openHanded (.worker 0), .move openHanded (.worker 0), .move openHanded .control, .deliver]

theorem quiet_threeRequests : ((start 1 0 threeLines).follow threeRequests).IsQuiet where
  ended := by decide +kernel
  silent := Option.isNone_iff_eq_none.mp (by decide +kernel)
  heard := List.isEmpty_iff.mp (by decide +kernel)
  quiet := Scheduler.isQuiet_of_idle (by decide +kernel)

end Service

end PointStream
