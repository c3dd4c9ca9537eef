import PointStream.Proofs.Dispatch.Balance
import PointStream.Proofs.Dispatch.Reading

/-!
# From the stream to the lines that are served

The history of a connection tells which lines were handed to be served, and what the thread of the connection noted. A
step that hands a line over is one that changes the scheduler as serving this line does, and the thread changes it in no
other way. Whatever the other threads do meanwhile, the lines are those of the stream in their order, up to the first
that is too long; then the connection is closed, with the one error that says so. Without such a line the connection
goes on until the stream ends.
-/

namespace PointStream

theorem Scheduler.serve_survives {s : Scheduler} {session : Nat} {request : Request} {e : DispatchError}
    (known : ∀ e, request.resolve = .error e → e.isFatal = false)
    (failed : (s.serve session request).2 = .error e) : e.isFatal = false := by
  unfold serve at failed
  cases resolved : request.resolve with
  | error e' =>
    rw [resolved] at failed
    cases failed
    exact known _ resolved
  | ok command =>
    rw [resolved] at failed
    cases command with
    | create | parse =>
      dsimp only at failed
      split at failed
      next => split at failed <;> cases failed; rfl
      next => cases failed
    | destroy | cancel => cases failed
    | numPoints =>
      dsimp only at failed
      split at failed <;> cases failed
      rfl
    | schema =>
      dsimp only at failed
      split at failed
      next => split at failed <;> cases failed; rfl
      next => cases failed; rfl
    | read =>
      dsimp only at failed
      split at failed <;> cases failed
      rfl

/-- No line ends the connection, whatever state the scheduler is in. -/
theorem Scheduler.serveLine_survives {s : Scheduler} {session : Nat} {line : List UInt8} {e : DispatchError}
    (failed : (s.serveLine session line).2 = .error e) : e.isFatal = false := by
  unfold serveLine at failed
  cases parsed : Request.ofLine line with
  | error e' =>
    rw [parsed] at failed
    cases failed
    have refused : asked line = .error e := by simp [asked, parsed]
    exact not_fatal_of_asked refused
  | ok request =>
    simp only [parsed] at failed
    cases valid : request.validate with
    | error e' =>
      rw [valid] at failed
      cases failed
      have refused : asked line = .error e := by simp [asked, parsed, valid]
      exact not_fatal_of_asked refused
    | ok =>
      rw [valid] at failed
      refine serve_survives (fun e' unknown => ?_) failed
      have refused : asked line = .error e' := by simp [asked, parsed, valid, unknown]
      exact not_fatal_of_asked refused

/-- A notice that the connection is over. -/
def Notice.isEnding : Notice → Bool
  | closing _ | closedByPeer => true
  | opened | requestFailed _ => false

namespace Connection

variable {c : Connection} {result : Except DispatchError (Option Message)}

/-- On a connection whose client listens only a fatal error is the end. -/
theorem endings_say (isOpen : c.writer.IsOpen) (survives : ∀ e, result = .error e → e.isFatal = false) :
    (c.say result).2.filter Notice.isEnding = [] := by
  cases result with
  | error e => simp [say, reject, isOpen.send, survives e rfl, Notice.isEnding]
  | ok m =>
    cases m with
    | none => rfl
    | some m => simp [say, isOpen.send]

/-- An error is only said to fail a request if it does not end the connection. -/
theorem survives_of_requestFailed {e : DispatchError} (noted : .requestFailed e ∈ (c.say result).2) :
    e.isFatal = false := by
  have rejected {c : Connection} {e' : DispatchError} (noted : .requestFailed e ∈ (c.reject e').2) :
      e.isFatal = false := by
    unfold reject at noted
    dsimp only at noted
    split at noted
    next => simp [close] at noted
    next survives =>
      have same : e = e' := by
        split at noted <;> simpa [close] using noted
      simpa [same] using survives
  unfold say at noted
  split at noted
  next => exact rejected noted
  next => cases noted
  next =>
    dsimp only at noted
    split at noted
    next => cases noted
    next => exact rejected noted

end Connection

namespace Service

/-- A connection over which nothing has been read yet, to a scheduler in any state. -/
def accepted (s : Scheduler) (session : Nat) (bytes : List UInt8) : Service where
  scheduler := s
  connection := { session }
  unread := bytes

/-! ### Histories -/

/-- What the history of a connection keeps of the thread that serves it. -/
inductive Mark where
  | dispatched (line : List UInt8)
  | noted (n : Notice)
deriving DecidableEq

/-- What a step adds to the history. -/
def marks (v : Service) : Step → List Mark
  | .take =>
    match v.unread with
    | [] => []
    | b :: _ =>
      match v.connection.framing.step b with
      | (_, some (.line line)) => [.dispatched line]
      | _ => []
  | .ends =>
    match v.connection.framing.remainder with
    | some line => [.dispatched line]
    | none => [.noted .closedByPeer]
  | .say =>
    match v.unsaid with
    | some (_, result) => (v.connection.say result).2.map .noted
    | none => []
  | .move .. | .deliver | .call _ => []

/-- The steps taken between two states, with the history that they make. -/
inductive Past (v : Service) : List Step → List Mark → Service → Prop where
  | start : Past v [] [] v
  | step {steps : List Step} {history : List Mark} {w u : Service} {step : Step} (past : Past v steps history w)
    (stepped : w.step? step = some u) : Past v (steps ++ [step]) (history ++ w.marks step) u

/-- The lines that were handed to be served. -/
def dispatched (history : List Mark) : List (List UInt8) :=
  history.filterMap fun | .dispatched line => some line | .noted _ => none

/-- The notices that the connection is over. -/
def endings (history : List Mark) : List Notice :=
  history.filterMap fun | .noted n => if n.isEnding then some n else none | .dispatched _ => none

@[simp] theorem dispatched_append (early late : List Mark) :
    dispatched (early ++ late) = dispatched early ++ dispatched late := List.filterMap_append

@[simp] theorem endings_append (early late : List Mark) :
    endings (early ++ late) = endings early ++ endings late := List.filterMap_append

@[simp] theorem dispatched_noted (notices : List Notice) : dispatched (notices.map .noted) = [] := by
  simp [dispatched]

@[simp] theorem endings_noted (notices : List Notice) :
    endings (notices.map .noted) = notices.filter Notice.isEnding := by
  induction notices with
  | nil => rfl
  | cons n notices ih =>
    rw [List.map_cons, List.filter_cons, ← ih, endings, endings]
    cases ending : n.isEnding <;> simp [ending]

/-! ### Progress -/

/-- Steps of the thread of the connection itself. -/
def Step.isOwn : Step → Bool
  | take | ends | say => true
  | move .. | deliver | call _ => false

/-- How much the thread has to do before it is done. -/
def effort (v : Service) : Nat :=
  4 * v.unread.length + 2 * (v.connection.framing.size != 0).toNat + v.unsaid.isSome.toNat
    + v.connection.serving.toNat

theorem effort_le (v : Service) : v.effort ≤ 4 * v.unread.length + 4 := by
  have inside := Bool.toNat_le (v.connection.framing.size != 0)
  have unsaid := Bool.toNat_le v.unsaid.isSome
  have serving := Bool.toNat_le v.connection.serving
  unfold effort
  omega

/-- What is to be said can be said, and lowers what there is to do. -/
theorem saying_step {v : Service} {said : List UInt8 × Except DispatchError (Option Message)}
    (serving : v.connection.serving = true) (unsaid : v.unsaid = some said) :
    ∃ w, v.step? .say = some w ∧ w.effort < v.effort := by
  have stepped : v.step? .say = some { v with connection := (v.connection.say said.2).1, unsaid := none } := by
    rw [step?, unsaid, Option.map_some]
  have still := Bool.toNat_le (v.connection.say said.2).1.serving
  refine ⟨_, stepped, ?_⟩
  simp only [effort, Connection.framing_say, unsaid, serving, Option.isSome_none, Option.isSome_some, Bool.toNat_true,
    Bool.toNat_false]
  omega

/-- A byte that is taken outweighs what may come of it: a line that has begun, an error to say and the end. -/
theorem taking_step {v : Service} {b : UInt8} {rest : List UInt8} (reading : v.isReading = true)
    (serving : v.connection.serving = true) (unread : v.unread = b :: rest) :
    ∃ w, v.step? .take = some w ∧ w.effort < v.effort := by
  obtain ⟨w, stepped, rest_eq⟩ : ∃ w, v.step? .take = some w ∧ w.unread = rest := by
    rw [step?, if_pos reading, take?, unread]
    dsimp only
    split
    all_goals exact ⟨_, rfl, rfl⟩
  refine ⟨w, stepped, ?_⟩
  have after := w.effort_le
  have before : 4 * v.unread.length + v.connection.serving.toNat ≤ v.effort := by
    unfold effort
    omega
  rw [rest_eq] at after
  rw [unread, serving, List.length_cons, Bool.toNat_true] at before
  omega

/-- At the end of the stream the line that has begun is served, or the connection ends. -/
theorem ending_step {v : Service} (reading : v.isReading = true) (serving : v.connection.serving = true)
    (unsaid : v.unsaid = none) (unread : v.unread = []) : ∃ w, v.step? .ends = some w ∧ w.effort < v.effort := by
  have ended : v.step? .ends = match v.connection.framing.remainder with
      | some line => some ((v.advance {} []).serveLine line)
      | none => some { v with connection := { v.connection with serving := false } } := by
    refine (if_pos reading).trans ?_
    exact if_neg (not_not.mpr unread)
  cases left : v.connection.framing.remainder with
  | some line =>
    have inside : (v.connection.framing.size != 0) = true := by
      rw [bne_iff_ne]
      intro empty
      simp [Framing.remainder, empty] at left
    rw [left] at ended
    refine ⟨_, ended, ?_⟩
    simp [effort, serveLine, advance, unread, unsaid, serving, inside]
  | none =>
    rw [left] at ended
    refine ⟨_, ended, ?_⟩
    simp [effort, unread, unsaid, serving]

theorem exists_own_step {v : Service} (serving : v.connection.serving = true) :
    ∃ step w, step.isOwn = true ∧ v.step? step = some w ∧ w.effort < v.effort := by
  cases unsaid : v.unsaid with
  | some said =>
    obtain ⟨w, stepped, less⟩ := saying_step serving unsaid
    exact ⟨.say, w, rfl, stepped, less⟩
  | none =>
    have reading : v.isReading = true := by simp [isReading, serving, unsaid]
    cases unread : v.unread with
    | cons b rest =>
      obtain ⟨w, stepped, less⟩ := taking_step reading serving unread
      exact ⟨.take, w, rfl, stepped, less⟩
    | nil =>
      obtain ⟨w, stepped, less⟩ := ending_step reading serving unsaid unread
      exact ⟨.ends, w, rfl, stepped, less⟩

theorem Past.cons {v w u : Service} {steps : List Step} {history : List Mark} {step : Step}
    (stepped : v.step? step = some w) (past : Past w steps history u) :
    Past v (step :: steps) (v.marks step ++ history) u := by
  induction past with
  | start =>
    rw [List.append_nil]
    exact Past.start.step stepped
  | step _ stepped' ih =>
    rw [← List.cons_append, ← List.append_assoc]
    exact ih.step stepped'

/-- The thread gets to the end by its own steps, wherever it stands. -/
theorem exists_end (v : Service) :
    ∃ steps history w, (∀ step ∈ steps, step.isOwn = true) ∧ v.Past steps history w ∧
      w.connection.serving = false := by
  -- Every own step lowers what there is to do, so there are only so many.
  induction size : v.effort using Nat.strong_induction_on generalizing v with
  | _ n ih =>
    cases serving : v.connection.serving with
    | false => exact ⟨[], [], v, nofun, .start, serving⟩
    | true =>
      obtain ⟨step, w, own, stepped, less⟩ := exists_own_step serving
      obtain ⟨steps, history, u, owns, past, gone⟩ := ih w.effort (size ▸ less) w rfl
      exact ⟨step :: steps, _, u, List.forall_mem_cons.mpr ⟨own, owns⟩, past.cons stepped, gone⟩

/-! ### What the scheduler is handed -/

/-- The lines that a step of the thread hands to the scheduler for a session: one, and what came of serving it is about
to be said, or none, and then the scheduler stays as it was. -/
inductive Hands (session : Nat) (v w : Service) : List (List UInt8) → Prop where
  | line {line : List UInt8} {result : Except DispatchError (Option Message)}
    (served : v.scheduler.serveLine session line = (w.scheduler, result)) (unsaid : w.unsaid = some (line, result)) :
    Hands session v w [line]
  | nothing (kept : w.scheduler = v.scheduler) : Hands session v w []

theorem hands_serveLine (v : Service) (framing : Framing) (unread line : List UInt8) :
    Hands v.connection.session v ((v.advance framing unread).serveLine line) [line] := by
  let served := v.scheduler.serveLine v.connection.session line
  have whole : served = (served.1, served.2) := rfl
  exact .line whole rfl

/-- What the history keeps of a step of the thread is what the scheduler was handed. -/
theorem hands_of_own {v w : Service} {step : Step} (own : step.isOwn = true) (stepped : v.step? step = some w) :
    Hands v.connection.session v w (dispatched (v.marks step)) := by
  cases step with
  | move | deliver | call => cases own
  | take =>
    simp only [step?] at stepped
    split at stepped
    next =>
      unfold take? at stepped
      split at stepped
      next => cases stepped
      next b unread next_byte =>
        simp only [marks, next_byte]
        -- A byte goes on with a line, finishes it or is one too many.
        generalize v.connection.framing.step b = framed at stepped ⊢
        obtain ⟨framing, frame⟩ := framed
        rcases frame with - | line | size <;> cases stepped
        · exact .nothing rfl
        · exact hands_serveLine ..
        · exact .nothing rfl
    next => cases stepped
  | ends =>
    simp only [step?] at stepped
    split at stepped
    next =>
      unfold end? at stepped
      split at stepped
      next => cases stepped
      next =>
        simp only [marks]
        generalize v.connection.framing.remainder = left at stepped ⊢
        cases left <;> cases stepped
        · exact .nothing rfl
        · exact hands_serveLine ..
    next => cases stepped
  | say =>
    simp only [step?, Option.map_eq_some_iff] at stepped
    obtain ⟨⟨line, result⟩, unsaid, rfl⟩ := stepped
    simp only [marks, unsaid, dispatched_noted]
    exact .nothing rfl

theorem session_of_past {v w : Service} {steps : List Step} {history : List Mark} (past : v.Past steps history w) :
    w.connection.session = v.connection.session := by
  induction past with
  | start => rfl
  | step _ stepped ih => exact (touches_of_step stepped).session_eq.trans ih

/-! ### Where the thread stands -/

/-- The error that closes a connection. -/
def excess : DispatchError := .requestTooLarge (lineLimit + 1) lineLimit

/-- Where the thread of the connection stands in the stream, by what the history says. -/
inductive Standing (bytes : List UInt8) (history : List Mark) (v : Service) : Prop where
  /-- It has the front of a line that is not too long so far, and what it is about to say is no reason to close. -/
  | reading (front : List UInt8) (serving : v.connection.serving = true) (isOpen : v.connection.writer.IsOpen)
    (within : v.connection.framing.Within front) (room : front.length ≤ lineLimit)
    (lines : dispatched history ++ linesOf (front ++ v.unread) = linesOf bytes)
    (short : ∀ line ∈ dispatched history, line.length ≤ lineLimit)
    (survives : ∀ line e, v.unsaid = some (line, .error e) → e.isFatal = false) (going_on : endings history = [])
  /-- It has met a line that is too long, and is about to say so. -/
  | refusing (serving : v.connection.serving = true) (isOpen : v.connection.writer.IsOpen)
    (unsaid : v.unsaid = some ([], .error excess)) (lines : dispatched history = fitting bytes)
    (long : fitting bytes ≠ linesOf bytes) (going_on : endings history = [])
  | closed (gone : v.connection.serving = false) (silent : v.unsaid = none) (lines : dispatched history = fitting bytes)
    (long : fitting bytes ≠ linesOf bytes) (shut : v.connection.writer.room = some 0)
    (told : (Message.ofError excess).wire <:+ v.connection.writer.sent) (said : endings history = [.closing excess])
  | ended (gone : v.connection.serving = false) (silent : v.unsaid = none) (lines : dispatched history = fitting bytes)
    (all : fitting bytes = linesOf bytes) (said : endings history = [.closedByPeer])

variable {bytes : List UInt8} {history : List Mark} {v w : Service}

theorem standing_accepted (s : Scheduler) (session : Nat) (bytes : List UInt8) :
    Standing bytes [] (accepted s session bytes) :=
  .reading [] rfl ⟨rfl, rfl⟩ Framing.within_start (Nat.zero_le _) rfl (by simp [dispatched]) nofun rfl

theorem fitting_of_lines {lines : List (List UInt8)} {rest : List UInt8}
    (cut : lines ++ linesOf rest = linesOf bytes) (short : ∀ line ∈ lines, line.length ≤ lineLimit) :
    fitting bytes = lines ++ fitting rest := by
  rw [fitting, ← cut, List.takeWhile_append_of_pos fun line member => decide_eq_true (short line member), fitting]

/-- A line that fits is handed to be served; what is left goes on behind it. -/
theorem standing_dispatch {line unread : List UInt8} (serving : v.connection.serving = true)
    (isOpen : v.connection.writer.IsOpen)
    (lines : dispatched history ++ line :: linesOf unread = linesOf bytes)
    (short : ∀ line ∈ dispatched history, line.length ≤ lineLimit) (fits : line.length ≤ lineLimit)
    (going_on : endings history = []) :
    Standing bytes (history ++ [.dispatched line]) ((v.advance {} unread).serveLine line) := by
  have handed : dispatched (history ++ [.dispatched line]) = dispatched history ++ [line] := dispatched_append ..
  refine .reading [] serving isOpen Framing.within_start (Nat.zero_le _) ?_ ?_ ?_ ?_
  · rw [handed, List.append_assoc]
    exact lines
  · rw [handed, List.forall_mem_append, List.forall_mem_singleton]
    exact ⟨short, fits⟩
  · rintro _ e same
    have failed := congrArg Prod.snd (Option.some.inj same)
    exact Scheduler.serveLine_survives failed
  · rw [endings_append, going_on]
    rfl

/-- A byte goes on with the line, finishes it, or is one too many. -/
theorem Standing.take (standing : Standing bytes history v) (reading : v.isReading = true) (took : v.take? = some w) :
    Standing bytes (history ++ v.marks .take) w := by
  obtain ⟨serving, silent⟩ := Bool.and_eq_true_iff.mp reading
  rw [Option.isNone_iff_eq_none] at silent
  cases standing with
  | refusing _ _ unsaid => simp [unsaid] at silent
  | closed gone | ended gone => simp [gone] at serving
  | reading front _ isOpen within room lines short survives going_on =>
    unfold take? at took
    split at took
    next => cases took
    next b unread next_byte =>
      simp only [marks, next_byte]
      rw [next_byte] at lines
      rcases Nat.lt_or_eq_of_le room with fits | full
      · by_cases finishes : b = lineFeed
        · subst finishes
          rw [within.step_finishing fits] at took ⊢
          cases took
          rw [linesOf_append_lineFeed within.unfinished] at lines
          refine standing_dispatch serving isOpen lines short ?_ going_on
          rw [List.length_append]
          exact fits
        · obtain ⟨nothing, longer⟩ := within.step_continuing finishes fits
          -- The line goes on, so the byte makes no frame.
          generalize v.connection.framing.step b = stepped at *
          obtain ⟨framing, frame⟩ := stepped
          cases nothing
          cases took
          rw [List.append_nil]
          refine .reading (front ++ [b]) serving isOpen longer ?_ ?_ short survives going_on
          · rw [List.length_append]
            exact fits
          · rw [List.append_assoc]
            exact lines
      · rw [within.step_full full] at took ⊢
        cases took
        obtain ⟨line, others, first, longer⟩ := first_line_longer within.unfinished b unread
        have nothing_fits : fitting (front ++ b :: unread) = [] := by
          rw [fitting, first, List.takeWhile_cons_of_neg]
          simpa using full ▸ longer
        have fitting_eq := fitting_of_lines lines short
        rw [nothing_fits, List.append_nil] at fitting_eq
        rw [List.append_nil]
        refine .refusing serving isOpen rfl fitting_eq.symm ?_ going_on
        rw [fitting_eq, ← lines, first]
        simp

/-- At the end of the stream an unfinished line is handed to be served, and without one the connection has ended. -/
theorem Standing.ends (standing : Standing bytes history v) (reading : v.isReading = true) (ended : v.end? = some w) :
    Standing bytes (history ++ v.marks .ends) w := by
  obtain ⟨serving, silent⟩ := Bool.and_eq_true_iff.mp reading
  rw [Option.isNone_iff_eq_none] at silent
  cases standing with
  | refusing _ _ unsaid => simp [unsaid] at silent
  | closed gone | ended gone => simp [gone] at serving
  | reading front _ isOpen within room lines short survives going_on =>
    unfold end? at ended
    split at ended
    next => cases ended
    next done =>
      rw [not_not.mp done, List.append_nil] at lines
      simp only [marks]
      rw [within.remainder] at ended ⊢
      -- Either no line has begun, or the last one ends without a line feed.
      by_cases nothing : front = []
      · rw [if_pos nothing] at ended ⊢
        cases ended
        rw [nothing, linesOf, List.append_nil] at lines
        have all : dispatched (history ++ [.noted .closedByPeer]) = linesOf bytes := by
          rw [dispatched_append, lines]
          exact List.append_nil _
        have front_lines : fitting bytes = dispatched history ++ fitting [] :=
          fitting_of_lines ((List.append_nil _).trans lines) short
        have fitting_eq : fitting bytes = linesOf bytes := front_lines.trans ((List.append_nil _).trans lines)
        refine .ended rfl silent (all.trans fitting_eq.symm) fitting_eq ?_
        rw [endings_append, going_on]
        rfl
      · rw [if_neg nothing] at ended ⊢
        cases ended
        rw [linesOf_unfinished nothing within.unfinished] at lines
        exact standing_dispatch serving isOpen lines short room going_on

/-- What is said of a line leaves the thread reading; the error of a line that is too long closes the connection. -/
theorem Standing.say (standing : Standing bytes history v) {line : List UInt8}
    {result : Except DispatchError (Option Message)} (unsaid : v.unsaid = some (line, result)) :
    Standing bytes (history ++ v.marks .say)
      { v with connection := (v.connection.say result).1, unsaid := none } := by
  simp only [marks, unsaid]
  cases standing with
  | closed _ silent | ended _ silent => simp [silent] at unsaid
  | reading front serving isOpen within room lines short survives going_on =>
    have nonfatal (e : DispatchError) (failed : result = .error e) : e.isFatal = false :=
      survives line e (failed ▸ unsaid)
    have said := Connection.say_of_open isOpen nonfatal
    refine .reading front ?_ ?_ ?_ room ?_ ?_ nofun ?_
    · simp only [said, serving]
    · simp only [said]
      exact ⟨isOpen.room, isOpen.flushes⟩
    · simpa using within
    · rw [dispatched_append, dispatched_noted, List.append_nil]
      exact lines
    · rw [dispatched_append, dispatched_noted, List.append_nil]
      exact short
    · rw [endings_append, going_on, endings_noted, Connection.endings_say isOpen nonfatal]
      rfl
  | refusing serving isOpen unsaid' lines long going_on =>
    -- What is said is the one error that ends a connection, so it is sent and then the connection is shut.
    obtain ⟨rfl, rfl⟩ : line = [] ∧ result = .error excess := by
      rw [unsaid] at unsaid'
      cases unsaid'
      exact ⟨rfl, rfl⟩
    have said : v.connection.say (.error excess)
        = ({ v.connection with
            serving := false
            writer := ({ v.connection.writer with
              sent := v.connection.writer.sent ++ (Message.ofError excess).wire } : MessageWriter).shut },
          [.closing excess]) := by
      simp [Connection.say, Connection.reject, isOpen.send, excess, DispatchError.isFatal, Connection.close]
    rw [said]
    refine .closed rfl rfl ?_ long rfl ?_ ?_
    · rw [dispatched_append, dispatched_noted, List.append_nil]
      exact lines
    · exact List.suffix_append _ _
    · rw [endings_append, going_on]
      rfl

/-- The other threads touch nothing but the writer. -/
theorem Standing.aside (standing : Standing bytes history v) (unread : w.unread = v.unread)
    (unsaid : w.unsaid = v.unsaid) (serving : w.connection.serving = v.connection.serving)
    (framing : w.connection.framing = v.connection.framing)
    (isOpen : v.connection.writer.IsOpen → w.connection.writer.IsOpen)
    (shut : v.connection.writer.room = some 0 → w.connection.writer = v.connection.writer) :
    Standing bytes history w := by
  cases standing with
  | reading front still listening within room lines short survives going_on =>
    exact .reading front (serving ▸ still) (isOpen listening) (framing ▸ within) room (unread ▸ lines) short
      (unsaid ▸ survives) going_on
  | refusing still listening said lines long going_on =>
    exact .refusing (serving ▸ still) (isOpen listening) (unsaid ▸ said) lines long going_on
  | closed gone silent lines long shut_down told said =>
    have same := shut shut_down
    exact .closed (serving ▸ gone) (unsaid ▸ silent) lines long (same ▸ shut_down) (same ▸ told) said
  | ended gone silent lines all said => exact .ended (serving ▸ gone) (unsaid ▸ silent) lines all said

theorem Standing.step (standing : Standing bytes history v) {step : Step} (stepped : v.step? step = some w) :
    Standing bytes (history ++ v.marks step) w := by
  cases step with
  | take =>
    simp only [step?] at stepped
    split at stepped
    next reading => exact standing.take reading stepped
    next => cases stepped
  | ends =>
    simp only [step?] at stepped
    split at stepped
    next reading => exact standing.ends reading stepped
    next => cases stepped
  | say =>
    simp only [step?, Option.map_eq_some_iff] at stepped
    obtain ⟨⟨line, result⟩, unsaid, rfl⟩ := stepped
    exact standing.say unsaid
  | move environment m =>
    simp only [step?] at stepped
    split at stepped
    next => cases stepped
    next =>
      obtain ⟨moved, -, rfl⟩ := Option.map_eq_some_iff.mp stepped
      rw [marks, List.append_nil]
      exact standing.aside rfl rfl rfl rfl id fun _ => rfl
  | call c =>
    simp only [step?] at stepped
    split at stepped
    next => cases stepped
    next =>
      cases stepped
      rw [marks, List.append_nil]
      exact standing.aside rfl rfl rfl rfl id fun _ => rfl
  | deliver =>
    simp only [step?] at stepped
    split at stepped
    next => cases stepped
    next a unheard next =>
      cases stepped
      rw [marks, List.append_nil]
      refine standing.aside rfl rfl rfl rfl (fun isOpen => ?_) (fun shut => ?_)
      · rw [Connection.deliver, isOpen.send]
        exact ⟨isOpen.room, isOpen.flushes⟩
      · rw [Connection.deliver, MessageWriter.send_of_no_room shut]

theorem standing_of_past {s : Scheduler} {session : Nat} {steps : List Step}
    (past : (accepted s session bytes).Past steps history v) : Standing bytes history v := by
  induction past with
  | start => exact standing_accepted s session bytes
  | step _ stepped ih => exact ih.step stepped

theorem survives_of_past {e : DispatchError} {steps : List Step} (past : v.Past steps history w)
    (noted : .noted (.requestFailed e) ∈ history) : e.isFatal = false := by
  induction past with
  | start => cases noted
  | @step _ _ u _ step _ stepped ih =>
    rcases List.mem_append.mp noted with earlier | now
    · exact ih earlier
    · cases step with
      | take | ends =>
        simp only [marks] at now
        split at now
        all_goals try split at now
        all_goals simp at now
      | say =>
        simp only [marks] at now
        split at now
        next line result unsaid =>
          obtain ⟨n, noted, same⟩ := List.mem_map.mp now
          cases same
          exact Connection.survives_of_requestFailed noted
        next => cases now
      | move | deliver | call => cases now

theorem Standing.dispatched_prefix (standing : Standing bytes history v) : dispatched history <+: fitting bytes := by
  cases standing with
  | reading front _ _ _ _ lines short =>
    rw [fitting_of_lines lines short]
    exact List.prefix_append _ _
  | refusing _ _ _ lines | closed _ _ lines | ended _ _ lines => exact lines ▸ List.prefix_rfl

theorem Standing.going_on (standing : Standing bytes history v) (serving : v.connection.serving = true) :
    endings history = [] := by
  cases standing with
  | reading _ _ _ _ _ _ _ _ going_on | refusing _ _ _ _ _ going_on => exact going_on
  | closed gone | ended gone => simp [gone] at serving

/-- However a stream is split into reads, a handler is given the lines of the stream in their order, up to the first
that is too long. The thread of a connection has the scheduler for its handler: each of its steps changes the scheduler
as serving the line that it hands over does, and only so. Whatever the other threads do meanwhile, these lines are those
of the stream in their order, up to the first that is too long. If there is none, all of the stream is served, and then
the connection ends because the stream does. Otherwise one error tells of the line that is too long, the connection is
closed, and nothing more is served. The thread gets there by its own steps. -/
theorem lines_of_stream_served (s : Scheduler) (session : Nat) {reads : List (List UInt8)}
    (flowing : ∀ read ∈ reads, read ≠ []) :
    let bytes := reads.flatten
    (∀ {σ : Type} (handle : σ → List UInt8 → σ) (start : σ),
      (Inflow.mk [] reads).serve handle start = ((fitting bytes).foldl handle start,
        if fitting bytes = linesOf bytes then .endOfStream else .tooLarge (lineLimit + 1))) ∧
    ∀ {steps history v}, (accepted s session bytes).Past steps history v →
      (∀ step w, step.isOwn = true → v.step? step = some w → Hands session v w (dispatched (v.marks step))) ∧
      dispatched history <+: fitting bytes ∧
      (∀ e, .noted (.requestFailed e) ∈ history → e.isFatal = false) ∧
      (v.connection.serving = true → endings history = []) ∧
      (v.connection.serving = false → dispatched history = fitting bytes ∧
        (fitting bytes = linesOf bytes →
          (dispatched history).flatten = bytes ∧ endings history = [.closedByPeer]) ∧
        (fitting bytes ≠ linesOf bytes →
          endings history = [.closing (.requestTooLarge (lineLimit + 1) lineLimit)] ∧
          (Message.ofError (.requestTooLarge (lineLimit + 1) lineLimit)).wire <:+ v.connection.writer.sent ∧
          v.connection.writer.room = some 0)) ∧
      ∃ steps history w, (∀ step ∈ steps, step.isOwn = true) ∧ v.Past steps history w ∧
        w.connection.serving = false := by
  intro bytes
  refine ⟨fun handle start => Inflow.serve_eq handle start flowing, ?_⟩
  intro steps history v past
  have standing := standing_of_past past
  refine ⟨?_, standing.dispatched_prefix, fun e => survives_of_past past, standing.going_on, ?_, v.exists_end⟩
  · intro step w own stepped
    have same : v.connection.session = session := session_of_past past
    exact same ▸ hands_of_own own stepped
  intro gone
  cases standing with
  | reading _ serving | refusing serving => simp [gone] at serving
  | closed _ _ lines long shut told said => exact ⟨lines, fun all => absurd all long, fun _ => ⟨said, told, shut⟩⟩
  | ended _ _ lines all said =>
    refine ⟨lines, fun _ => ⟨?_, said⟩, fun long => absurd all long⟩
    rw [lines, all, flatten_linesOf]

theorem fitting_blank_then_long {long : List UInt8} (unfinished : lineFeed ∉ long) (exceeds : lineLimit < long.length) :
    fitting [[lineFeed], long].flatten = [[lineFeed]] ∧
      fitting [[lineFeed], long].flatten ≠ linesOf [[lineFeed], long].flatten := by
  have some : long ≠ [] := List.length_pos_iff.mp (Nat.lt_of_le_of_lt (Nat.zero_le _) exceeds)
  have lines : linesOf [[lineFeed], long].flatten = [[lineFeed], long] := by
    have joined : [[lineFeed], long].flatten = [] ++ lineFeed :: long := by simp
    rw [joined, linesOf_append_lineFeed List.not_mem_nil, linesOf_unfinished some unfinished]
    rfl
  have first : decide ([lineFeed].length ≤ lineLimit) = true := by decide
  have second : decide (long.length ≤ lineLimit) = false := decide_eq_false (Nat.not_le.mpr exceeds)
  rw [fitting, lines, List.takeWhile_cons, if_pos first, List.takeWhile_cons, second]
  exact ⟨rfl, by simp⟩

/-- A blank line is served, and then a line of one byte too many closes the connection. -/
theorem blank_line_served_then_closed :
    let reads : List (List UInt8) := [[lineFeed], List.replicate (lineLimit + 1) 0x61]
    (∀ read ∈ reads, read ≠ []) ∧
    ∃ steps history v, (accepted (.start 1) 0 reads.flatten).Past steps history v ∧
      dispatched history = [[lineFeed]] ∧
      endings history = [.closing (.requestTooLarge (lineLimit + 1) lineLimit)] := by
  intro reads
  have flowing : ∀ read ∈ reads, read ≠ [] := by
    simp [reads]
  obtain ⟨steps, history, v, -, past, gone⟩ := (accepted (.start 1) 0 reads.flatten).exists_end
  obtain ⟨-, -, -, -, gone_by, -⟩ := (lines_of_stream_served (.start 1) 0 flowing).2 past
  obtain ⟨lines, -, closed⟩ := gone_by gone
  have unfinished : lineFeed ∉ List.replicate (lineLimit + 1) (0x61 : UInt8) := by
    intro member
    exact absurd (List.eq_of_mem_replicate member) (by decide)
  obtain ⟨first, long⟩ := fitting_blank_then_long unfinished (by rw [List.length_replicate]; exact Nat.lt_succ_self _)
  exact ⟨flowing, steps, history, v, past, lines.trans first, (closed long).1⟩

end Service

end PointStream
