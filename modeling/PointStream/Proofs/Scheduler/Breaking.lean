import PointStream.Proofs.Scheduler.Errands
import PointStream.Proofs.Scheduler.Measured
import PointStream.Proofs.Scheduler.Shutdown
import PointStream.Proofs.Transmit.Breaking

/-!
# Reads that break off

A connect or a write for a read breaks off when the consumer fails or is aborted. The transmission ends there, and once
nothing is left to be done its end has been reported once and the slot given back. What is reported to have been sent
depends on how the call broke off: a failure tells the chunk that it reached, an abort tells nothing.
-/

namespace PointStream

namespace Scheduler

/-! ### Runs in which a call breaks off -/

/-- A run in which a connect or a write for a read breaks off in some way, after some calls to its consumer. The step
that makes the call is singled out, with the environment, the worker and the task of it. -/
structure Breaking (c : Claim) (contacts : List Contact) (breach : Attempt String) where
  workers : Nat
  before : List Step
  step : Step
  after : List Step
  final : Scheduler
  environment : Environment
  worker : Nat
  command : ReadCommand
  transmission : Transmission
  positive : 0 < workers
  path : Path (fun _ => True) (start workers) (before ++ [step] ++ after) final
  claimed : c ∈ claims (before.map Step.occurrence)
  soFar : contactsOf (eventsOf c.session c.generation (before.map Step.occurrence)) = contacts
  moves : step.action = .move environment (.worker worker)
  works : step.deed = .worked worker (.stream c.session command transmission)
  named : command.generation = c.generation
  breaks : ∃ sent error, Transmission.BreaksOff
    (environment.consumer c.session command.generation command.host command.port) command breach transmission sent error

namespace Breaking

variable {c : Claim} {contacts : List Contact} {breach : Attempt String} (b : Breaking c contacts breach)

def steps : List Step := b.before ++ [b.step] ++ b.after

/-- The consumer that gets the call. -/
def consumer : Consumer :=
  b.environment.consumer c.session b.command.generation b.command.host b.command.port

/-- The call ends the transmission with a result, whether the read has been cancelled or not. -/
def EndsWith (result : Attempt Outcome) : Prop :=
  ∀ cancelled, (b.transmission.step b.consumer b.command cancelled).2 = .ends result

/-- The end of the transmission is reported once, as this outcome. The slot is idle right then, and the read does not
hold it again. -/
structure EndsOnce (outcome : Outcome) : Prop where
  once : finishCount c.session c.generation (b.steps.map Step.occurrence) = 1
  reported : ∃ x ∈ b.steps, .reported c.session (.transmitFinished c.generation outcome) ∈ x.occurrence.events ∧
    (x.after.sessions c.session).slot.state = .idle
  free : (b.final.sessions c.session).slot.isHeldBy c.generation = false

theorem EndsOnce.unique {outcome other : Outcome} (one : b.EndsOnce outcome) (another : b.EndsOnce other) :
    outcome = other := by
  have reports {outcome : Outcome} (ends : b.EndsOnce outcome) :
      .reported c.session (.transmitFinished c.generation outcome) ∈
        ((b.steps.map Step.occurrence).flatMap Occurrence.events).filter (Event.finishes c.session c.generation) := by
    obtain ⟨x, member, reported, -⟩ := ends.reported
    rw [List.mem_filter, List.mem_flatMap]
    exact ⟨⟨x.occurrence, List.mem_map_of_mem member, reported⟩, Event.finishes_iff.mpr ⟨outcome, rfl⟩⟩
  have single := one.once
  rw [finishCount, List.countP_eq_length_filter, List.length_eq_one_iff] at single
  obtain ⟨e, only⟩ := single
  have first := reports one
  have second := reports another
  rw [only, List.mem_singleton] at first second
  cases first.trans second.symm
  rfl

end Breaking

/-! ### The job that tells the end -/

/-- However far a read has got, some number of its chunks has been begun. -/
theorem exists_measured {admits : Action → Prop} {n : Nat} (positive : 0 < n) {history : List Occurrence}
    {s : Scheduler} {c : Claim} {filled : ReadCommand} (fills : c.Fills filled) (run : Run admits (start n) history s)
    (claimed : c ∈ claims history) : ∃ begun, Measured c filled False begun history s.pending := by
  induction run with
  | start => simp [claims] at claimed
  | @step history s a s' o earlier admitted acted ih =>
    rw [claims_snoc, List.mem_append] at claimed
    rcases claimed with old | new
    · obtain ⟨begun, measured⟩ := ih old
      exact ⟨_, measured_act positive fills earlier old measured acted False.elim⟩
    · obtain ⟨told, -⟩ := chronicle_of_any_run positive earlier
      obtain ⟨rest, consumed, produced, split, merged, effect⟩ := act_effect acted
      rw [split] at told
      rw [merged]
      exact ⟨_, measured_of_claim told effect (by simpa using new)⟩

theorem Effect.of_finish {working alive : Bool} {x x' : Nat → Session} {a : Action} {o : Occurrence}
    {consumed produced : Multiset Item} (effect : Effect working alive x a o consumed produced x')
    {id generation numBytes : Nat} {result : Attempt Outcome}
    (runs : o.deed = .ran (.streamed id generation numBytes result)) :
    o.events = [.reported id (.transmitFinished generation (finalOutcome numBytes result))] := by
  cases effect with
  | finish =>
    cases runs
    rfl
  | _ => cases runs

namespace Breaking

variable {c : Claim} {contacts : List Contact} {breach : Attempt String} (b : Breaking c contacts breach)

theorem found : b.steps[b.before.length]? = some b.step := by
  rw [steps, List.append_assoc, List.getElem?_append_right (le_refl _), Nat.sub_self]
  rfl

theorem take_before : b.steps.take b.before.length = b.before := by
  rw [steps, List.append_assoc, List.take_left]

theorem whole : Path (fun _ => True) (start b.workers) b.steps b.final := b.path

/-- The run until the call that breaks off. -/
theorem reached : Path (fun _ => True) (start b.workers) b.before b.step.before ∧
    b.step.before.act? b.step.action = some (b.step.after, b.step.occurrence) := by
  obtain ⟨earlier, -, acted, -⟩ := b.whole.step_at b.found
  rw [take_before] at earlier
  exact ⟨earlier, acted⟩

/-- What the read sends is what its query filled, its callback took the acceptance, and the call that breaks off is a
connect, or a write of the chunk behind those that were delivered. -/
theorem stands : c.Fills b.command ∧ c.callback.aborts = false ∧
    ∃ error, Transmission.BreaksOff b.consumer b.command breach b.transmission
      (Transmission.wholeChunks contacts) error ∧
    (error = .connect b.command.host b.command.port ∨ error = .write (Transmission.wholeChunks contacts)
      (min chunkSize (b.command.numBytes - Transmission.wholeChunks contacts))) := by
  obtain ⟨earlier, acted⟩ := b.reached
  obtain ⟨told, -⟩ := chronicle_of_any_run b.positive earlier.run
  obtain ⟨rest, consumed, produced, split, -, effect⟩ := act_effect acted
  obtain rfl := effect.consumed_eq
  have pending : Item.task (.stream c.session b.command b.transmission) ∈ b.step.before.pending := by
    rw [split, show b.step.occurrence.deed = _ from b.works]
    exact Multiset.mem_add.mpr (.inl (Multiset.mem_singleton_self _))
  have token : (Item.task (.stream c.session b.command b.transmission)).token? = some (c.session, c.generation) := by
    rw [← b.named]
    rfl
  obtain ⟨fills, -⟩ := (told.underway_of b.claimed pending token).contacts b.consumer false
  obtain ⟨d, claimed_d, session, generation, -, streams⟩ := told.underway _ pending _ _ token
  obtain rfl := told.unique claimed_d b.claimed session generation
  refine ⟨fills, streams rfl, ?_⟩
  obtain ⟨begun, measured⟩ := exists_measured b.positive fills earlier.run b.claimed
  obtain ⟨ranges, -, standing, -⟩ := measured.carried _ pending token
  rw [b.soFar] at standing
  obtain ⟨sent, error, breaks⟩ := b.breaks
  obtain rfl := breaks.sent_eq fills.numBytes_le standing
  exact ⟨error, breaks, breaks.error_eq standing⟩

/-- The worker hands the end of the transmission to the control thread, which runs the job before the scheduler is quiet
or shut down. -/
theorem told (finished : b.final.IsQuiet ∨ b.final.isShutDown = true) {result : Attempt Outcome}
    (ends : b.EndsWith result) :
    ∃ r, Serves Step.posted? Step.ran? b.steps b.before.length r
      (.streamed c.session c.generation b.command.numBytes result) := by
  obtain ⟨earlier, acted⟩ := b.reached
  have orderly := orderly_of_run b.positive earlier.run
  have finishes : b.step.Ends b.worker (.stream c.session b.command b.transmission)
      (.streamed c.session c.generation b.command.numBytes result) := by
    refine ⟨⟨_, b.works, rfl⟩, ?_⟩
    unfold EndsWith consumer at ends
    rw [result?_of_worked b.moves b.works, Task.result?, ends, ← b.named]
  obtain ⟨staffed, hands⟩ := finishes.hands acted
  obtain ⟨alive, no_stop⟩ := orderly.of_present staffed
  rcases finished with quiet | shut
  · exact jobLine.exists_take_of_empty b.path quiet.1 b.found (hands alive)
  · obtain ⟨-, gone⟩ := (orderly_of_run b.positive b.path.run).left_of_isShutDown shut
    refine jobLine.exists_take_in_time b.path ?_ b.found (hands alive) ?_
    · simp [jobLine, gone]
    · simp [jobLine, alive, no_stop]

theorem claimed_by {r : Nat} (le : b.before.length ≤ r) : c ∈ claims ((b.steps.take r).map Step.occurrence) := by
  have prefixed : b.before <+: b.steps.take r := by
    rw [← b.take_before]
    exact List.take_prefix_take_left le
  obtain ⟨more, same⟩ := prefixed
  rw [← same, List.map_append]
  exact mem_claims_append b.claimed _

/-- The control thread reports the end of the transmission and gives the slot back, and nothing carries the read from
then on. -/
theorem reported (finished : b.final.IsQuiet ∨ b.final.isShutDown = true) {result : Attempt Outcome}
    (ends : b.EndsWith result) :
    ∃ x ∈ b.steps, x.occurrence.deed.token? = some (c.session, c.generation) ∧
      x.occurrence.events = [.reported c.session
        (.transmitFinished c.generation (finalOutcome b.command.numBytes result))] ∧
      (x.after.sessions c.session).slot.state = .idle ∧ Forsaken b.final.pending c.session c.generation := by
  obtain ⟨r, serves⟩ := b.told finished ends
  obtain ⟨x, at_r, ran⟩ := serves.takes
  obtain ⟨earlier, -, acted, later⟩ := b.whole.step_at at_r
  have orderly := orderly_of_run b.positive earlier.run
  obtain ⟨chronicle, -⟩ := chronicle_of_any_run b.positive earlier.run
  obtain ⟨rest, consumed, produced, split, merged, effect⟩ := act_effect acted
  rw [split] at chronicle
  have runs : x.occurrence.deed = .ran (.streamed c.session c.generation b.command.numBytes result) := deed_of_ran ran
  have taken : Item.job (.streamed c.session c.generation b.command.numBytes result) ∈ x.occurrence.deed.items := by
    rw [runs]
    exact Multiset.mem_singleton_self _
  rcases effect.of_streaming chronicle (orderly.serves acted) taken rfl rfl with
    ⟨w, t, worked, -⟩ | ⟨forsaken, works, -, idle⟩
  · rw [runs] at worked
    cases worked
  · have claimed := b.claimed_by (jobLine.lt_of_serves b.whole serves).le
    have still := (forsaken_later b.positive (earlier.run.step trivial acted) (mem_claims_append claimed _)
      (merged ▸ forsaken) later.run).1
    exact ⟨x, List.mem_of_getElem? at_r, works, effect.of_finish runs, idle, still⟩

/-- A read that breaks off ends once, with what its transmission ended with. -/
theorem endsOnce (finished : b.final.IsQuiet ∨ b.final.isShutDown = true) {result : Attempt Outcome}
    (ends : b.EndsWith result) : b.EndsOnce (finalOutcome b.command.numBytes result) := by
  obtain ⟨x, member, works, events, idle, forsaken⟩ := b.reported finished ends
  have shown : .reported c.session (.transmitFinished c.generation (finalOutcome b.command.numBytes result))
      ∈ eventsOf c.session c.generation (b.steps.map Step.occurrence) := by
    refine List.mem_flatMap.mpr ⟨x.occurrence, List.mem_map_of_mem member, ?_⟩
    rw [Occurrence.shownOf, if_pos works, Occurrence.shown, events]
    exact List.mem_singleton_self _
  have claimed : c ∈ claims (b.steps.map Step.occurrence) := by
    rw [steps, List.append_assoc, List.map_append]
    exact mem_claims_append b.claimed _
  have settled := (chronicle_of_any_run b.positive b.whole.run).1.settled c claimed forsaken
  obtain ⟨once, free⟩ := settled.finishes_once b.stands.2.1 shown (Event.finishes_iff.mpr ⟨_, rfl⟩)
  refine ⟨?_, ⟨x, member, ?_, idle⟩, free⟩
  · rw [finishCount_eq (attributed_of_run b.whole.run), once]
  · rw [events]
    exact List.mem_singleton_self _

/-- How a read ends that breaks off. -/
theorem broken (finished : b.final.IsQuiet ∨ b.final.isShutDown = true) :
    c.Fills b.command ∧ ∃ error,
      (error = .connect b.command.host b.command.port ∨ error = .write (Transmission.wholeChunks contacts)
        (min chunkSize (b.command.numBytes - Transmission.wholeChunks contacts))) ∧
      b.EndsOnce (finalOutcome b.command.numBytes
        (Transmission.breakage b.command (Transmission.wholeChunks contacts) error breach)) := by
  obtain ⟨fills, -, error, breaks, made⟩ := b.stands
  exact ⟨fills, error, made, b.endsOnce finished breaks.ends⟩

end Breaking

/-! ### A worker by itself -/

section

variable {s : Scheduler} {i id : Nat} {command : ReadCommand} {t t' : Transmission} {contacts : List Contact}
  {consumer : Consumer}

theorem eventsOf_append (id generation : Nat) (early late : List Occurrence) :
    eventsOf id generation (early ++ late) = eventsOf id generation early ++ eventsOf id generation late :=
  List.flatMap_append

theorem act?_of_running (environment : Environment) {task : Task} (running : s.workers[i]? = some (.running task)) :
    s.act? (.move environment (.worker i))
      = some ((s.runTask environment i task).1, ⟨.worked i task, (s.runTask environment i task).2⟩) := by
  simp only [act?, move?, stepWorker?, running, deed, Option.map_some]

/-- The state in which a worker has carried a transmission so far. -/
def carrying (s : Scheduler) (i id : Nat) (command : ReadCommand) (t : Transmission) : Scheduler :=
  s.setWorker i (.running (.stream id command t))

theorem running_carrying (below : i < s.workers.length) (id : Nat) (command : ReadCommand) (t : Transmission) :
    (s.carrying i id command t).workers[i]? = some (.running (.stream id command t)) := List.getElem?_set_self below

theorem carrying_self (running : s.workers[i]? = some (.running (.stream id command t))) :
    s.carrying i id command t = s := by
  obtain ⟨below, here⟩ := List.getElem?_eq_some_iff.mp running
  simp [carrying, setWorker, ← here]

theorem act?_carrying (environment : Environment) (below : i < s.workers.length)
    (offers : environment.consumer id command.generation command.host command.port = consumer)
    (uncancelled : (s.sessions id).slot.isCancelled command.generation = false)
    (stepped : t.step consumer command false = (contacts, .goesOn t')) :
    (s.carrying i id command t).act? (.move environment (.worker i)) = some (s.carrying i id command t',
      ⟨.worked i (.stream id command t), contacts.map (.contacted id command.generation)⟩) := by
  have still : ((s.carrying i id command t).sessions id).slot.isCancelled command.generation = false := uncancelled
  simp only [act?_of_running environment (running_carrying below id command t), runTask, offers, still, stepped]
  simp [carrying, setWorker]

/-- A worker carries a transmission along its course. -/
theorem exists_path_of_course {environment : Environment}
    (running : s.workers[i]? = some (.running (.stream id command {})))
    (offers : environment.consumer id command.generation command.host command.port = consumer)
    (uncancelled : (s.sessions id).slot.isCancelled command.generation = false) {k : Nat}
    (going : (Transmission.course consumer command (fun _ => false) k).next = .goesOn t) :
    ∃ steps, Path (fun _ => True) s steps (s.carrying i id command t) ∧
      eventsOf id command.generation (steps.map Step.occurrence) =
        (Transmission.course consumer command (fun _ => false) k).contacts.map (.contacted id command.generation) := by
  obtain ⟨below, -⟩ := List.getElem?_eq_some_iff.mp running
  induction k generalizing t with
  | zero =>
    obtain rfl : {} = t := Transmission.Next.goesOn.inj going
    rw [carrying_self running]
    exact ⟨[], .start, rfl⟩
  | succ k ih =>
    cases earlier : (Transmission.course consumer command (fun _ => false) k).next with
    | ends result => simp only [Transmission.course, earlier, reduceCtorEq] at going
    | goesOn t₀ =>
      obtain ⟨steps, path, shown⟩ := ih earlier
      obtain ⟨contacts, next, stepped⟩ : ∃ contacts next, t₀.step consumer command false = (contacts, next) :=
        ⟨_, _, rfl⟩
      rw [Transmission.course_succ earlier, stepped] at going ⊢
      obtain rfl : next = .goesOn t := going
      refine ⟨_, path.step trivial (act?_carrying environment below offers uncancelled stepped), ?_⟩
      have works : (Deed.worked i (.stream id command t₀)).token? = some (id, command.generation) := rfl
      rw [List.map_append, List.map_singleton, eventsOf_snoc, shown, List.map_append, Occurrence.shownOf, if_pos works,
        shown_contacts]

/-- No call has been made for a read whose transmission has just been taken. -/
theorem no_contact_of_fresh {n : Nat} (positive : 0 < n) {history : List Occurrence} {c : Claim}
    (run : Run (fun _ => True) (start n) history s) (claimed : c ∈ claims history)
    (running : s.workers[i]? = some (.running (.stream c.session command {})))
    (named : command.generation = c.generation) : contactsOf (eventsOf c.session c.generation history) = [] := by
  have pending : Item.task (.stream c.session command {}) ∈ s.pending :=
    Multiset.singleton_le.mp ((running_timely running).trans (timely_le_pending s))
  have underway := (chronicle_of_any_run positive run).1.underway_of claimed pending (named ▸ rfl)
  generalize eventsOf c.session c.generation history = events at underway
  cases underway with
  | connecting => rfl
  | sending _ _ _ phase => exact absurd rfl phase

/-- Where all that is left is a transmission that a worker has just taken, it can break off at any call of its course,
and nothing is left then. -/
theorem exists_breaking {environment : Environment} {n k sent : Nat} (positive : 0 < n) {before : List Step} {c : Claim}
    {breach : Attempt String} {error : String → TransmitError} (path : Path (fun _ => True) (start n) before s)
    (claimed : c ∈ claims (before.map Step.occurrence)) (named : command.generation = c.generation)
    (alone : s.workers = [.running (.stream c.session command {})]) (no_task : s.work = []) (no_job : s.control = [])
    (offers : environment.consumer c.session command.generation command.host command.port = consumer)
    (uncancelled : (s.sessions c.session).slot.isCancelled command.generation = false)
    (going : (Transmission.course consumer command (fun _ => false) k).next = .goesOn t)
    (breaks : t.BreaksOff consumer command breach sent error) :
    ∃ b : Breaking c (Transmission.course consumer command (fun _ => false) k).contacts breach, b.final.IsQuiet := by
  have running : s.workers[0]? = some (.running (.stream c.session command {})) := by simp [alone]
  obtain ⟨below, -⟩ := List.getElem?_eq_some_iff.mp running
  obtain ⟨alive, -⟩ := (orderly_of_run positive path.run).of_present (present_of_found running rfl)
  obtain ⟨steps, carries, shown⟩ := exists_path_of_course running offers uncancelled going
  -- The call that breaks off ends the task, and the control thread has only the job that tells so.
  obtain ⟨j, ended⟩ : ∃ j, j = ControlJob.streamed c.session command.generation command.numBytes
    (Transmission.breakage command sent error breach) := ⟨_, rfl⟩
  have breaking := act?_of_running environment (running_carrying below c.session command t)
  have posted : (s.carrying 0 c.session command t).finishTask 0 j
      = { s with workers := [.idle], control := [.job j] } := by
    simp [carrying, finishTask, post, submitJob?, setWorker, alive, alone, no_job]
  have result : (Task.stream c.session command t).result? environment (s.carrying 0 c.session command t).sessions
      = some j := by
    rw [Task.result?, offers, breaks.ends, ended]
  rw [runTask_of_result result, posted] at breaking
  obtain ⟨final, told, quiet⟩ : ∃ final, ({ s with workers := [.idle], control := [.job j] } : Scheduler).act?
      (.move environment .control) = some final ∧ final.1.IsQuiet := by
    simp only [act?, move?, stepControl?, alive, Bool.not_true, Bool.false_eq_true, if_false, Option.map_some,
      Option.some_inj, ended, exists_eq_left']
    exact ⟨rfl, no_task, by simp [runJob, releaseSlot, setSlot, setSession]⟩
  have whole := ((path.trans carries).step trivial breaking).step trivial told
  refine ⟨⟨n, before ++ steps, _, [_], _, environment, 0, command, t, positive, whole, ?_, ?_, rfl, rfl, named, sent,
    error, ?_⟩, quiet⟩
  · rw [List.map_append]
    exact mem_claims_append claimed _
  · have silent := no_contact_of_fresh positive path.run claimed running named
    rw [← named] at silent ⊢
    rw [List.map_append, eventsOf_append, contactsOf_append, silent, shown, contactsOf_contacted, List.nil_append]
  · rwa [offers]

end

/-! ### A read of more than a chunk -/

/-- The claim of a read of all points of a source that has one byte more than a chunk. -/
def longClaim : Claim where
  session := 0
  generation := 1
  source := (FixedAnswer.counts (chunkSize + 1)).toSource (chunkSize + 1) [⟨"Intensity", .unsigned, 1⟩] "\x7b\x7d"
  positional := [.value (.string "consumer"), .value (.ofNat 7000), .value (.object []), .value (.ofNat 0),
    .value (.ofNat (chunkSize + 1))]
  callback := { recipient := 1 }

/-- The command that it makes. -/
def longCommand : ReadCommand where
  source := longClaim.source
  host := "consumer"
  port := 7000
  schema := ⟨[⟨"Intensity", .unsigned, 1⟩]⟩
  query := .range 0 (chunkSize + 1)
  generation := 1
  buffer := List.replicate (chunkSize + 1) 0
  numPoints := 0
  numBytes := 0

/-- The command with what its query fills in. -/
def longFilled : ReadCommand :=
  { longCommand with
    buffer := FixedAnswer.overwrite (chunkSize + 1) (List.replicate (chunkSize + 1) 0)
    numPoints := chunkSize + 1
    numBytes := chunkSize + 1 }

theorem run_longCommand : longCommand.run = (longFilled, .returned (.ok ())) := by
  have fits : (chunkSize + 1) * longCommand.stride ≤ longCommand.capacity := by
    simp [ReadCommand.stride, ReadCommand.capacity, longCommand, Schema.stride]
  exact ReadCommand.run_of_fits rfl fits

theorem longClaim_fills : longClaim.Fills longFilled := ⟨longCommand, rfl, run_longCommand⟩

theorem numBytes_longFilled : longFilled.numBytes = chunkSize + 1 := rfl

/-- The consumer has taken one chunk. -/
def longContacts : List Contact := [.connect "consumer" 7000, .write chunkSize (longFilled.payload.take chunkSize)]

theorem wholeChunks_longContacts : Transmission.wholeChunks longContacts = chunkSize := by
  have delivered : (Contact.received longContacts).length = chunkSize := by
    rw [longContacts, Transmission.received_of_one_write, List.length_take,
      Transmission.length_payload longClaim_fills.numBytes_le, numBytes_longFilled]
    exact Nat.min_eq_left (Nat.le_succ chunkSize)
  rw [Transmission.wholeChunks, delivered, Nat.div_self Transmission.chunkSize_pos, Nat.one_mul]

/-- A provider of that source, and a consumer of one chunk. -/
def brittle (aborts : Bool) : Environment where
  provider :=
    { openSource := fun _ => .returned (.ok longClaim.source)
      validate := fun _ => .returned (.ok ()) }
  consumer _ _ _ _ := Transmission.oneChunk aborts

/-- The source is opened and read, and the query is about to run. -/
def longRead (aborts : Bool) : List Action := [
  .call (.create 0 "pipeline" { recipient := 0 }), .move (brittle aborts) (.worker 0),
  .move (brittle aborts) (.worker 0), .move (brittle aborts) .control,
  .call (.read 0 (longClaim.positional ++ [.callback longClaim.callback])), .move (brittle aborts) .control,
  .move (brittle aborts) (.worker 0)]

def beforeQuery (aborts : Bool) : Scheduler := ((start 1).follow (longRead aborts)).1

def afterQuery (aborts : Bool) : Scheduler where
  workers := [.idle]
  control := [.job (.queried 0 1 (.returned (longFilled, .ok ())) longClaim.callback)]
  sessions := (beforeQuery aborts).sessions

/-- The read is accepted, and the worker takes its transmission. -/
def longAcceptance (aborts : Bool) : List Action :=
  [.move (brittle aborts) .control, .move (brittle aborts) (.worker 0)]

def beforeStream (aborts : Bool) : Scheduler := ((afterQuery aborts).follow (longAcceptance aborts)).1

theorem act?_beforeQuery (aborts : Bool) : (beforeQuery aborts).act? (.move (brittle aborts) (.worker 0))
    = some (afterQuery aborts, ⟨.worked 0 (.query 0 longCommand longClaim.callback), []⟩) := by
  have running : (beforeQuery aborts).workers[0]? = some (.running (.query 0 longCommand longClaim.callback)) := rfl
  -- The query is rewritten and not evaluated, since its buffer is long.
  simp only [act?_of_running _ running, runTask, run_longCommand]
  rfl

/-- The read breaks off at its second chunk. -/
theorem exists_longBreaking (aborts : Bool) :
    ∃ b : Breaking longClaim longContacts (Transmission.oneChunkBreach aborts), b.final.IsQuiet := by
  have called : Path (fun _ => True) (start 1) ((start 1).trail (longRead aborts)) (beforeQuery aborts) :=
    path_trail _ _ fun _ _ => trivial
  have accepted : Path (fun _ => True) (afterQuery aborts) ((afterQuery aborts).trail (longAcceptance aborts))
    (beforeStream aborts) := path_trail _ _ fun _ _ => trivial
  have path := (called.step trivial (act?_beforeQuery aborts)).trans accepted
  have claimed : longClaim ∈ claims (((start 1).trail (longRead aborts)).map Step.occurrence) := by
    rw [show claims (((start 1).trail (longRead aborts)).map Step.occurrence) = [longClaim] from rfl]
    exact List.mem_singleton_self _
  have alone : (beforeStream aborts).workers = [.running (.stream 0 longFilled {})] := rfl
  have offers : (brittle aborts).consumer 0 longFilled.generation longFilled.host longFilled.port
      = Transmission.oneChunk aborts := rfl
  have more : chunkSize < longFilled.numBytes := by
    rw [numBytes_longFilled]
    exact Nat.lt_succ_self chunkSize
  obtain ⟨t, going, contacts, breaks⟩ := Transmission.course_oneChunk longClaim_fills.numBytes_le more aborts
  rw [show longContacts = _ from contacts.symm]
  refine exists_breaking (by decide) path ?_ rfl alone rfl rfl offers rfl going breaks
  rw [List.append_assoc, List.map_append]
  exact mem_claims_append claimed _

/-! ### A failure and an abort -/

/-- Two runs in which the consumer of a read gets the same calls, until a connect or a write fails in the one run and is
aborted in the other. Once nothing is left to be done, both reads have ended once as failed, with the same total, and
given their slots back. The failure says that the whole chunks before that call were sent, which is less than a chunk
behind what the consumer received. The abort says that nothing was sent, which is the same as long as the consumer
received less than a chunk, and only then. -/
theorem failed_and_aborted_calls_end {c : Claim} {contacts : List Contact} {reason : String}
    (fails : Breaking c contacts (.returned reason)) (aborts : Breaking c contacts .aborted)
    (finished : fails.final.IsQuiet ∨ fails.final.isShutDown = true)
    (finished' : aborts.final.IsQuiet ∨ aborts.final.isShutDown = true) :
    let received := (Contact.received contacts).length
    let sent := Transmission.wholeChunks contacts
    ∃ filled, ∃ error : TransmitError, c.Fills filled ∧
      (error = .connect filled.host filled.port reason ∨
        error = .write sent (min chunkSize (filled.numBytes - sent)) reason) ∧
      fails.EndsOnce (.failed sent filled.numBytes error.message) ∧
      aborts.EndsOnce (.failed 0 filled.numBytes abortedText) ∧
      sent ≤ received ∧ received < sent + chunkSize ∧ (sent = 0 ↔ received < chunkSize) := by
  obtain ⟨fills, error, made, failed⟩ := fails.broken finished
  obtain ⟨fills', _, -, aborted⟩ := aborts.broken finished'
  rw [fills'.unique fills] at aborted
  refine ⟨fails.command, error reason, fills, ?_, failed, aborted, Transmission.wholeChunks_spec contacts⟩
  rcases made with rfl | rfl
  · exact .inl rfl
  · exact .inr rfl

/-- A read of more than a chunk breaks off at its second chunk: a failure says that one chunk was sent, and an abort
that nothing was. -/
theorem longRead_fails_and_aborts :
    ∃ (fails : Breaking longClaim longContacts (.returned "sink failed"))
      (aborts : Breaking longClaim longContacts .aborted) (error : TransmitError),
      fails.EndsOnce (.failed chunkSize (chunkSize + 1) error.message) ∧
      aborts.EndsOnce (.failed 0 (chunkSize + 1) abortedText) := by
  obtain ⟨fails, quiet⟩ := exists_longBreaking false
  obtain ⟨aborts, quiet'⟩ := exists_longBreaking true
  obtain ⟨filled, error, fills, -, failed, aborted, -⟩ :=
    failed_and_aborted_calls_end fails aborts (.inl quiet) (.inl quiet')
  obtain rfl := fills.unique longClaim_fills
  rw [wholeChunks_longContacts] at failed
  exact ⟨fails, aborts, error, failed, aborted⟩

/-- A failure and an abort of the same call need not be told with the same number of bytes sent. -/
theorem aborted_call_forgets_chunk :
    ¬∀ (c : Claim) (contacts : List Contact) (reason : String) (fails : Breaking c contacts (.returned reason))
      (aborts : Breaking c contacts .aborted), fails.final.IsQuiet → aborts.final.IsQuiet →
      ∃ sent total error error', fails.EndsOnce (.failed sent total error) ∧
        aborts.EndsOnce (.failed sent total error') := by
  intro same
  obtain ⟨fails, quiet⟩ := exists_longBreaking false
  obtain ⟨aborts, quiet'⟩ := exists_longBreaking true
  obtain ⟨sent, total, error, error', failed, aborted⟩ :=
    same longClaim longContacts "sink failed" fails aborts quiet quiet'
  obtain ⟨-, _, -, failed'⟩ := fails.broken (.inl quiet)
  obtain ⟨-, _, -, aborted'⟩ := aborts.broken (.inl quiet')
  obtain ⟨chunk, -⟩ := Outcome.failed.inj (failed.unique _ failed')
  obtain ⟨nothing, -⟩ := Outcome.failed.inj (aborted.unique _ aborted')
  rw [wholeChunks_longContacts] at chunk
  exact Nat.ne_of_gt Transmission.chunkSize_pos (chunk.symm.trans nothing)

end Scheduler

end PointStream
