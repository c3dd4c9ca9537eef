import PointStream.Proofs.Scheduler.Chronicle

/-!
# Callbacks that abort

A callback of a read that aborts ends the job of the control thread before the slot is given back. The thread goes
on with its queue, but nothing that is pending carries the read any more, so its session is taken for good. Where
no callback of a session aborts, a quiet scheduler has its slot free.
-/

namespace PointStream

namespace Scheduler

variable {admits : Action → Prop} {n : Nat} {history : List Occurrence} {s : Scheduler}

/-- A free slot of a session with a source is claimed by the next read. -/
theorem call_read_of_free {id : Nat} {source : Source} (positional : List Argument) (callback : Callback)
    (found : (s.sessions id).source = some source) (free : (s.sessions id).slot.active = none)
    (alive : s.controlAlive = true) :
    ∃ after generation, s.call (.read id (positional ++ [.callback callback]))
        = (after, .read (.ok ()) (some source) (some generation)) ∧
      (after.sessions id).slot.isHeldBy generation = true := by
  have claimed := read_claimed (splitCallback_append positional callback) found free alive
  refine ⟨(s.read id (positional ++ [.callback callback])).1, (s.sessions id).slot.issued + 1, ?_, ?_⟩
  · simp [call, claimed, found, newHolder?, ReadSlot.isActive, free]
  · simp [claimed, ReadSlot.isHeldBy]

/-- A read whose callback aborted holds its slot in every later state. -/
theorem held_after_abort {lossy : Prop} {items : Multiset Item} {x : Nat → Session}
    (told : Chronicle lossy history items x) {c : Claim} (claimed : c ∈ claims history)
    (aborts : c.callback.aborts = true) (forsaken : Forsaken items c.session c.generation)
    (kept : ¬lossy) :
    Halted c (eventsOf c.session c.generation history) ∧
      (x c.session).slot.isHeldBy c.generation = true := by
  cases told.settled c claimed forsaken with
  | complete calm all free =>
    rw [aborts] at calm
    cases calm
  | halted _ cut stuck => exact ⟨cut, stuck⟩
  | dropped loses => exact absurd loses kept

/-- In a quiet state of a scheduler that nobody shuts down every thread still serves its queue. A read whose
callback aborted has shown no more than its answer, and holds the slot of its session from now on, whatever is
done. If no callback aborted that a read of the session was claimed with, the slot is idle, and the next read of a
session with a source is claimed. -/
theorem slot_kept_by_aborted_callback (positive : 0 < n) (on : ∀ a, admits a → a ≠ .shutdown)
    (run : Run admits (start n) history s) (quiet : s.IsQuiet) (id : Nat) :
    s.Serving ∧
    (∀ c ∈ claims history, c.session = id → c.callback.aborts = true →
      Halted c (eventsOf id c.generation history) ∧
      ∀ after s', Run admits s after s' → (s'.sessions id).slot.isHeldBy c.generation = true) ∧
    ((∀ c ∈ claims history, c.session = id → c.callback.aborts = false) →
      (s.sessions id).slot.state = .idle ∧
      ∀ source positional callback, (s.sessions id).source = some source →
        ∃ after generation, s.call (.read id (positional ++ [.callback callback]))
            = (after, .read (.ok ()) (some source) (some generation)) ∧
          (after.sessions id).slot.isHeldBy generation = true) := by
  have serving := serving_of_run on positive run
  have told := chronicle_of_serving_run positive on run
  refine ⟨serving, ?_, ?_⟩
  · rintro c claimed rfl aborts
    have forsaken := forsaken_of_quiet quiet c.session c.generation
    refine ⟨(held_after_abort told claimed aborts forsaken id).1, fun after s' later => ?_⟩
    -- What nothing carries is not taken up again, so the claim is settled in the same way.
    have told_later := chronicle_of_serving_run positive on (run.trans later)
    have still_forsaken := (forsaken_later positive run claimed forsaken later).1
    exact (held_after_abort told_later (mem_claims_append claimed after) aborts still_forsaken id).2
  · intro calm
    have free : (s.sessions id).slot.active = none := by
      cases active : (s.sessions id).slot.active with
      | none => rfl
      | some read =>
        -- Whoever held the slot would be a claim that is settled without having given it back.
        obtain ⟨c, claimed, rfl, same⟩ := told.known id read active
        have held : (s.sessions c.session).slot.isHeldBy c.generation = true := by
          simp [ReadSlot.isHeldBy, active, same]
        cases told.settled c claimed (forsaken_of_quiet quiet c.session c.generation) with
        | complete _ _ free =>
          rw [held] at free
          cases free
        | halted aborts =>
          rw [calm c claimed rfl] at aborts
          cases aborts
        | dropped loses => exact loses.elim
    refine ⟨by simp [ReadSlot.state, free], fun source positional callback found => ?_⟩
    exact call_read_of_free positional callback found free serving.alive

/-- A source is opened and read with a count that is none. The callback aborts when it is told so. -/
def abortedRead : List Action := [
  .call (.create 0 "pipeline" { recipient := 0 }), .move openHanded (.worker 0), .move openHanded (.worker 0),
  .move openHanded .control,
  .call (.read 0 [.value (.string "consumer"), .value (.ofNat 7000), .value (.object []), .value (.string "zero"),
    .callback { recipient := 1, aborts := true }]),
  .move openHanded .control]

theorem abortedRead_on : ∀ a ∈ abortedRead, a ≠ .shutdown := by
  simp [abortedRead]

theorem quiet_abortedRead : ((start 2).follow abortedRead).1.IsQuiet := by
  refine ⟨rfl, rfl, ?_⟩
  rw [show ((start 2).follow abortedRead).1.workers = [.idle, .idle] from rfl]
  simp

/-- After the aborted callback nothing is left to do, the slot is still taken, and the next read of the session
claims nothing. -/
theorem session_stuck_after_aborted_callback :
    Run (· ≠ .shutdown) (start 2) ((start 2).follow abortedRead).2 ((start 2).follow abortedRead).1 ∧
    ((start 2).follow abortedRead).1.IsQuiet ∧
    (((start 2).follow abortedRead).1.sessions 0).source.isSome = true ∧
    (((start 2).follow abortedRead).1.sessions 0).slot.state = .reading ∧
    ∃ after source, ((start 2).follow abortedRead).1.call (readOfBoth 2)
        = (after, .read (.ok ()) (some source) none) :=
  ⟨run_follow (start 2) abortedRead abortedRead_on, quiet_abortedRead, rfl, rfl, _, _, rfl⟩

/-- The read with the aborted callback holds the slot from then on. -/
theorem abortedRead_holds_slot :
    Run (· ≠ .shutdown) (start 2) ((start 2).follow abortedRead).2 ((start 2).follow abortedRead).1 ∧
    ((start 2).follow abortedRead).1.IsQuiet ∧
    (claims ((start 2).follow abortedRead).2).length = 1 ∧
    ∀ c ∈ claims ((start 2).follow abortedRead).2, c.session = 0 → c.callback.aborts = true →
      ∀ after s', Run (· ≠ .shutdown) ((start 2).follow abortedRead).1 after s' →
        (s'.sessions 0).slot.isHeldBy c.generation = true := by
  have run : Run (· ≠ .shutdown) (start 2) ((start 2).follow abortedRead).2 ((start 2).follow abortedRead).1 :=
    run_follow (start 2) abortedRead abortedRead_on
  have kept := (slot_kept_by_aborted_callback (by decide) (fun _ => id) run quiet_abortedRead 0).2.1
  exact ⟨run, quiet_abortedRead, rfl, fun c claimed session aborts => (kept c claimed session aborts).2⟩

end Scheduler

end PointStream
