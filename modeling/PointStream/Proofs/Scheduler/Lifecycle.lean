import PointStream.Proofs.Scheduler.Answers
import PointStream.Proofs.Scheduler.Chronicle

/-!
# The lifecycle of a read

In a calm run every read that claims the slot shows its events in one of the three orders, and every read that
is taken on is answered once. Two reads of a session never take turns, because the slot has only one holder.
-/

namespace PointStream

open Scheduler

namespace Scheduler

/-! ### What a history and what is pending tell together -/

/-- Of every claim, what is pending continues what has been shown; claims that have given the slot back have
shown all. The generations of a session take their turns in the order of their claims. -/
structure Told (history : List Occurrence) (items : Multiset Item) (x : Nat → Session) : Prop where
  underway : ∀ i ∈ items, ∀ id generation, i.token? = some (id, generation) →
    ∃ c ∈ claims history, c.session = id ∧ c.generation = generation ∧
      Underway c i (eventsOf id generation history)
  complete : ∀ c ∈ claims history, (x c.session).slot.isHeldBy c.generation = false →
    Lifecycle c (eventsOf c.session c.generation history)
  issued : ∀ c ∈ claims history, c.generation ≤ (x c.session).slot.issued
  distinct : (claims history).Pairwise fun c d => c.session = d.session → c.generation < d.generation
  ordered : ∀ id, (turns id history).Pairwise (· ≤ ·)
  claimed : ∀ id, ∀ generation ∈ turns id history,
    ∃ c ∈ claims history, c.session = id ∧ c.generation = generation

/-! ### Runs -/

theorem told_of_run {n : Nat} (positive : 0 < n) {history : List Occurrence} {s : Scheduler}
    (run : Run Action.IsCalm (start n) history s) : Told history s.pending s.sessions := by
  have chronicle := chronicle_of_serving_run positive (fun _ => Action.IsCalm.on) run
  refine ⟨?_, ?_, chronicle.issued, chronicle.distinct, chronicle.ordered, chronicle.claimed⟩
  · intro i member id generation token
    obtain ⟨c, claimed, session, same, underway, -⟩ := chronicle.underway i member id generation token
    exact ⟨c, claimed, session, same, underway⟩
  · intro c member given_back
    rcases chronicle.carried_or_settled member with ⟨i, pending, token⟩ | settled
    · -- What carries the claim holds the slot for it.
      rw [chronicle.isHeldBy_of_carrier pending token] at given_back
      cases given_back
    · cases settled with
      | complete calm all free => exact all
      | halted aborts cut stuck =>
        rw [given_back] at stuck
        cases stuck
      | dropped loses => exact loses.elim

/-- What a calm run shows belongs to its reads, and of each read that claimed its slot and gave it back it is one
of the three orders. Reads of a session follow one another without taking turns. Once nothing is left to do,
every read that was taken on has been answered exactly once, and every claim has been given back. -/
theorem one_answer_and_one_lifecycle {n : Nat} (positive : 0 < n) {history : List Occurrence} {s : Scheduler}
    (run : Run Action.IsCalm (start n) history s) :
    (∀ o ∈ history, ∀ e ∈ o.events, e.isAnswer = true → ∃ j, o.deed = .ran j) ∧
    (∀ o ∈ history, ∀ e ∈ o.events, ∀ token, e.token? = some token → o.deed.token? = some token) ∧
    (∀ o ∈ history, ∀ id generation, o.deed.token? = some (id, generation) →
      ∃ c ∈ claims history, c.session = id ∧ c.generation = generation) ∧
    ((claims history).Pairwise fun c d => c.session = d.session → c.generation < d.generation) ∧
    (∀ id, (turns id history).Pairwise (· ≤ ·)) ∧
    (∀ c ∈ claims history, (s.sessions c.session).slot.isHeldBy c.generation = false →
      Lifecycle c (eventsOf c.session c.generation history)) ∧
    (∀ id callback, answerCount id callback history ≤ readCount id callback history) ∧
    (s.IsQuiet →
      (∀ id callback, answerCount id callback history = readCount id callback history) ∧
      ∀ c ∈ claims history, Lifecycle c (eventsOf c.session c.generation history)) := by
  have told := told_of_run positive run
  have attributed := attributed_of_run run
  have answered (id : Nat) (callback : Callback) :=
    answers_add_owed (fun _ => Action.IsCalm.on) positive run id callback
  refine ⟨fun o member e shown => (attributed o member e shown).answers,
    fun o member e shown => (attributed o member e shown).names, ?_, told.distinct, told.ordered, told.complete,
    ?_, ?_⟩
  · intro o member id generation token
    exact told.claimed id generation (mem_turns_iff.mpr ⟨o, member, token⟩)
  · intro id callback
    have total := answered id callback
    omega
  · intro quiet
    have nothing := pending_of_quiet quiet
    refine ⟨fun id callback => ?_, fun c member => told.complete c member ?_⟩
    · have total := answered id callback
      rwa [nothing, owedCount_zero, add_zero] at total
    · have held := (owned_of_run positive run).1.held c.session
      rw [nothing, holders_zero] at held
      cases active : (s.sessions c.session).slot.active with
      | none => simp [ReadSlot.isHeldBy, active]
      | some read => simp [active] at held

/-- The two reads, followed to the end: the second is refused, and the first is streamed in one chunk. -/
def twoReadsToEnd : List Action := twoReads ++ [
  .move openHanded (.worker 1), .move openHanded .control, .move openHanded .control,
  .move openHanded (.worker 0), .move openHanded (.worker 0), .move openHanded (.worker 0),
  .move openHanded (.worker 0), .move openHanded (.worker 0), .move openHanded (.worker 0),
  .move openHanded .control]

theorem calm_twoReadsToEnd : ∀ a ∈ twoReadsToEnd, a.IsCalm := by
  rw [twoReadsToEnd, List.forall_mem_append]
  refine ⟨calm_twoReads, ?_⟩
  simp [Action.IsCalm]

/-- At the end of the two reads both recipients have their answer, and the read that claimed the slot shows one
of the three orders. -/
theorem both_reads_answered :
    let history := ((start 2).follow twoReadsToEnd).2
    Run Action.IsCalm (start 2) history ((start 2).follow twoReadsToEnd).1 ∧
    answerCount 0 { recipient := 1 } history = 1 ∧ answerCount 0 { recipient := 2 } history = 1 ∧
    (claims history).length = 1 ∧
    ∀ c ∈ claims history, Lifecycle c (eventsOf c.session c.generation history) := by
  have run := run_follow (start 2) twoReadsToEnd calm_twoReadsToEnd
  have quiet : ((start 2).follow twoReadsToEnd).1.IsQuiet := by
    refine ⟨rfl, rfl, ?_⟩
    rw [show ((start 2).follow twoReadsToEnd).1.workers = [.idle, .idle] from rfl]
    simp
  obtain ⟨answered, complete⟩ := (one_answer_and_one_lifecycle (by decide) run).2.2.2.2.2.2.2 quiet
  exact ⟨run, answered 0 { recipient := 1 }, answered 0 { recipient := 2 }, rfl, complete⟩

end Scheduler

end PointStream
