import Mathlib.Data.List.Induction
import PointStream.Proofs.Scheduler.Stopping

/-!
# Lines

In a list of steps some put something into a line and some take something out. The place of a step is the number of
steps before it that do the same, and what is put first is taken first: a step takes out what the step of the same
place has put in. `Entry.Turnover` lists what a step may do to a queue and to the threads that take from it.
-/

namespace PointStream

/-- How many of the elements before a position are selected. -/
def place {α β : Type} (f : α → Option β) (xs : List α) (p : Nat) : Nat := ((xs.take p).filterMap f).length

section

variable {α β : Type} {f g : α → Option β} {xs : List α} {p q : Nat}

theorem place_mono (le : p ≤ q) : place f xs p ≤ place f xs q :=
  ((List.take_sublist_take_left le).filterMap f).length_le

theorem place_succ {x : α} {b : β} (found : xs[p]? = some x) (selected : f x = some b) :
    place f xs (p + 1) = place f xs p + 1 := by
  simp [place, List.take_add_one, found, selected]

theorem place_lt (selected : ∃ x b, xs[p]? = some x ∧ f x = some b) (lt : p < q) : place f xs p < place f xs q := by
  obtain ⟨x, b, found, chosen⟩ := selected
  have next := place_succ found chosen
  have later : place f xs (p + 1) ≤ place f xs q := place_mono lt
  omega

/-- Two selected elements have different places. -/
theorem eq_of_place_eq (one : ∃ x b, xs[p]? = some x ∧ f x = some b) (other : ∃ x b, xs[q]? = some x ∧ f x = some b)
    (same : place f xs p = place f xs q) : p = q := by
  rcases Nat.lt_trichotomy p q with lt | eq | gt
  · exact absurd same (place_lt one lt).ne
  · exact eq
  · exact absurd same (place_lt other gt).ne'

theorem getElem?_place {x : α} {b : β} (found : xs[p]? = some x) (selected : f x = some b) :
    (xs.filterMap f)[place f xs p]? = some b := by
  obtain ⟨below, rfl⟩ := List.getElem?_eq_some_iff.mp found
  have split : xs.filterMap f = (xs.take p).filterMap f ++ b :: (xs.drop (p + 1)).filterMap f := by
    conv_lhs => rw [← List.take_append_drop p xs, List.drop_eq_getElem_cons below, List.filterMap_append]
    rw [List.filterMap_cons_some selected]
  rw [split, place, List.getElem?_append_right (le_refl _)]
  simp

/-- Of two selected elements the earlier one is related to the later one, if the selected ones are so in order. -/
theorem rel_of_lt {R : β → β → Prop} (related : (xs.filterMap f).Pairwise R) {x y : α} {b c : β}
    (found : xs[p]? = some x) (selected : f x = some b) (found' : xs[q]? = some y) (selected' : f y = some c)
    (lt : p < q) : R b c := by
  obtain ⟨below, rfl⟩ := List.getElem?_eq_some_iff.mp (getElem?_place found selected)
  obtain ⟨below', rfl⟩ := List.getElem?_eq_some_iff.mp (getElem?_place found' selected')
  exact List.pairwise_iff_getElem.mp related _ _ below below' (place_lt ⟨x, _, found, selected⟩ lt)

theorem exists_place {k : Nat} {b : β} (chosen : (xs.filterMap f)[k]? = some b) :
    ∃ p x, xs[p]? = some x ∧ f x = some b ∧ place f xs p = k := by
  induction xs using List.reverseRecOn with
  | nil => simp at chosen
  | append_singleton xs y ih =>
    rw [List.filterMap_append] at chosen
    by_cases early : k < (xs.filterMap f).length
    · rw [List.getElem?_append_left early] at chosen
      obtain ⟨p, x, found, selected, same⟩ := ih chosen
      obtain ⟨below, -⟩ := List.getElem?_eq_some_iff.mp found
      refine ⟨p, x, by rwa [List.getElem?_append_left below], selected, ?_⟩
      rw [← same, place, place, List.take_append_of_le_length below.le]
    · rw [List.getElem?_append_right (not_lt.mp early)] at chosen
      cases last : f y with
      | none => simp [last] at chosen
      | some c =>
        have only : k = (xs.filterMap f).length ∧ c = b := by
          rcases Nat.eq_zero_or_pos (k - (xs.filterMap f).length) with zero | pos
          · refine ⟨by omega, ?_⟩
            simpa [last, zero] using chosen
          · obtain ⟨m, succ⟩ := Nat.exists_eq_succ_of_ne_zero pos.ne'
            simp [last, succ] at chosen
        refine ⟨xs.length, y, by simp, by rw [last, only.2], ?_⟩
        rw [place, List.take_append_of_le_length (le_refl _), List.take_length, only.1]

end

/-- What the element at `p` puts into a line the element at `q` takes out: both have the same place. -/
structure Serves {α β : Type} (f g : α → Option β) (xs : List α) (p q : Nat) (b : β) : Prop where
  puts : ∃ x, xs[p]? = some x ∧ f x = some b
  takes : ∃ y, xs[q]? = some y ∧ g y = some b
  inLine : place f xs p = place g xs q

namespace Serves

variable {α β : Type} {f g : α → Option β} {xs : List α} {p p' q q' : Nat} {b b' : β}

theorem unique (one : Serves f g xs p q b) (other : Serves f g xs p q' b') : q = q' := by
  obtain ⟨y, found, taken⟩ := one.takes
  obtain ⟨y', found', taken'⟩ := other.takes
  exact eq_of_place_eq ⟨y, b, found, taken⟩ ⟨y', b', found', taken'⟩ (one.inLine.symm.trans other.inLine)

theorem injective (one : Serves f g xs p q b) (other : Serves f g xs p' q b') : p = p' := by
  obtain ⟨x, found, put⟩ := one.puts
  obtain ⟨x', found', put'⟩ := other.puts
  exact eq_of_place_eq ⟨x, b, found, put⟩ ⟨x', b', found', put'⟩ (one.inLine.trans other.inLine.symm)

/-- What is taken later was put later. -/
theorem lt_of_lt (one : Serves f g xs p q b) (other : Serves f g xs p' q' b') (lt : p < p') : q < q' := by
  obtain ⟨x, found, put⟩ := one.puts
  by_contra ge
  have before := place_lt ⟨x, b, found, put⟩ lt
  have after : place g xs q' ≤ place g xs q := place_mono (not_lt.mp ge)
  rw [one.inLine, other.inLine] at before
  omega

end Serves

/-! ### A queue and its takers -/

namespace Entry

variable {α : Type} {takers takers' : Nat} {queue queue' : List (Entry α)} {queued taken : Option α}

/-- How a step changes a queue and the number of threads that take from it, and what it queues and takes. -/
inductive Turnover : (takers : Nat) → (queue : List (Entry α)) → (queued taken : Option α) → (takers' : Nat) →
    (queue' : List (Entry α)) → Prop
  | stays (takers : Nat) (queue : List (Entry α)) : Turnover takers queue none none takers queue
  | queues (takers : Nat) (queue : List (Entry α)) (a : α) :
      Turnover takers queue (some a) none takers (queue ++ [job a])
  | signals (takers : Nat) (queue : List (Entry α)) : Turnover takers queue none none takers (queue ++ [stop])
  | takes (takers : Nat) (a : α) (rest : List (Entry α)) :
      Turnover (takers + 1) (job a :: rest) none (some a) (takers + 1) rest
  | leaves (takers : Nat) (rest : List (Entry α)) : Turnover (takers + 1) (stop :: rest) none none takers rest

/-- The job that stands behind the end of a queue as it was before. -/
def added? (before after : List (Entry α)) : Option α := (after.drop before.length).head?.bind content?

theorem Turnover.added?_eq (turnover : Turnover takers queue queued taken takers' queue') :
    added? queue queue' = queued := by
  cases turnover <;> simp [added?, content?]

theorem Turnover.of_option (takers : Nat) (queue : List (Entry α)) (a : Option α) :
    Turnover takers queue a none takers (queue ++ (a.map job).toList) := by
  cases a with
  | none =>
    rw [Option.map_none, Option.toList_none, List.append_nil]
    exact .stays takers queue
  | some a => exact .queues takers queue a

/-- Jobs are taken in the order in which they were queued. -/
theorem Turnover.in_order (turnover : Turnover takers queue queued taken takers' queue') :
    queue.filterMap content? ++ queued.toList = taken.toList ++ queue'.filterMap content? := by
  cases turnover <;> simp [content?, List.filterMap_cons]

theorem Turnover.first_of_takes {a : α} (turnover : Turnover takers queue queued (some a) takers' queue') :
    ∃ rest, queue = job a :: rest := by
  cases turnover with
  | takes => exact ⟨_, rfl⟩

/-- What is queued brings no stop message. -/
theorem Turnover.stay {a : α} (turnover : Turnover takers queue (some a) taken takers' queue')
    (stays : stops queue < takers) : stops queue' < takers' := by
  cases turnover with
  | queues takers queue a => simpa using stays

/-- What is taken in time stays so until it is taken. -/
theorem Turnover.in_time (turnover : Turnover takers queue queued taken takers' queue') :
    inTime takers queue <+: taken.toList ++ inTime takers' queue' := by
  cases turnover with
  | stays => exact List.prefix_rfl
  | queues | signals =>
    rw [inTime_append]
    exact List.prefix_append _ _
  | takes takers a rest =>
    simp only [inTime]
    exact List.prefix_rfl
  | leaves takers rest => exact List.prefix_rfl

end Entry

end PointStream
