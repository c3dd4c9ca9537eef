import PointStream.Scheduler.Basic

/-!
# A fixed schedule

Of all orders in which the threads can move, one is fixed: the control thread goes before the workers, and a
worker before those after it. Gates can hold the control thread, and make queries and write calls wait for
permits.
-/

namespace PointStream

/-- What may pass at the moment. -/
structure Gates where
  holdControl : Bool := false
  /-- Each query uses up a permit. -/
  holdQueries : Bool := false
  queryPermits : Nat := 0
  /-- Each write call uses up a permit. -/
  holdWrites : Bool := false
  writePermits : Nat := 0
deriving Inhabited

namespace Scheduler

/-- The gates after worker `i` has moved; none if it cannot move. -/
def passWorker? (s : Scheduler) (g : Gates) : Worker → Option Gates
  | .idle => if s.work.isEmpty then none else some g
  | .running (.query ..) =>
    if !g.holdQueries then some g
    else if g.queryPermits = 0 then none
    else some { g with queryPermits := g.queryPermits - 1 }
  | .running (.stream _ _ t) =>
    if !g.holdWrites || !t.isWriting then some g
    else if g.writePermits = 0 then none
    else some { g with writePermits := g.writePermits - 1 }
  | .running _ => some g
  | .exited => none

/-- The first of the workers from `i` on that can move. -/
def nextWorker? (s : Scheduler) (g : Gates) : Nat → List Worker → Option (Move × Gates)
  | _, [] => none
  | i, w :: rest =>
    match s.passWorker? g w with
    | some g => some (.worker i, g)
    | none => nextWorker? s g (i + 1) rest

def nextMove? (s : Scheduler) (g : Gates) : Option (Move × Gates) :=
  if !g.holdControl && s.controlAlive && !s.control.isEmpty then some (.control, g)
  else if s.stepShutdown?.isSome then some (.shutdown, g)
  else s.nextWorker? g 0 s.workers

/-- Moves until nothing can, or `moves` moves are made. `shown` holds the events so far, last first. -/
def settle (env : Environment) : (moves : Nat) → Scheduler → Gates → (shown : List Event) →
    Scheduler × Gates × List Event
  | 0, s, g, shown => (s, g, shown.reverse)
  | moves + 1, s, g, shown =>
    match s.nextMove? g with
    | none => (s, g, shown.reverse)
    | some (m, g) =>
      match s.move? env m with
      | none => (s, g, shown.reverse)
      | some (s, events) => settle env moves s g (events.reverse ++ shown)

end Scheduler

end PointStream
