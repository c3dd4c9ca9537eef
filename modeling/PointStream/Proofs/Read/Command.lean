import PointStream.Read.Command

/-!
# Commands

What becomes of a command when its query runs: only its buffer and its counts change, and the counts only when
the query reports points that fit the buffer.
-/

namespace PointStream

namespace ReadCommand

theorem generation_make {source : Source} {request : ReadRequest} {generation : Nat} {command : ReadCommand}
    (made : make source request generation = .ok command) : command.generation = generation := by
  unfold make at made
  dsimp only at made
  split at made
  · cases made
  · split at made
    · cases made
    · cases made
      rfl

theorem generation_ofArguments {source : Source} {positional : List Argument} {generation : Nat}
    {command : ReadCommand} (made : ofArguments source positional generation = .ok command) :
    command.generation = generation := by
  unfold ofArguments at made
  split at made
  · cases made
  next request _ =>
    cases result : make source request generation with
    | error e =>
      rw [result] at made
      cases made
    | ok command' =>
      rw [result] at made
      cases made
      exact generation_make result

theorem generation_run (command : ReadCommand) : command.run.1.generation = command.generation := by
  unfold run
  dsimp only
  split
  · rfl
  · rfl
  · split <;> rfl

/-- A query that reports points which fit is recorded with their number and their bytes. -/
theorem run_of_fits {command : ReadCommand} {buffer : List UInt8} {points : Nat}
    (answered : command.source.answer command.generation command.schema command.query command.buffer
      = ⟨buffer, .returned (.ok points)⟩)
    (fits : points * command.stride ≤ command.capacity) :
    command.run = ({ command with buffer, numPoints := points, numBytes := points * command.stride },
      .returned (.ok ())) := by
  simp [run, answered, fits]

theorem run_of_error {command : ReadCommand} {buffer : List UInt8} {e : SourceError}
    (answered : command.source.answer command.generation command.schema command.query command.buffer
      = ⟨buffer, .returned (.error e)⟩) :
    command.run = ({ command with buffer }, .returned (.error (.source e))) := by
  simp [run, answered]

/-- A command that ran has filled no more than its buffer. -/
theorem numBytes_le_of_run {command filled : ReadCommand}
    (ran : command.run = (filled, .returned (.ok ()))) : filled.numBytes ≤ filled.capacity := by
  unfold run at ran
  dsimp only at ran
  split at ran
  next => cases ran
  next => cases ran
  next points _ =>
    split at ran
    next fits =>
      cases ran
      simp only [capacity, command.source.length_answer]
      exact fits
    next => cases ran

end ReadCommand

end PointStream
