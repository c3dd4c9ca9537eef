/-!
# Calls that may be aborted

A source, a consumer or a callback is foreign code: a call into it returns, or it is aborted half-way.
-/

namespace PointStream

/-- How a call into foreign code ends. -/
inductive Attempt (α : Type) where
  | returned (a : α)
  | aborted
deriving Inhabited

namespace Attempt

def map {α β : Type} (f : α → β) : Attempt α → Attempt β
  | returned a => returned (f a)
  | aborted => aborted

end Attempt

end PointStream
