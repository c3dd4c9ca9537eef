import PointStream.Log.Record
import PointStream.Host.Address

/-!
# Log filters

A filter is a list of directives with commas between them. A directive gives the least severe level that is
shown, for all records or for the targets that start with some text: `info`, `cloudstreamd::reads=debug`. Of the
directives that apply to a record, the one with the longest target decides.
-/

namespace PointStream

/-- What is shown of some targets: records up to a level, or nothing. -/
structure LogDirective where
  target : String
  limit : Nat
deriving DecidableEq, Inhabited

structure LogFilter where
  directives : List LogDirective
deriving DecidableEq, Inhabited

namespace LogDirective

def appliesTo (d : LogDirective) (target : String) : Bool := d.target.toList.isPrefixOf target.toList

/-- The limit that a number or the name of a level gives. -/
def limit? (s : String) : Option Nat :=
  match Text.readNatural? UInt64.size s with
  | some n => if n ≤ LogLevel.trace.rank then some n else none
  | none =>
    if Text.sameIgnoringCase s "off" then some 0
    else (LogLevel.all.find? fun l => Text.sameIgnoringCase l.name s).map LogLevel.rank

/-- Whether a directive can begin with a character. -/
def isInitial (c : Char) : Bool := c.isAlphanum || c == '-' || c == ':' || c == '_' || 0x80 ≤ c.toNat

/-- Reads a directive: a level for all records, a target that is shown altogether, or both with an equals sign
between them. -/
def ofChars? (cs : List Char) : Option LogDirective :=
  let everything := LogLevel.trace.rank
  if !cs.head?.any isInitial || cs.contains '[' then none
  else
    let target := String.ofList (cs.takeWhile (· ≠ '='))
    match cs.dropWhile (· ≠ '=') with
    | [] =>
      -- A text without equals sign is a level if it can be one.
      match limit? target with
      | some limit => some ⟨"", limit⟩
      | none => some ⟨target, everything⟩
    | [_] => some ⟨target, everything⟩
    | _ :: level => (limit? (String.ofList level)).map (⟨target, ·⟩)

end LogDirective

namespace LogFilter

/-- Reads a filter. Without directives it shows errors. -/
def ofText? (s : String) : Option LogFilter := do
  let parts := (splitAtEach ',' s.toList).filter (!·.isEmpty)
  let directives ← parts.mapM LogDirective.ofChars?
  return ⟨if directives.isEmpty then [⟨"", LogLevel.error.rank⟩] else directives⟩

/-- The directive that decides about a target: the last of those with the longest text. -/
def decisive? (f : LogFilter) (target : String) : Option LogDirective :=
  (f.directives.filter (·.appliesTo target)).foldl (fun best d =>
    match best with
    -- Of two texts of one length the later directive decides.
    | some b => if d.target.length < b.target.length then some b else some d
    | none => some d) none

def admits (f : LogFilter) (r : LogRecord) : Bool :=
  match f.decisive? r.target.name with
  | some d => r.level.rank ≤ d.limit
  | none => false

end LogFilter

inductive LogSetupError where
  | filter
  /-- The process has a log already. -/
  | occupied
deriving DecidableEq, Inhabited

def LogSetupError.message : LogSetupError → String
  | filter => "invalid log filter"
  | occupied =>
    "failed to install telemetry subscriber: a global default trace dispatcher has already been set"

/-- Sets up the log of a process, which may have one already. -/
def LogFilter.install (occupied : Bool) (filter : String) : Except LogSetupError LogFilter :=
  match ofText? filter with
  | none => .error .filter
  | some f => if occupied then .error .occupied else .ok f

end PointStream
