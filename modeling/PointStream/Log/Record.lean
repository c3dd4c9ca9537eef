import PointStream.Json.Printer

/-!
# Log records

A record tells one thing that happened: how severe it is, which part of the program tells it, a message, and
values by name. Records are written by the threads of the program.
-/

namespace PointStream

def programName : String := "cloudstreamd"

inductive LogLevel where
  | error
  | warn
  | info
  | debug
  | trace
deriving DecidableEq, Inhabited

namespace LogLevel

def all : List LogLevel := [error, warn, info, debug, trace]

def name : LogLevel → String
  | error => "ERROR"
  | warn => "WARN"
  | info => "INFO"
  | debug => "DEBUG"
  | trace => "TRACE"

/-- The place of a level, counted from one. -/
def rank (l : LogLevel) : Nat := all.idxOf l + 1

end LogLevel

inductive LogTarget where
  | process
  | transport
  | dispatch
  | scheduler
  | read
  | reads
  | session
deriving DecidableEq, Inhabited

def LogTarget.name (t : LogTarget) : String :=
  let part := match t with
    | process => "process"
    | transport => "transport"
    | dispatch => "dispatch"
    | scheduler => "scheduler"
    | read => "read"
    | reads => "reads"
    | session => "session"
  programName ++ "::" ++ part

structure LogRecord where
  level : LogLevel
  target : LogTarget
  message : String
  /-- Further values, in the order in which they are written. -/
  fields : List (String × Json) := []
deriving Inhabited

def LogRecord.toJson (r : LogRecord) : Json :=
  .object ([("level", .string r.level.name), ("message", .string r.message)] ++ r.fields
    ++ [("target", .string r.target.name)])

/-- The threads that write records. -/
inductive LogThread where
  | main
  | accept
  | connection (number : Nat)
  | control
deriving DecidableEq, Inhabited

def LogThread.name : LogThread → String
  | main => "main"
  | accept => "cloudstream-accept"
  | connection number => s!"cloudstream-conn-{number}"
  | control => "cloudstream-control-0"

/-- A record with the thread that wrote it. -/
structure LogEntry where
  thread : LogThread
  record : LogRecord
deriving Inhabited

end PointStream
