import PointStream.Settings.Endpoint
import PointStream.Settings.LogFormat

/-!
# Settings

What the daemon runs with: where it listens, what it logs and how, and how many workers it has. Each setting is
given as text or left at its default.
-/

namespace PointStream

structure Settings where
  listen : Endpoint := .tcp "127.0.0.1" 9779
  logFilter : String := "info"
  logFormat : LogFormat := .json
  workers : Nat := 4
  workers_pos : 0 < workers := by decide

inductive Setting where
  | listen
  | logFilter
  | logFormat
  | workers
deriving DecidableEq, Inhabited

namespace Setting

def all : List Setting := [listen, logFilter, logFormat, workers]

/-- The flag that gives a setting, without its dashes. -/
def flag : Setting → String
  | listen => "listen"
  | logFilter => "log-filter"
  | logFormat => "log-format"
  | workers => "workers"

/-- The environment variable that gives a setting. -/
def variable_ : Setting → String
  | listen => "CLOUDSTREAM_LISTEN"
  | logFilter => "CLOUDSTREAM_LOG_FILTER"
  | logFormat => "CLOUDSTREAM_LOG_FORMAT"
  | workers => "CLOUDSTREAM_WORKERS"

end Setting

namespace Settings

instance : Inhabited Settings := ⟨{}⟩

/-- The values from one on that fit 64 bits. -/
def workerCount? (s : String) : Option { n : Nat // 0 < n } :=
  match Text.readNatural? UInt64.size s with
  | some n => if h : 0 < n then some ⟨n, h⟩ else none
  | none => none

/-- Whether a text is a value of a setting. -/
def accepts (s : Setting) (text : String) : Bool :=
  match s with
  | .listen => (Endpoint.ofText text).toOption.isSome
  | .logFilter => true
  | .logFormat => (LogFormat.ofText? text).isSome
  | .workers => (workerCount? text).isSome

/-- The settings that texts give; a setting without text keeps its default. -/
def ofTexts? (text : Setting → Option String) : Option Settings := do
  let defaults : Settings := {}
  let listen ← match text .listen with
    | some t => (Endpoint.ofText t).toOption
    | none => some defaults.listen
  let logFormat ← match text .logFormat with
    | some t => LogFormat.ofText? t
    | none => some defaults.logFormat
  let ⟨workers, workers_pos⟩ ← match text .workers with
    | some t => workerCount? t
    | none => some ⟨defaults.workers, defaults.workers_pos⟩
  return { listen, logFormat, workers, workers_pos,
           logFilter := (text .logFilter).getD defaults.logFilter }

/-- Reads the record of all settings. -/
def ofTree? (t : Json.Tree) : Option Settings := do
  let depth := Json.nestingLimit
  let [some listen, some logFilter, some logFormat, some workers] ←
    t.record? ["listen", "log_filter", "log_format", "workers"] depth | none
  let listen ← Endpoint.ofTree? (depth - 1) listen
  let logFilter ← logFilter.text?
  let logFormat ← LogFormat.ofName? (← logFormat.variant? (depth - 1))
  let workers ← workers.natural? UInt64.size
  if h : 0 < workers then
    return { listen, logFilter, logFormat, workers, workers_pos := h }
  else none

def ofText? (s : String) : Option Settings := Json.Tree.ofString? s >>= ofTree?

end Settings

end PointStream
