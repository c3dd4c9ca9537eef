import PointStream.Daemon.Program
import PointStream.Log.Line
import PointStream.Source.Pipeline

/-!
# Command line

Runs the program with the arguments and the environment of the process. The endpoint stands for standard input
and output: whoever holds them is the one client, and the daemon ends when that client leaves. Consumers over
the network are out of reach. The log goes to standard error.
-/

namespace PointStream.Main

def usage : String := "Usage: " ++ programName ++ " [OPTIONS]

Options:
      --listen <LISTEN>          Where to take connections: tcp://host:port or unix:///path
      --log-filter <LOG_FILTER>  What to log, as directives with commas between them
      --log-format <LOG_FORMAT>  How to log: json or compact
      --workers <WORKERS>        How many workers to start
  -h, --help                     Print help
  -V, --version                  Print version"

/-- What is said of a command line without settings. -/
def complaint : CommandLine.Exit → String
  | .valueValidation => "error: invalid value"
  | .invalidValue => "error: a value is required"
  | .unknownArgument => "error: unexpected argument"
  | .argumentConflict => "error: an argument cannot be used multiple times"
  | .tooManyValues => "error: unexpected value"
  | .displayHelp => usage
  | .displayVersion => versionLine

/-- Consumers cannot be reached. -/
def environment : Environment :=
  let unreachable : ConsumerScript := { refusal := some IoError.networkUnreachable.text }
  { provider := Pipeline.provider, consumer := fun _ _ _ _ => unreachable.toConsumer }

/-- More moves than the queues can ever take. -/
def moves : Nat := 0x10000000000

/-- Writes the entries that a filter admits. -/
def writeLog (format : LogFormat) (filter : LogFilter) (entries : List LogEntry) : IO Unit := do
  for entry in entries do
    if filter.admits entry.record then IO.eprintln (format.line entry.record)

/-- Sends the client what its connection has written. -/
def writeAnswers (d : Daemon) (number : Nat) : IO Daemon := do
  let (d, sent) := d.takeSent number
  let output ← IO.getStdout
  output.write ⟨sent.toArray⟩
  output.flush
  return d

/-- Serves the client until it leaves. -/
partial def serve (log : List LogEntry → IO Unit) (d : Daemon) (number : Nat) : IO Daemon := do
  let bytes ← (← IO.getStdin).read 65536
  let (d, noted) := if bytes.isEmpty then d.hangUp number else d.receive number bytes.toList
  log noted
  let (d, _, told) := d.settle environment moves
  log told
  let d ← writeAnswers d number
  if bytes.isEmpty then return d else serve log d number

/-- Runs the program and gives the code to exit with. -/
def run (arguments : List String) : IO UInt32 := do
  let values ← Setting.all.mapM fun x => return (x, ← IO.getEnv x.variable_)
  let valueOf (x : Setting) : Option String := (values.lookup x).join
  match Program.start {} (programName :: arguments) valueOf with
  | (_, _, _, .exits e) =>
    if e.prints then IO.println (complaint e) else IO.eprintln (complaint e)
    return e.code
  | (_, filter, entries, .fails format e) =>
    writeLog format filter entries
    IO.eprintln (Program.failureText e)
    return Program.failureCode
  | (m, filter, entries, .serves settings d) =>
    let log := writeLog settings.logFormat filter
    log entries
    let (d, number, opened) := d.accept
    log opened
    let d ← serve log d number
    let (_, _, last, result) := d.stop environment moves m .told
    log last
    match result with
    | .ok () => return 0
    | .error e =>
      IO.eprintln (Program.failureText e)
      return Program.failureCode

end PointStream.Main

def main (arguments : List String) : IO UInt32 := PointStream.Main.run arguments
