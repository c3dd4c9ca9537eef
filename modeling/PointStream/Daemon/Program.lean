import PointStream.Daemon.Basic
import PointStream.Settings.CommandLine

/-!
# The program

What the program does with its command line and environment: it shows a help text or its version, refuses bad
arguments, or sets up the log and launches a daemon.
-/

namespace PointStream

def programVersion : String := "0.1.0"

/-- The line that `--version` shows. -/
def versionLine : String := programName ++ " " ++ programVersion

namespace CommandLine.Exit

def code : CommandLine.Exit → UInt32
  | displayHelp | displayVersion => 0
  | _ => 2

def prints : CommandLine.Exit → Bool
  | displayHelp | displayVersion => true
  | _ => false

end CommandLine.Exit

inductive Program where
  /-- There are no settings to run with. -/
  | exits (e : CommandLine.Exit)
  /-- The daemon could not be launched. -/
  | fails (format : LogFormat) (e : LaunchError)
  | serves (settings : Settings) (daemon : Daemon)

namespace Program

/-- The code that the program exits with when its daemon cannot be launched or ends with an error. -/
def failureCode : UInt32 := 1

def failureText (e : LaunchError) : String := programName ++ ": " ++ e.message

/-- Starts the program with arguments, the first of which is its own name, and variables. Only records that
the log filter admits are written. -/
def start (m : Machine) (arguments : List String) (environment : Setting → Option String) :
    Machine × LogFilter × List LogEntry × Program :=
  match CommandLine.load arguments environment with
  | .error e => (m, ⟨[]⟩, [], exits e)
  | .ok settings =>
    match LogFilter.install false settings.logFilter with
    | .error e => (m, ⟨[]⟩, [], fails settings.logFormat (.log e))
    | .ok filter =>
      match Daemon.launch m settings with
      | (m, entries, .error e) => (m, filter, entries, fails settings.logFormat e)
      | (m, entries, .ok d) => (m, filter, entries, serves settings d)

end Program

end PointStream
