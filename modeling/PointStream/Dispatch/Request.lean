import PointStream.Dispatch.Error
import PointStream.Json.Reader

/-!
# Requests

A request is a JSON record of a command and its arguments, on a line of its own.
-/

namespace PointStream

/-- What a client can ask of its session. -/
inductive Command where
  | create
  | parse
  | destroy
  | numPoints
  | schema
  | read
  | cancel
deriving DecidableEq, Inhabited

namespace Command

def name : Command → String
  | create => "create"
  | parse => "parse"
  | destroy => "destroy"
  | numPoints => "num-points"
  | schema => "schema"
  | read => "read"
  | cancel => "cancel"

def all : List Command := [create, parse, destroy, numPoints, schema, read, cancel]

/-- The command with a name, in any case of ASCII letters. -/
def ofName? (s : String) : Option Command := all.find? fun c => Text.sameIgnoringCase c.name s

end Command

structure Request where
  command : String
  arguments : List Json
deriving Inhabited

namespace Request

/-- The white space that may end a line. -/
def isLineSpace (b : UInt8) : Bool :=
  b == 0x20 || b == 0x09 || b == 0x0A || b == 0x0C || b == 0x0D

def trimLine (line : List UInt8) : List UInt8 := (line.reverse.dropWhile isLineSpace).reverse

/-- Reads a request; the arguments may be left out. -/
def ofTree? (t : Json.Tree) : Option Request := do
  let depth := Json.nestingLimit
  let [some command, arguments] ← t.record? ["command", "arguments"] depth | none
  let command ← command.text?
  let arguments ← match arguments with
    | none => some []
    | some arguments => arguments.items? Json.Tree.decode? (depth - 1)
  return { command, arguments }

def ofLine (line : List UInt8) : Except DispatchError Request :=
  let trimmed := trimLine line
  if trimmed.isEmpty then .error (.malformed "empty request line")
  else match Json.Tree.parse? (Text.Utf8.decode trimmed) >>= ofTree? with
    | some request => .ok request
    | none => .error (.malformed Json.undisclosed)

/-- The name of the command, without blanks around it. -/
def commandName (r : Request) : String := Text.trim r.command

def validate (r : Request) : Except DispatchError Unit :=
  if r.commandName.isEmpty then .error (.invalidStructure "command field is empty") else .ok ()

def resolve (r : Request) : Except DispatchError Command :=
  match Command.ofName? r.commandName with
  | some c => .ok c
  | none => .error (.unknownCommand r.commandName)

end Request

end PointStream
