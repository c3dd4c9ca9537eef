import PointStream.Settings.Basic

/-!
# Command lines

A flag and its value are written `--flag value` or `--flag=value`. The value of a flag that is written apart is
checked when the next flag is reached. A setting without flag is taken from its variable.
-/

namespace PointStream.CommandLine

inductive Exit where
  | valueValidation
  /-- A flag lacks its value. -/
  | invalidValue
  | unknownArgument
  /-- A flag is repeated. -/
  | argumentConflict
  /-- A flag that takes no value has one. -/
  | tooManyValues
  | displayHelp
  | displayVersion
deriving DecidableEq, Inhabited

/-- The flags read so far. -/
structure Reading where
  /-- The checked values. -/
  given : Setting → Option String := fun _ => none
  /-- The last flag, with its value if that has come. -/
  pending : Option (Setting × Option String) := none

namespace Reading

def give (r : Reading) (s : Setting) (value : String) : Except Exit Reading :=
  if (r.given s).isSome then .error .argumentConflict
  else if Settings.accepts s value then
    .ok { given := fun other => if other = s then some value else r.given other, pending := none }
  else .error .valueValidation

/-- Settles the last flag. -/
def settle (r : Reading) : Except Exit Reading :=
  match r.pending with
  | none => .ok r
  | some (_, none) => .error .invalidValue
  | some (s, some value) => r.give s value

/-- The last flag, if its value is still to come. -/
def awaiting? (r : Reading) : Option Setting :=
  match r.pending with
  | some (s, none) => some s
  | _ => none

end Reading

/-- The name and the attached value of a long flag. -/
def splitFlag (body : List Char) : String × Option String :=
  match body.dropWhile (· ≠ '=') with
  | [] => (String.ofList body, none)
  | _ :: value => (String.ofList (body.takeWhile (· ≠ '=')), some (String.ofList value))

/-- Takes a flag that shows something and ends the reading. -/
def showing (r : Reading) (value : Option String) (exit : Exit) : Exit :=
  if value.isSome then .tooManyValues
  else match r.settle with
    | .ok _ => exit
    | .error e => e

def takeFlag (r : Reading) (body : List Char) : Except Exit Reading :=
  let (name, value) := splitFlag body
  if name = "help" then .error (showing r value .displayHelp)
  else if name = "version" then .error (showing r value .displayVersion)
  else match Setting.all.find? fun s => s.flag == name with
    | none => .error .unknownArgument
    | some s => do
      let r ← r.settle
      match value with
      | some value => r.give s value
      | none => .ok { r with pending := some (s, none) }

def takeShort (r : Reading) (letter : Char) : Exit :=
  if letter = 'h' then showing r none .displayHelp
  else if letter = 'V' then showing r none .displayVersion
  else .unknownArgument

/-- Reads arguments. After a lone `--` no argument is known. -/
def readFrom (r : Reading) : List String → Except Exit Reading
  | [] => r.settle
  | argument :: rest =>
    match argument.toList with
    | ['-', '-'] => if rest.isEmpty then r.settle else .error .unknownArgument
    | '-' :: '-' :: body =>
      match takeFlag r body with
      | .ok r => readFrom r rest
      | .error e => .error e
    -- Short flags only show something, so they end the reading.
    | '-' :: letter :: _ => .error (takeShort r letter)
    | _ =>
      match r.awaiting? with
      | some s => readFrom { r with pending := some (s, some argument) } rest
      | none => .error .unknownArgument

/-- The settings of a command line, whose first argument is the name of the program, and of the values of
the environment variables that are set. -/
def load (arguments : List String) (environment : Setting → Option String) : Except Exit Settings := do
  let r ← readFrom {} (arguments.drop 1)
  match Settings.ofTexts? fun s => r.given s <|> environment s with
  | some settings => .ok settings
  | none => .error .valueValidation

end PointStream.CommandLine
