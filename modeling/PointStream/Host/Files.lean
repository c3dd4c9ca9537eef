import PointStream.Host.Address
import PointStream.Host.IoError
import PointStream.Host.Path

/-!
# Directory trees

Files, directories, socket files and symbolic links by their absolute location, and the calls that look them
up, make and remove them. Looking up a path follows links, and `..` leads from where a link has led.
-/

namespace PointStream

/-- What stands at a location. -/
inductive FileKind where
  | file
  /-- A socket file, with the number of the socket that was bound to it. -/
  | socket (id : Nat)
  | link (target : String)
  | directory (mode : Nat)
deriving DecidableEq, Inhabited

/-- A place in the tree: the names on the way from the root. -/
abbrev Location := List String

/-- What stands where. The root is a directory by itself. -/
structure Files where
  entries : List (Location × FileKind) := []
deriving DecidableEq, Inhabited

namespace Files

def kind? (f : Files) (l : Location) : Option FileKind :=
  if l = [] then some (.directory 0o755) else f.entries.lookup l

def put (f : Files) (l : Location) (kind : FileKind) : Files :=
  ⟨f.entries.filter (·.1 ≠ l) ++ [(l, kind)]⟩

def erase (f : Files) (l : Location) : Files := ⟨f.entries.filter (·.1 ≠ l)⟩

def nameLimit : Nat := 255

def pathLimit : Nat := 4095

/-- How many links a path may lead through. -/
def linkLimit : Nat := 40

/-- The names in a path; empty where slashes meet or stand at an end. -/
def names (path : String) : List String := (splitAtEach '/' path.toList).map String.ofList

/-- Walks from a directory along names. The result tells the location, which need not exist if only its last
name is missing. A link at the end is followed only if `follow` is set. -/
def walk (f : Files) (follow : Bool) (links : Nat) (place : Location) (rest : List String) :
    Except IoError Location :=
  match rest with
  | [] => .ok place
  | name :: rest =>
    if name = "" ∨ name = "." then walk f follow links place rest
    else if name = ".." then walk f follow links place.dropLast rest
    else if nameLimit < name.utf8ByteSize then .error .nameTooLong
    else
      let here := place ++ [name]
      match f.kind? here with
      | none => if rest = [] then .ok here else .error .notFound
      | some (.directory _) => walk f follow links here rest
      | some (.link target) =>
        if rest = [] ∧ !follow then .ok here
        else match links with
          | 0 => .error .tooManyLinks
          | links + 1 =>
            -- The names of the target take the place of the link's name.
            let start := if target.startsWith "/" then [] else place
            walk f follow links start (names target ++ rest)
      | some _ => if rest = [] then .ok here else .error .notADirectory
termination_by (links, rest.length)

/-- The location that an absolute path leads to. -/
def locate (f : Files) (follow : Bool) (path : String) : Except IoError Location :=
  if path.contains '\x00' then .error .nulInPath
  else if path = "" then .error .notFound
  else if pathLimit < path.utf8ByteSize then .error .nameTooLong
  else f.walk follow linkLimit [] (names path)

def lookup (f : Files) (follow : Bool) (path : String) : Except IoError (Location × FileKind) := do
  let l ← f.locate follow path
  match f.kind? l with
  | some kind => return (l, kind)
  | none => .error .notFound

def isDirectory (f : Files) (path : String) : Bool :=
  match f.lookup true path with
  | .ok (_, .directory _) => true
  | _ => false

/-- Puts something where nothing stands yet. -/
def make (f : Files) (path : String) (kind : FileKind) : Except IoError Files := do
  let l ← f.locate false path
  match f.kind? l with
  | some _ => .error .alreadyExists
  | none => return f.put l kind

/-- Removes what a path names, unless it is a directory. -/
def remove (f : Files) (path : String) : Except IoError Files := do
  match ← f.lookup false path with
  | (_, .directory _) => .error .isADirectory
  | (l, _) => return f.erase l

/-- The mode of the directories that the daemon makes. -/
def ownerOnly : Nat := 0o700

/-- Makes a directory and, where they are missing, those above it; at most `depth` of them. -/
def makeDirectories (f : Files) : (depth : Nat) → (path : String) → Files × Except IoError Unit
  | _, "" => (f, .ok ())
  | 0, _ => (f, .error (.other "failed to create whole tree"))
  | depth + 1, path =>
    match f.make path (.directory ownerOnly) with
    | .ok f => (f, .ok ())
    | .error .notFound =>
      match Path.parent? path with
      | none => (f, .error (.other "failed to create whole tree"))
      | some above =>
        match makeDirectories f depth above with
        | (f, .error e) => (f, .error e)
        | (f, .ok ()) =>
          match f.make path (.directory ownerOnly) with
          | .ok f => (f, .ok ())
          -- What cannot be made may be another way to a directory that is there.
          | .error e => (f, if f.isDirectory path then .ok () else .error e)
    | .error e => (f, if f.isDirectory path then .ok () else .error e)

end Files

end PointStream
