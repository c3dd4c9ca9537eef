import PointStream.Host.Files
import PointStream.Settings.Endpoint

/-!
# The machine

A directory tree, the sockets and ports on which someone listens, and what the daemon does with them: prepare
the directory of its socket file, bind its endpoint, and release it again. Connections over TCP find no
network.
-/

namespace PointStream

/-- The machine that the daemon runs on. -/
structure Machine where
  files : Files := {}
  /-- The directory that relative paths start from. -/
  directory : String := "/"
  /-- The hosts whose addresses are known without a name server. -/
  hosts : List (String × IpAddress) := [("localhost", .v4 ⟨[127, 0, 0, 1]⟩)]
  /-- The sockets on which someone listens. -/
  listening : List Nat := []
  /-- The ports on which someone listens. -/
  ports : List Nat := []
  /-- A number that no socket or port has had yet. -/
  fresh : Nat := 1
deriving Inhabited

inductive PreparationError where
  | missingParent (path : String)
  | createDirectory (path : String) (e : IoError)
deriving DecidableEq, Inhabited

def PreparationError.message : PreparationError → String
  | missingParent path => s!"socket path '{path}' has no parent directory"
  | createDirectory path e => s!"failed to create socket directory '{path}': " ++ e.text

inductive ListenerError where
  | resolve (endpoint : String) (e : IoError)
  | bind (endpoint : String) (e : IoError)
  /-- A socket that someone serves, who takes the inquiry as a connection. -/
  | socketInUse (path : String) (socket : Nat)
  | notASocket (path : String)
  | staleSocket (path : String) (e : IoError)
deriving DecidableEq, Inhabited

def ListenerError.message : ListenerError → String
  | resolve endpoint e => s!"failed to resolve {endpoint}: " ++ e.text
  | bind endpoint e => s!"failed to bind {endpoint}: " ++ e.text
  | socketInUse path _ => s!"another process is serving {path}"
  | notASocket path => s!"{path} exists and is not a socket"
  | staleSocket path e => s!"could not clear stale socket {path}: " ++ e.text

inductive Bound where
  | unix (path : String) (socket : Nat)
  | tcp (address : IpAddress) (port : Nat)
deriving DecidableEq, Inhabited

def Bound.address? : Bound → Option String
  | unix .. => none
  | tcp address port => some (address.withPort port)

namespace Machine

def absolute (m : Machine) (path : String) : String :=
  if path = "" ∨ path.startsWith "/" then path else m.directory ++ "/" ++ path

/-! ### Preparing -/

/-- Makes the directory of a socket file and those above it, for the owner only. That something else stands
there already is left to binding to find. -/
def prepare (m : Machine) : Endpoint → Machine × Except PreparationError Unit
  | .tcp .. => (m, .ok ())
  | .unix path =>
    match (Path.parent? path).filter (· ≠ "") with
    | none => (m, .error (.missingParent path))
    | some parent =>
      match m.files.makeDirectories (parent.length + 1) (m.absolute parent) with
      | (files, .ok ()) | (files, .error .alreadyExists) => ({ m with files }, .ok ())
      | (files, .error e) => ({ m with files }, .error (.createDirectory parent e))

/-! ### Sockets -/

/-- The longest path, in bytes, that the address of a socket holds. -/
def socketPathLimit : Nat := 107

def checkSocketPath (path : String) : Except IoError Unit :=
  if path.contains '\x00' then .error (.other "paths must not contain interior null bytes")
  else if socketPathLimit < path.utf8ByteSize then .error .socketPathTooLong
  else .ok ()

/-- The socket that a client of a path is connected to. -/
def connectUnix (m : Machine) (path : String) : Except IoError Nat := do
  checkSocketPath path
  match ← m.files.lookup true (m.absolute path) with
  | (_, .socket id) => if m.listening.contains id then return id else .error .connectionRefused
  | _ => .error .connectionRefused

/-- Binds and serves a new socket at a path where nothing stands. -/
def bindSocket (m : Machine) (path : String) : Except IoError (Machine × Nat) := do
  checkSocketPath path
  match m.files.make (m.absolute path) (.socket m.fresh) with
  | .ok files =>
    return ({ m with files, listening := m.fresh :: m.listening, fresh := m.fresh + 1 }, m.fresh)
  | .error .alreadyExists => .error .addressInUse
  | .error e => .error e

/-- Nobody listens on a socket any more. Its file stays. -/
def stopListening (m : Machine) (socket : Nat) : Machine :=
  { m with listening := m.listening.filter (· ≠ socket) }

/-- Whether a socket file stands at a path that nobody serves; none if nothing stands there. -/
def inspect (m : Machine) (path : String) : Except ListenerError (Option Unit) :=
  match m.files.lookup false (m.absolute path) with
  | .error .notFound => .ok none
  | .error e => .error (.staleSocket path e)
  | .ok (_, .socket _) =>
    match m.connectUnix path with
    | .ok socket => .error (.socketInUse path socket)
    -- A socket that refuses to be connected to is one that nobody serves.
    | .error .connectionRefused | .error .notFound => .ok (some ())
    | .error e => .error (.staleSocket path e)
  | .ok _ => .error (.notASocket path)

/-- Binds a path, in place of a socket file that nobody serves. -/
def bindUnix (m : Machine) (path : String) : Except ListenerError (Machine × Bound) := do
  let files ← match ← m.inspect path with
    | none => pure m.files
    | some () => (m.files.remove (m.absolute path)).mapError (.staleSocket path)
  match { m with files }.bindSocket path with
  | .ok (m, socket) => return (m, .unix path socket)
  | .error e => .error (.bind ("unix://" ++ path) e)

/-! ### Ports -/

/-- A label of a host name. -/
def isHostLabel (label : List Char) : Bool :=
  decide (1 ≤ label.length ∧ label.length ≤ 63) && label.all fun c => c.isAlphanum || c == '-' || c == '_'

/-- Whether a text can be asked of a name server: labels with points between them, and perhaps one at the
end, that fit with a length before each in 255 bytes. -/
def isHostName (host : String) : Bool :=
  let labels := Url.labels host.toList
  host == "." || (host.toList.head? != some '-' && labels.all isHostLabel
    && decide ((labels.flatMap fun label => '.' :: label).length + 1 ≤ 255))

/-- The address of a host. A literal stands for itself; other hosts are looked up by name. -/
def resolve (m : Machine) (host : String) : Except IoError IpAddress :=
  match IpAddress.ofText? host with
  | some address => .ok address
  | none =>
    if host.contains '\x00' then .error .nulInPath
    else match m.hosts.lookup host with
      | some address => .ok address
      | none => .error (if isHostName host then .nameUnresolved else .nameUnknown)

/-- Binds a port on an address. Port 0 stands for a port that is free. -/
def bindAddress (m : Machine) (address : IpAddress) (port : Nat) : Except IoError (Machine × Bound) :=
  if port = 0 then
    .ok ({ m with ports := m.fresh :: m.ports, fresh := m.fresh + 1 }, .tcp address m.fresh)
  else if m.ports.contains port then .error .addressInUse
  else .ok ({ m with ports := port :: m.ports }, .tcp address port)

def bindTcp (m : Machine) (host : String) (port : Nat) : Except ListenerError (Machine × Bound) := do
  let endpoint := (Endpoint.tcp host port).toText
  let address ← (m.resolve host).mapError (.resolve endpoint)
  (m.bindAddress address port).mapError (.bind endpoint)

/-- Why connecting to a host fails: no address is reachable. -/
def connectTcp (m : Machine) (host : String) : IoError :=
  match m.resolve host with
  | .ok _ => .networkUnreachable
  | .error e => e

/-! ### Endpoints -/

def bind (m : Machine) : Endpoint → Except ListenerError (Machine × Bound)
  | .unix path => m.bindUnix path
  | .tcp host port => m.bindTcp host port

/-- Releases an endpoint. Whatever stands at the path of a socket by then is removed, except for a
directory. -/
def release (m : Machine) : Bound → Machine
  | .unix path socket =>
    let m := m.stopListening socket
    match m.files.remove (m.absolute path) with
    | .ok files => { m with files }
    | .error _ => m
  | .tcp _ port => { m with ports := m.ports.filter (· ≠ port) }

end Machine

end PointStream
