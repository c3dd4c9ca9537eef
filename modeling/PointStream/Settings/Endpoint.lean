import PointStream.Json.Reader
import PointStream.Settings.Url

/-!
# Endpoints

Where the daemon takes connections: a TCP address or the path of a socket file. Endpoints are written as
locators, `tcp://host:port` or `unix:///path`.
-/

namespace PointStream

/-- Where connections are taken. -/
inductive Endpoint where
  | unix (path : String)
  | tcp (host : String) (port : Nat)
deriving DecidableEq, Inhabited

namespace Endpoint

inductive Flaw where
  | unsupportedScheme (scheme : String)
  | missingHost (text : String)
  | missingPort (text : String)
  | missingUnixPath (text : String)
  | malformed
deriving DecidableEq, Inhabited

def Flaw.message : Flaw → String
  | unsupportedScheme scheme => s!"unsupported socket scheme '{scheme}'"
  | missingHost text => s!"missing TCP host in '{text}'"
  | missingPort text => s!"missing TCP port in '{text}'"
  | missingUnixPath text => s!"missing Unix socket path in '{text}'"
  | malformed => "not a URL"

def ofText (text : String) : Except Flaw Endpoint :=
  match Url.ofText? text with
  | none => .error .malformed
  | some (.special scheme) => .error (.unsupportedScheme scheme)
  | some (.generic scheme host port path) =>
    if scheme = "tcp" then
      match host, port with
      | none, _ => .error (.missingHost text)
      | some _, none => .error (.missingPort text)
      | some host, some port => .ok (tcp host port)
    else if scheme = "unix" then
      if path = "" ∨ path = "/" then .error (.missingUnixPath text) else .ok (unix path)
    else .error (.unsupportedScheme scheme)

def toText : Endpoint → String
  | unix path => "unix://" ++ path
  | tcp host port => s!"tcp://{host}:{port}"

def path? : Endpoint → Option String
  | unix path => some path
  | tcp .. => none

/-! ### As JSON -/

/-- The values that a record gives to its tag and, by name or by place, to the fields of its variant. -/
def untag? (tag : String) (fieldsOf : String → Option (List String)) :
    Json.Tree → Option (String × List (Option Json.Tree))
  | .object members => do
    -- The tag is looked up first, for it decides which other members are fields.
    let [tagValue] ← (Json.Tree.object members).fields? [tag] | none
    let variant ← (← tagValue).text?
    return (variant, ← (Json.Tree.object members).fields? (← fieldsOf variant))
  | .array (tagValue :: items) => do
    let variant ← tagValue.text?
    return (variant, ← (Json.Tree.array items).fields? (← fieldsOf variant))
  | _ => none

def fieldsOf (transport : String) : Option (List String) :=
  if transport = "unix" then some ["path"]
  else if transport = "tcp" then some ["host", "port"]
  else none

/-- Reads the record of an endpoint. Its tag may come last, so every member has to be decodable. -/
def ofTree? (depth : Nat) (t : Json.Tree) : Option Endpoint := do
  discard (t.decode? depth)
  match ← untag? "transport" fieldsOf t with
  | (_, [some path]) => return unix (← path.text?)
  | (_, [some host, some port]) => return tcp (← host.text?) (← port.natural? UInt16.size)
  | _ => none

end Endpoint

end PointStream
