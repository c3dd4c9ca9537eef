import PointStream.Text.Blank

/-!
# Log formats

The layouts in which log records can be written.
-/

namespace PointStream

/-- The layout of log records. -/
inductive LogFormat where
  /-- One JSON object for each record. -/
  | json
  /-- One line of plain text for each record. -/
  | compact
deriving DecidableEq, Inhabited

namespace LogFormat

def name : LogFormat → String
  | json => "json"
  | compact => "compact"

def all : List LogFormat := [json, compact]

/-- The format with a name, spelled exactly. -/
def ofName? (s : String) : Option LogFormat := all.find? fun f => f.name == s

/-- The format with a name, in any case of ASCII letters. -/
def ofText? (s : String) : Option LogFormat := all.find? fun f => Text.sameIgnoringCase f.name s

end LogFormat

end PointStream
