import PointStream.Log.Record
import PointStream.Settings.LogFormat

/-!
# Log lines

A record is written on one line, in the layout that the settings choose.
-/

namespace PointStream

namespace LogRecord

/-- A value as plain text: strings stand for themselves. -/
def plainValue : Json → String
  | .string s => s
  | v => v.toText

def toPlain (r : LogRecord) : String :=
  let fields := r.fields.map fun (name, value) => " " ++ name ++ "=" ++ plainValue value
  r.level.name ++ " " ++ r.target.name ++ ": " ++ r.message ++ String.join fields

end LogRecord

def LogFormat.line (f : LogFormat) (r : LogRecord) : String :=
  match f with
  | json => r.toJson.toText
  | compact => r.toPlain

end PointStream
