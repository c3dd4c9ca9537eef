import PointStream.Attempt
import PointStream.Query
import PointStream.Schema.Basic

/-!
# Point sources

A source knows how many points it holds, the dimensions they natively have, and how to write those that a
query selects into a buffer. The buffer belongs to the caller; a source may change its bytes but never its
length.
-/

namespace PointStream

inductive SourceError where
  | invalidPipeline (reason : String)
  | bufferTooSmall (required available : Nat)
  | query (reason : String)
deriving DecidableEq, Inhabited

namespace SourceError

def message : SourceError → String
  | invalidPipeline reason => "invalid pipeline: " ++ reason
  | bufferTooSmall required available =>
    s!"buffer of {available} bytes cannot hold {required} bytes"
  | query reason => "query failed: " ++ reason

end SourceError

/-- What a query left in the buffer, and how many points it reports, if it came to report any. -/
structure Filling where
  buffer : List UInt8
  count : Attempt (Except SourceError Nat)

structure Source where
  numPoints : Nat
  dimensions : List Dimension
  /-- The native dimensions described as JSON text. -/
  schemaText : String
  /-- Writes what a query selects into a buffer. The same query may be answered in another way on another
  occasion. -/
  answer : (occasion : Nat) → Schema → Query → List UInt8 → Filling
  length_answer : ∀ occasion schema query buffer,
    (answer occasion schema query buffer).buffer.length = buffer.length

/-- The answer to a query asked apart from any read. -/
def Source.read (s : Source) : Schema → Query → List UInt8 → Filling := s.answer 0

/-- Opens sources from pipeline texts, or only checks the texts. -/
structure Provider where
  openSource : String → Attempt (Except SourceError Source)
  validate : String → Attempt (Except SourceError Unit)

end PointStream
