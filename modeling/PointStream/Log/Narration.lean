import PointStream.Dispatch.Connection
import PointStream.Log.Record

/-!
# What is told in the log

The records of the stages of a read, which the control thread writes, and of what happens on a connection, which
the thread of the connection writes.
-/

namespace PointStream

def Report.record : Report → LogRecord
  | readRejected reason =>
    ⟨.info, .reads, "read request rejected", [("event", .string "read_rejected"), ("reason", .string reason)]⟩
  | readAccepted generation points bytes =>
    ⟨.info, .reads, "read accepted", [("event", .string "read_accepted"), ("generation", .ofNat generation),
      ("num_points", .ofNat points), ("num_bytes", .ofNat bytes)]⟩
  | readFailed generation error =>
    ⟨.warn, .reads, "read failed", [("event", .string "read_failed"), ("generation", .ofNat generation),
      ("error", .string error)]⟩
  | transmitStarted generation host port bytes =>
    ⟨.debug, .reads, "transmission starting", [("event", .string "transmit_started"),
      ("generation", .ofNat generation), ("host", .string host), ("port", .ofNat port),
      ("num_bytes", .ofNat bytes)]⟩
  | transmitFinished generation (.completed bytes) =>
    ⟨.info, .reads, "transmission completed", [("event", .string "transmit_completed"),
      ("generation", .ofNat generation), ("bytes", .ofNat bytes)]⟩
  | transmitFinished generation (.cancelled sent total) =>
    ⟨.info, .reads, "transmission cancelled", [("event", .string "transmit_cancelled"),
      ("generation", .ofNat generation), ("sent", .ofNat sent), ("total", .ofNat total)]⟩
  | transmitFinished generation (.failed sent total error) =>
    ⟨.error, .reads, "transmission failed", [("event", .string "transmit_failed"),
      ("generation", .ofNat generation), ("sent", .ofNat sent), ("total", .ofNat total),
      ("error", .string error)]⟩

def Query.kindName : Query → String
  | range .. => "range"
  | quad .. => "quad"
  | radius .. => "radius"

def Note.record : Note → LogRecord
  | sourceOpened numPoints => ⟨.debug, .session, "pipeline opened", [("num_points", .ofNat numPoints)]⟩
  | entryDropped (.unsized name) =>
    ⟨.debug, .read, "dropping dimension without positive size", [("dimension", .string name)]⟩
  | entryDropped (.unsupported name size) =>
    ⟨.debug, .read, "dropping dimension with unsupported type",
      [("dimension", .string name), ("size", .ofNat size)]⟩
  | readRefused (.request r) => ⟨.debug, .read, "read request rejected", [("reason", .string r.message)]⟩
  | readRefused (.command e) =>
    ⟨.debug, .read, "read command construction failed", [("error", .string e.message)]⟩
  | queryQueued generation query capacity =>
    ⟨.debug, .scheduler, "scheduling read", [("generation", .ofNat generation),
      ("query", .string query.kindName), ("capacity", .ofNat capacity)]⟩

/-- The record that the control thread writes of an event, if it writes one. -/
def Event.record? : Event → Option LogRecord
  | reported _ report => some report.record
  | noted _ note => some note.record
  | _ => none

/-- The record of what happens on a connection with a peer. -/
def Notice.record (peer : String) : Notice → LogRecord
  | opened => ⟨.info, .dispatch, "session opened", [("peer", .string peer)]⟩
  | requestFailed e =>
    ⟨.warn, .dispatch, "request failed", [("peer", .string peer), ("error", .string e.message)]⟩
  | closing e => ⟨.warn, .dispatch, "closing connection", [("error", .string e.message)]⟩
  | closedByPeer => ⟨.info, .dispatch, "session closed by peer", [("peer", .string peer)]⟩

end PointStream
