import PointStream.Attempt
import PointStream.Daemon.Basic
import PointStream.Daemon.Listener
import PointStream.Daemon.Program
import PointStream.Dispatch.Connection
import PointStream.Dispatch.Error
import PointStream.Dispatch.Framing
import PointStream.Dispatch.Message
import PointStream.Dispatch.Request
import PointStream.Dispatch.Writer
import PointStream.Host.Address
import PointStream.Host.Files
import PointStream.Host.IoError
import PointStream.Host.Machine
import PointStream.Host.Path
import PointStream.Json.Literal
import PointStream.Json.Printer
import PointStream.Json.Reader
import PointStream.Json.Token
import PointStream.Json.Tree
import PointStream.Json.Value
import PointStream.Log.Filter
import PointStream.Log.Line
import PointStream.Log.Narration
import PointStream.Log.Record
import PointStream.Main
import PointStream.Number.Binary64
import PointStream.Number.Decimal
import PointStream.Proofs.Dispatch.Balance
import PointStream.Proofs.Dispatch.Failures
import PointStream.Proofs.Dispatch.Lines
import PointStream.Proofs.Dispatch.Reading
import PointStream.Proofs.Dispatch.Requests
import PointStream.Proofs.Dispatch.Responses
import PointStream.Proofs.Dispatch.Service
import PointStream.Proofs.Dispatch.Sharing
import PointStream.Proofs.Dispatch.Stream
import PointStream.Proofs.Host.Address
import PointStream.Proofs.Host.Listening
import PointStream.Proofs.Json.Printer
import PointStream.Proofs.Json.Records
import PointStream.Proofs.Json.RoundTrip
import PointStream.Proofs.Json.Scanning
import PointStream.Proofs.Json.WellFormed
import PointStream.Proofs.Number.Decimal
import PointStream.Proofs.Number.Exact
import PointStream.Proofs.Number.Words
import PointStream.Proofs.Read.Bounds
import PointStream.Proofs.Read.Command
import PointStream.Proofs.Read.Inline
import PointStream.Proofs.Read.Misplaced
import PointStream.Proofs.Read.Native
import PointStream.Proofs.Read.Register
import PointStream.Proofs.Read.Request
import PointStream.Proofs.Read.Slot
import PointStream.Proofs.Read.Spelling
import PointStream.Proofs.Scheduler.Aborting
import PointStream.Proofs.Scheduler.Answers
import PointStream.Proofs.Scheduler.Binding
import PointStream.Proofs.Scheduler.Breaking
import PointStream.Proofs.Scheduler.Cancelling
import PointStream.Proofs.Scheduler.Chronicle
import PointStream.Proofs.Scheduler.Course
import PointStream.Proofs.Scheduler.Draining
import PointStream.Proofs.Scheduler.Effect
import PointStream.Proofs.Scheduler.Errands
import PointStream.Proofs.Scheduler.Events
import PointStream.Proofs.Scheduler.LastCall
import PointStream.Proofs.Scheduler.Lifecycle
import PointStream.Proofs.Scheduler.Line
import PointStream.Proofs.Scheduler.Measured
import PointStream.Proofs.Scheduler.Ownership
import PointStream.Proofs.Scheduler.Path
import PointStream.Proofs.Scheduler.Pending
import PointStream.Proofs.Scheduler.Refusals
import PointStream.Proofs.Scheduler.Run
import PointStream.Proofs.Scheduler.Running
import PointStream.Proofs.Scheduler.Shutdown
import PointStream.Proofs.Scheduler.Sources
import PointStream.Proofs.Scheduler.Stopping
import PointStream.Proofs.Scheduler.Stranded
import PointStream.Proofs.Scheduler.Threads
import PointStream.Proofs.Schema.Encoding
import PointStream.Proofs.Settings.Endpoint
import PointStream.Proofs.Settings.Precedence
import PointStream.Proofs.Settings.Url
import PointStream.Proofs.Source.Depth
import PointStream.Proofs.Source.Levels
import PointStream.Proofs.Source.Memory
import PointStream.Proofs.Source.Names
import PointStream.Proofs.Source.SchemaText
import PointStream.Proofs.Source.Splitting
import PointStream.Proofs.Source.Writing
import PointStream.Proofs.Text.Parts
import PointStream.Proofs.Text.Utf8
import PointStream.Proofs.Transmit.Accounting
import PointStream.Proofs.Transmit.Breaking
import PointStream.Proofs.Transmit.Cancelling
import PointStream.Proofs.Transmit.Ranges
import PointStream.Proofs.Transmit.Transmitter
import PointStream.Query
import PointStream.Read.Argument
import PointStream.Read.Command
import PointStream.Read.Request
import PointStream.Read.Slot
import PointStream.Scheduler.Basic
import PointStream.Scheduler.Event
import PointStream.Scheduler.Schedule
import PointStream.Schema.Basic
import PointStream.Schema.Dimension
import PointStream.Schema.Kind
import PointStream.Settings.Basic
import PointStream.Settings.CommandLine
import PointStream.Settings.Endpoint
import PointStream.Settings.LogFormat
import PointStream.Settings.Url
import PointStream.Source.Basic
import PointStream.Source.Depth
import PointStream.Source.Fixed
import PointStream.Source.Memory
import PointStream.Source.Pipeline
import PointStream.Text.Blank
import PointStream.Text.Utf8
import PointStream.Transmit.Consumer
import PointStream.Transmit.Transmission
import PointStream.Transmit.Transmitter
