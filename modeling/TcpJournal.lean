import TcpJournal.Address
import TcpJournal.Binary64
import TcpJournal.Bytes
import TcpJournal.Calendar
import TcpJournal.Capture
import TcpJournal.Config
import TcpJournal.Counter
import TcpJournal.Decimal
import TcpJournal.Delivery
import TcpJournal.Delivery.Command
import TcpJournal.Delivery.Outlet
import TcpJournal.Delivery.Shell
import TcpJournal.Delivery.Sink
import TcpJournal.Delivery.Stream
import TcpJournal.Event
import TcpJournal.Field
import TcpJournal.Field.Span
import TcpJournal.FileError
import TcpJournal.FileTree
import TcpJournal.Flow
import TcpJournal.Format.Compile
import TcpJournal.Format.CompileError
import TcpJournal.Format.Outline
import TcpJournal.Format.Program
import TcpJournal.Format.Vocabulary
import TcpJournal.Host
import TcpJournal.Instant
import TcpJournal.Instant.Rfc3339
import TcpJournal.Json.Content
import TcpJournal.Json.Value
import TcpJournal.Lines
import TcpJournal.Main
import TcpJournal.Notice
import TcpJournal.OpenFlows
import TcpJournal.Power
import TcpJournal.Printable
import TcpJournal.Proofs.Address.Dotted
import TcpJournal.Proofs.Address.Endpoint
import TcpJournal.Proofs.Address.Groups
import TcpJournal.Proofs.Address.Numeral
import TcpJournal.Proofs.Binary64.Rounding
import TcpJournal.Proofs.Binary64.Sign
import TcpJournal.Proofs.Bytes.Encoding
import TcpJournal.Proofs.Bytes.Newlines
import TcpJournal.Proofs.Calendar.Days
import TcpJournal.Proofs.Capture.Segments
import TcpJournal.Proofs.Decimal.Reading
import TcpJournal.Proofs.Delivery.Failure
import TcpJournal.Proofs.Delivery.Writing
import TcpJournal.Proofs.Field.Anchors
import TcpJournal.Proofs.Field.Endpoints
import TcpJournal.Proofs.Field.LineBreaks
import TcpJournal.Proofs.Field.Microseconds
import TcpJournal.Proofs.Field.Payload
import TcpJournal.Proofs.Field.Rendering
import TcpJournal.Proofs.Format.Agreement
import TcpJournal.Proofs.Format.Canonical
import TcpJournal.Proofs.Format.Concatenation
import TcpJournal.Proofs.Format.Extension
import TcpJournal.Proofs.Format.Grammar
import TcpJournal.Proofs.Format.Segments
import TcpJournal.Proofs.Format.Validation
import TcpJournal.Proofs.Format.Vocabulary
import TcpJournal.Proofs.Host.Slot
import TcpJournal.Proofs.Instant.Order
import TcpJournal.Proofs.Instant.Rfc3339
import TcpJournal.Proofs.Json.Documents
import TcpJournal.Proofs.Json.Escapes
import TcpJournal.Proofs.Json.Members
import TcpJournal.Proofs.Lines.Completion
import TcpJournal.Proofs.Lines.Terminated
import TcpJournal.Proofs.OpenFlows.Account
import TcpJournal.Proofs.OpenFlows.History
import TcpJournal.Proofs.Replay.Outcome
import TcpJournal.Proofs.Replay.Schedules
import TcpJournal.Proofs.Replay.Turns
import TcpJournal.Proofs.Session.Capacity
import TcpJournal.Proofs.Session.Cutting
import TcpJournal.Proofs.Session.Delivered
import TcpJournal.Proofs.Session.Durations
import TcpJournal.Proofs.Session.Entries
import TcpJournal.Proofs.Session.Fragments
import TcpJournal.Proofs.Session.LineBreaks
import TcpJournal.Proofs.Session.Output
import TcpJournal.Proofs.Session.Records
import TcpJournal.Proofs.Session.Statuses
import TcpJournal.Proofs.Session.Times
import TcpJournal.Proofs.Session.Transcript
import TcpJournal.Proofs.Text.OneLine
import TcpJournal.Proofs.Text.Runs
import TcpJournal.Proofs.TimePattern.OneLine
import TcpJournal.Proofs.TimePattern.Writing
import TcpJournal.Proofs.Trace.Lines
import TcpJournal.Proofs.Trace.Numbering
import TcpJournal.Proofs.Trace.Objects
import TcpJournal.Proofs.Trace.Significant
import TcpJournal.Replay
import TcpJournal.Replay.Arguments
import TcpJournal.Replay.Outcome
import TcpJournal.Replay.Pipeline
import TcpJournal.Session
import TcpJournal.Shell.Alteration
import TcpJournal.Shell.Arithmetic
import TcpJournal.Shell.Assignment
import TcpJournal.Shell.Braces
import TcpJournal.Shell.Builtin.Declaration
import TcpJournal.Shell.Builtin.Environment
import TcpJournal.Shell.Builtin.Extended
import TcpJournal.Shell.Builtin.Print
import TcpJournal.Shell.Builtin.Reading
import TcpJournal.Shell.Builtin.Test
import TcpJournal.Shell.Builtin.Variables
import TcpJournal.Shell.Child
import TcpJournal.Shell.Conversion
import TcpJournal.Shell.Escape
import TcpJournal.Shell.Evaluate
import TcpJournal.Shell.Expansion
import TcpJournal.Shell.Glob
import TcpJournal.Shell.Grammar
import TcpJournal.Shell.Inner
import TcpJournal.Shell.Lookaround
import TcpJournal.Shell.Process
import TcpJournal.Shell.Program
import TcpJournal.Shell.Proposition
import TcpJournal.Shell.Quantity
import TcpJournal.Shell.Quotation
import TcpJournal.Shell.Redirect
import TcpJournal.Shell.Reference
import TcpJournal.Shell.Regex
import TcpJournal.Shell.Rules.Grammar
import TcpJournal.Shell.Rules.Machine
import TcpJournal.Shell.Rules.Role
import TcpJournal.Shell.Rules.Run
import TcpJournal.Shell.Rules.Syntax
import TcpJournal.Shell.Rules.Token
import TcpJournal.Shell.Rules.Value
import TcpJournal.Shell.Run
import TcpJournal.Shell.Sigil.Functions
import TcpJournal.Shell.Sigil.Machine
import TcpJournal.Shell.Sigil.Reader
import TcpJournal.Shell.Sigil.Run
import TcpJournal.Shell.Sigil.Syntax
import TcpJournal.Shell.Signal
import TcpJournal.Shell.Start
import TcpJournal.Shell.Syntax
import TcpJournal.Shell.Token
import TcpJournal.Shell.Utility.Awk
import TcpJournal.Shell.Utility.Calculate
import TcpJournal.Shell.Utility.Clock
import TcpJournal.Shell.Utility.Copy
import TcpJournal.Shell.Utility.Digest
import TcpJournal.Shell.Utility.Dump
import TcpJournal.Shell.Utility.Fields
import TcpJournal.Shell.Utility.Grep
import TcpJournal.Shell.Utility.Join
import TcpJournal.Shell.Utility.Layout
import TcpJournal.Shell.Utility.Merge
import TcpJournal.Shell.Utility.Options
import TcpJournal.Shell.Utility.Perl
import TcpJournal.Shell.Utility.Refill
import TcpJournal.Shell.Utility.Sed
import TcpJournal.Shell.Utility.Sort
import TcpJournal.Shell.Utility.System
import TcpJournal.Shell.Utility.Table
import TcpJournal.Shell.Utility.Translate
import TcpJournal.Shell.Utility.VersionName
import TcpJournal.Shell.Variable
import TcpJournal.Shell.WallClock
import TcpJournal.Source
import TcpJournal.Status
import TcpJournal.Text
import TcpJournal.Text.Quoted
import TcpJournal.Text.Ranges
import TcpJournal.TimePattern.Item
import TcpJournal.TimePattern.Render
import TcpJournal.Trace
import TcpJournal.Trace.Line
