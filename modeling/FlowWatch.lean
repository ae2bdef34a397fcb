import FlowWatch.Binary64.Basic
import FlowWatch.Binary64.Decimal
import FlowWatch.Binary64.Rounding
import FlowWatch.Binary64.Shortest
import FlowWatch.Config.Environment
import FlowWatch.Config.File
import FlowWatch.Config.Reading
import FlowWatch.Config.Selection
import FlowWatch.Config.Settings
import FlowWatch.Config.Shape
import FlowWatch.Config.Validation
import FlowWatch.Config.Writing
import FlowWatch.Daemon.CommandLine
import FlowWatch.Daemon.Loop
import FlowWatch.Daemon.Program
import FlowWatch.Daemon.Report
import FlowWatch.Daemon.Startup
import FlowWatch.Endpoint.Router
import FlowWatch.Endpoint.Verdict
import FlowWatch.Endpoint.Wire
import FlowWatch.Failure
import FlowWatch.Log.Directive
import FlowWatch.Log.Event
import FlowWatch.Log.Filter
import FlowWatch.Log.Pattern
import FlowWatch.Log.Pattern.Atom
import FlowWatch.Log.Pattern.Set
import FlowWatch.Main
import FlowWatch.Monitor.Basic
import FlowWatch.Monitor.Clock
import FlowWatch.Monitor.Point
import FlowWatch.Monitor.Session
import FlowWatch.Monitor.Topology
import FlowWatch.Monitor.Tracker
import FlowWatch.Normalizer
import FlowWatch.Normalizer.Mode
import FlowWatch.Pipeline
import FlowWatch.Pipeline.Session
import FlowWatch.Proofs.Config.Abort
import FlowWatch.Proofs.Config.Assignment
import FlowWatch.Proofs.Config.Document
import FlowWatch.Proofs.Config.DurationSetting
import FlowWatch.Proofs.Config.Environment
import FlowWatch.Proofs.Config.IdleThreshold
import FlowWatch.Proofs.Config.KnownKey
import FlowWatch.Proofs.Config.Overlay
import FlowWatch.Proofs.Config.Validation
import FlowWatch.Proofs.Config.Variable
import FlowWatch.Proofs.Daemon.Gate
import FlowWatch.Proofs.Daemon.LoopBounds
import FlowWatch.Proofs.Daemon.Precedence
import FlowWatch.Proofs.Endpoint.Routing
import FlowWatch.Proofs.Endpoint.Staleness
import FlowWatch.Proofs.Endpoint.Stalest
import FlowWatch.Proofs.Endpoint.Verdict
import FlowWatch.Proofs.Monitor.Attachment
import FlowWatch.Proofs.Monitor.ClockOrder
import FlowWatch.Proofs.Monitor.Feeding
import FlowWatch.Proofs.Monitor.Forward
import FlowWatch.Proofs.Monitor.Idleness
import FlowWatch.Proofs.Monitor.Layout
import FlowWatch.Proofs.Monitor.Ledger
import FlowWatch.Proofs.Monitor.Memory
import FlowWatch.Proofs.Monitor.Moves
import FlowWatch.Proofs.Monitor.PointText
import FlowWatch.Proofs.Monitor.Reads
import FlowWatch.Proofs.Monitor.Registration
import FlowWatch.Proofs.Monitor.Updates
import FlowWatch.Proofs.Normalizer.Drift
import FlowWatch.Proofs.Normalizer.FixedStart
import FlowWatch.Proofs.Normalizer.Memory
import FlowWatch.Proofs.Normalizer.Order
import FlowWatch.Proofs.Normalizer.Outcomes
import FlowWatch.Proofs.Normalizer.Transparency
import FlowWatch.Proofs.Normalizer.Units
import FlowWatch.Proofs.Pipeline.Accounting
import FlowWatch.Proofs.Pipeline.FirstUnit
import FlowWatch.Proofs.Pipeline.Recovery
import FlowWatch.Proofs.Pipeline.Schedule
import FlowWatch.Proofs.Pipeline.Steps
import FlowWatch.Proofs.Pipeline.Timescales
import FlowWatch.Proofs.Pipeline.WarmUp
import FlowWatch.Proofs.Result
import FlowWatch.Proofs.Shutdown.Families
import FlowWatch.Proofs.Supervisor.Agreement
import FlowWatch.Proofs.Supervisor.Binding
import FlowWatch.Proofs.Supervisor.Dormancy
import FlowWatch.Proofs.Supervisor.Lifecycle
import FlowWatch.Proofs.Supervisor.Liveness
import FlowWatch.Proofs.Supervisor.Moves
import FlowWatch.Proofs.Supervisor.Outcomes
import FlowWatch.Proofs.Supervisor.Placement
import FlowWatch.Proofs.Supervisor.Record
import FlowWatch.Proofs.Supervisor.Strictness
import FlowWatch.Proofs.Supervisor.Twins
import FlowWatch.Proofs.Text.Numeral
import FlowWatch.Proofs.Text.Trimming
import FlowWatch.Proofs.Time.Calendar
import FlowWatch.Proofs.Time.ClockText
import FlowWatch.Proofs.Time.Conversion
import FlowWatch.Proofs.Time.DateTimeText
import FlowWatch.Proofs.Time.DurationText
import FlowWatch.Proofs.Time.DurationSums
import FlowWatch.Proofs.Time.LostCarry
import FlowWatch.Proofs.Time.Representable
import FlowWatch.Proofs.Time.SystemClock
import FlowWatch.Proofs.Time.TextOrder
import FlowWatch.Proofs.Toml.Distinct
import FlowWatch.Proofs.Toml.Document
import FlowWatch.Proofs.Toml.Quotation
import FlowWatch.Proofs.Toml.Scalar
import FlowWatch.Proofs.Toml.Setting
import FlowWatch.Shutdown
import FlowWatch.Supervisor.Basic
import FlowWatch.Supervisor.Session
import FlowWatch.Text.Alphanumeric
import FlowWatch.Text.Blank
import FlowWatch.Text.ControlSequence
import FlowWatch.Text.Invisible
import FlowWatch.Text.Lines
import FlowWatch.Text.Numeral
import FlowWatch.Text.Quoted
import FlowWatch.Time.Calendar
import FlowWatch.Time.ClockText
import FlowWatch.Time.Duration
import FlowWatch.Time.DurationText
import FlowWatch.Time.Nanos
import FlowWatch.Time.Rfc3339
import FlowWatch.Time.Timescale
import FlowWatch.Time.Timestamp
import FlowWatch.Toml.DateTime
import FlowWatch.Toml.Document
import FlowWatch.Toml.Excerpt
import FlowWatch.Toml.Fault
import FlowWatch.Toml.Name
import FlowWatch.Toml.Number
import FlowWatch.Toml.Place
import FlowWatch.Toml.Quotation
import FlowWatch.Toml.Reading
import FlowWatch.Toml.Value
import FlowWatch.Toml.Writing
