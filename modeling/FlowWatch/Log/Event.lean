import FlowWatch.Config.Settings
import FlowWatch.Monitor.Point
import FlowWatch.Time.ClockText

/-!
# What is logged

An event is something that happened, with the values that belong to it. Its
level, its component, its message and its named fields are functions of it, so
that code and laws speak about events and never about their wording. The text
of an event is the level, the message and the fields.
-/

namespace FlowWatch.Log

/-- How important an event is, the least important first. -/
inductive Level
  | trace
  | debug
  | info
  | warn
  | error
  deriving DecidableEq, Repr

/-- The level in capitals. -/
def Level.name : Level → String
  | .trace => "TRACE"
  | .debug => "DEBUG"
  | .info => "INFO"
  | .warn => "WARN"
  | .error => "ERROR"

/-- How much a filter lets through when it is set to this level: one for errors
only, up to five for everything. -/
def Level.verbosity : Level → Nat
  | .trace => 5
  | .debug => 4
  | .info => 3
  | .warn => 2
  | .error => 1

/-- The signals that end the program. -/
inductive Signal
  /-- The request of an orchestrator. -/
  | terminate
  /-- The request of a terminal. -/
  | interrupt
  deriving DecidableEq, Repr

/-- The name of the signal. -/
def Signal.name : Signal → String
  | .terminate => "SIGTERM"
  | .interrupt => "SIGINT"

/-- How far a pipeline has come. -/
structure Counts where
  /-- Units that the source produced. -/
  emitted : Nat
  /-- Units that reached the sink. -/
  delivered : Nat
  /-- Units without a valid timestamp. -/
  dropped : Nat
  /-- Units whose timestamp was moved forward. -/
  corrected : Nat
  deriving DecidableEq, Repr

/-- Something that happened. -/
inductive Event
  /-- A unit was dropped, since its raw timestamp has no valid one. -/
  | unitUnconvertible (raw : Nanos) (mode : InputMode)
  /-- Raw timestamps stay without valid ones; the stream fails. -/
  | streamUnconvertible (raw : Nanos) (mode : InputMode)
  /-- An output would have decreased and was moved forward. -/
  | outputCorrected (previous wouldBe corrected : Timestamp)
  /-- A raw timestamp has its output. -/
  | unitNormalized (raw : Nanos) (output : Timestamp)
  /-- The first unit decided the offset of all. -/
  | offsetLatched (offset : Nanos) (mode : InputMode)
  /-- A probe was attached to a point. -/
  | probeRegistered (point : Point)
  /-- A unit passed a probe, whose tracker describes itself. -/
  | unitObserved (point : Point) (description : String)
  /-- A request found the pipeline idle. -/
  | idleReported (seconds : Nat)
  /-- A request found no tracker. -/
  | emptyReported
  /-- A probe was not added, since the health check is off. -/
  | probeSkipped (point : Point)
  /-- There is no health check to start. -/
  | checkDisabled
  /-- The health check starts without any probe. -/
  | startedWithoutProbes
  /-- The health check listens. -/
  | listening (address : String) (threshold : Duration) (trackers : Nat)
  /-- The health check is told to stop. -/
  | stopping
  /-- The health check has stopped. -/
  | stopped
  /-- Shutdown was requested from within. -/
  | shutdownRequested
  /-- Shutdown was requested by a signal. -/
  | signalReceived (signal : Signal)
  /-- Signals are listened to. -/
  | signalsRegistered
  /-- The program starts. -/
  | starting (version : String)
  /-- The file of the command line is loaded. -/
  | loadingArgument (path : String)
  /-- The file of the environment is loaded. -/
  | loadingVariable (path : String)
  /-- The file of the environment does not exist. -/
  | variableMissing (path : String)
  /-- A file at a usual place is loaded. -/
  | loadingFile (path : String)
  /-- There is no file. -/
  | usingDefaults
  /-- The settings are complete. -/
  | loaded (health : HealthSettings) (mode : InputMode)
  /-- A unit reached the sink. -/
  | unitDelivered (timestamp : Timestamp)
  /-- The source has stalled. -/
  | sourceStalled
  /-- As many units as asked for were produced. -/
  | limitReached (units : Nat)
  /-- How far the pipeline has come. -/
  | periodicStatus (counts : Counts)
  /-- The loop has ended. -/
  | shuttingDown
  /-- The program is done. -/
  | shutdownComplete (counts : Counts) (signals : Nat) (uptime : UInt64)
  deriving DecidableEq

/-- The part of the program that logs. -/
inductive Component
  | normalizer
  | probe
  | endpoint
  | supervisor
  | signals
  | daemon
  deriving DecidableEq, Repr

/-- The name that filters know the component by. -/
def Component.target : Component → String
  | .normalizer => "liveness_common::normalize"
  | .probe => "liveness_monitor::probe"
  | .endpoint => "liveness_http::endpoint"
  | .supervisor => "liveness_http::supervisor"
  | .signals => "liveness_daemon::signals"
  | .daemon => "liveness_daemon"

namespace Event

/-- The level of an event. -/
def level : Event → Level
  | unitUnconvertible .. | outputCorrected .. | idleReported .. | emptyReported
  | startedWithoutProbes | variableMissing .. | sourceStalled => .warn
  | streamUnconvertible .. => .error
  | unitNormalized .. | unitDelivered .. => .trace
  | unitObserved .. | probeSkipped .. | signalsRegistered => .debug
  | _ => .info

/-- The component that logs an event. -/
def component : Event → Component
  | unitUnconvertible .. | streamUnconvertible .. | outputCorrected .. | unitNormalized ..
  | offsetLatched .. => .normalizer
  | probeRegistered .. | unitObserved .. => .probe
  | idleReported .. | emptyReported => .endpoint
  | probeSkipped .. | checkDisabled | startedWithoutProbes | listening .. | stopping
  | stopped => .supervisor
  | shutdownRequested | signalReceived .. | signalsRegistered => .signals
  | _ => .daemon

/-- The message of an event. -/
def message : Event → String
  | unitUnconvertible .. =>
    "Dropping data unit because its timestamp cannot be converted to TAI"
  | streamUnconvertible .. =>
    "Input timestamps are not valid. An RTSP source that sends no RTCP sender reports " ++
      "causes this; set timestamp_mode to start_at_current_time at the cost of timestamp " ++
      "accuracy"
  | outputCorrected .. => "Output timestamp would have decreased, correcting"
  | unitNormalized .. => "Normalized timestamp"
  | offsetLatched .. => "Input timestamps will be shifted by a fixed offset"
  | probeRegistered _ => "Activity probe registered"
  | unitObserved _ description => description
  | idleReported _ => "Pipeline is idle, reporting unhealthy"
  | emptyReported => "Liveness requested but no idle tracker is registered"
  | probeSkipped _ => "Health check disabled, not adding probe"
  | checkDisabled => "Health check disabled"
  | startedWithoutProbes => "Health check started without probes; it will report unhealthy"
  | listening .. => "Health check server listening"
  | stopping => "Stopping health check server"
  | stopped => "Health check server stopped"
  | shutdownRequested => "Manual shutdown requested"
  | signalReceived _ => "Shutdown signal received"
  | signalsRegistered => "Unix signal handlers registered"
  | starting _ => "Starting liveness daemon"
  | loadingArgument _ => "Loading config from command-line argument"
  | loadingVariable _ => "Loading config from LIVENESS_CONFIG_PATH"
  | variableMissing _ =>
    "LIVENESS_CONFIG_PATH set but file does not exist, checking other locations"
  | loadingFile _ => "Loading config file"
  | usingDefaults => "No config file found, using built-in defaults"
  | loaded .. => "Configuration loaded"
  | unitDelivered _ => "Data unit reached sink"
  | sourceStalled => "Source stalled, no further data units will be produced"
  | limitReached _ => "Maximum unit count reached"
  | periodicStatus _ => "Periodic status"
  | shuttingDown => "Shutting down..."
  | shutdownComplete .. => "Daemon shutdown complete"

/-- The fields of an event with their values as text, in order. -/
def fields : Event → List (String × String)
  | unitUnconvertible raw mode | streamUnconvertible raw mode =>
    [("raw_ns", toString raw.val), ("mode", mode.name)]
  | outputCorrected previous wouldBe corrected =>
    [("previous", previous.text), ("would_be", wouldBe.text), ("corrected", corrected.text)]
  | unitNormalized raw output => [("raw_ns", toString raw.val), ("output", output.text)]
  | offsetLatched offset mode => [("offset_ns", toString offset.val), ("mode", mode.name)]
  | probeRegistered point | unitObserved point _ | probeSkipped point =>
    [("point", point.text)]
  | idleReported seconds => [("idle_seconds", toString seconds)]
  | listening address threshold trackers =>
    [("addr", address), ("idle_threshold", threshold.text), ("trackers", toString trackers)]
  | signalReceived signal => [("signal", signal.name)]
  | starting version => [("version", Text.quote version)]
  | loadingArgument path | loadingVariable path | loadingFile path =>
    [("config_path", Text.quote path)]
  | variableMissing path => [("path", path)]
  | loaded health mode =>
    [("health_check", toString health.enabled), ("idle_threshold", health.idleThreshold.text),
     ("bind", health.bindAddress), ("binding", health.binding.label),
     ("timestamp_mode", mode.name)]
  | unitDelivered timestamp => [("timestamp", timestamp.text)]
  | limitReached units => [("units", toString units)]
  | periodicStatus counts =>
    [("emitted", toString counts.emitted), ("delivered", toString counts.delivered),
     ("dropped", toString counts.dropped)]
  | shutdownComplete counts signals uptime =>
    [("emitted", toString counts.emitted), ("delivered", toString counts.delivered),
     ("dropped", toString counts.dropped), ("corrected", toString counts.corrected),
     ("signals", toString signals), ("uptime", ClockText.write uptime)]
  | _ => []

/-- Whether an event has a field of the given name. Its message is one. -/
def hasField (e : Event) (name : String) : Bool :=
  name == "message" || e.fields.any (·.1 == name)

/-- An event as a log shows it, without the time and the component. -/
def text (e : Event) : String :=
  e.fields.foldl (fun text field => text ++ " " ++ field.1 ++ "=" ++ field.2)
    (e.level.name ++ " " ++ e.message)

end Event

end FlowWatch.Log
