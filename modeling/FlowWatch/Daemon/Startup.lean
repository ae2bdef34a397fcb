import FlowWatch.Config.File
import FlowWatch.Config.Validation
import FlowWatch.Daemon.CommandLine
import FlowWatch.Daemon.Report
import FlowWatch.Pipeline
import FlowWatch.Supervisor.Basic

/-!
# From the command line to a running pipeline

The settings come from one source: the file of the command line, the file of
the environment if it exists, a file at a usual place, or the defaults. The
environment overrides them and the command line overrides both; the result
must be valid. Then the pipeline is built, the probes are added in order, and
the health check is started, before any unit flows. What the machine says about
variables, files and listening is an input. It is asked to listen only after all
probes were added.
-/

namespace FlowWatch.Daemon

open CommandLine Config Log

/-- What the machine says. -/
structure Machine where
  /-- The value of a variable. -/
  variableValue : String → Option String
  /-- What there is at a path. -/
  file : String → FileEntry
  /-- Whether the program can listen on an address and serve there. -/
  listen : String → BindOutcome

/-- A result and the events on the way to it. -/
structure Logged (α : Type) where
  /-- The result. -/
  result : Except Trouble α
  /-- What is logged. -/
  events : List Event

/-- The variable of the configuration file. -/
def pathVariable : String := "LIVENESS_CONFIG_PATH"

/-- The usual places of a configuration file. -/
def usualPlaces : List String := ["/etc/stream-liveness/config.toml", "config/default.toml"]

/-- Where the settings come from. -/
inductive Source
  /-- The file of the command line. -/
  | argument (path : String)
  /-- The file of the environment. -/
  | environment (path : String)
  /-- A file at a usual place. -/
  | place (path : String)
  /-- The defaults. -/
  | builtIn
  deriving DecidableEq, Repr

/-- The source when neither the command line nor the environment has one: the
first usual place where there is something. -/
def usualSource (m : Machine) : Source :=
  match usualPlaces.find? fun path => (m.file path).exists with
  | some path => .place path
  | none => .builtIn

/-- The source of the settings. -/
def source (m : Machine) (a : Arguments) : Source :=
  match a.config with
  | some path => .argument path
  | none => match m.variableValue pathVariable with
    | none => usualSource m
    | some path => if (m.file path).exists then .environment path else usualSource m

/-- The event of a file of the environment that does not exist. -/
def missingEvents (m : Machine) (a : Arguments) : List Event :=
  match a.config, m.variableValue pathVariable with
  | none, some path => if (m.file path).exists then [] else [.variableMissing path]
  | _, _ => []

/-- The event of loading from a source. -/
def Source.event : Source → Event
  | .argument path => .loadingArgument path
  | .environment path => .loadingVariable path
  | .place path => .loadingFile path
  | .builtIn => .usingDefaults

/-- What a failure to load from a source is reported as. -/
def Source.context : Source → String
  | .argument path | .place path => "Failed to load config from " ++ Text.quote path
  | .environment path => "Failed to load config from LIVENESS_CONFIG_PATH=" ++ Text.quote path
  | .builtIn => ""

/-- The settings of a source. -/
def Source.load (m : Machine) : Source → Except Stop Settings
  | .argument path | .environment path | .place path => ofFile path (m.file path)
  | .builtIn => .ok Settings.default

/-- The settings with what the command line overrides. -/
def override (a : Arguments) (s : Settings) : Settings where
  healthCheck := { s.healthCheck with
    enabled := a.enabled.getD s.healthCheck.enabled
    idleThreshold := a.idle.getD s.healthCheck.idleThreshold }
  pipeline := { s.pipeline with
    observe := if a.observe.isEmpty then s.pipeline.observe else a.observe }

/-- The error of a failed check or override. -/
def failed (context : String) (e : Config.Error) : Trouble := .reported ⟨context, causesOf e⟩

/-- The settings of a run, once its source has been loaded. -/
def complete (m : Machine) (a : Arguments) (base : Settings) : Except Trouble Settings :=
  match applyEnvironment m.variableValue base.healthCheck with
  | (_, some e) => .error (failed "Invalid HEALTH_CHECK_* environment variable" e)
  | (health, none) =>
    let settings := override a { base with healthCheck := health }
    match validate settings with
    | .error e => .error (failed "Invalid configuration" e)
    | .ok () => .ok settings

/-- The settings of a run. -/
def resolve (m : Machine) (a : Arguments) : Logged Settings :=
  let source := source m a
  let result := match source.load m with
    | .error stop => .error (Trouble.ofStop source.context stop)
    | .ok base => complete m a base
  ⟨result, missingEvents m a ++ [source.event]⟩

/-- A pipeline, and the supervisor over its monitor. -/
structure Assembly where
  /-- The pipeline, whose monitor holds all trackers. -/
  pipeline : Pipeline
  /-- The supervisor. -/
  supervisor : Supervisor
  deriving DecidableEq

/-- The supervisor together with the monitor of the pipeline. -/
def Assembly.state (a : Assembly) : Supervisor.State := ⟨a.supervisor, a.pipeline.monitor⟩

/-- The assembly after an operation on its supervisor. -/
def Assembly.withState (a : Assembly) (s : Supervisor.State) : Assembly :=
  ⟨{ a.pipeline with monitor := s.monitor }, s.supervisor⟩

/-- The report of a failure of the health check. -/
def ofFailure (context : String) (failure : Failure) : Trouble :=
  .reported ⟨context, [failure.message]⟩

/-- Adds probes at points in order, up to the first one that fails. -/
def addProbes (now : Duration) : List String → Assembly → Logged Assembly
  | [], a => ⟨.ok a, []⟩
  | text :: rest, a => match Point.ofText text with
    | .error failure =>
      ⟨.error (ofFailure ("Invalid observation point " ++ Text.quote text) failure), []⟩
    | .ok point =>
      let change := a.state.addProbe now point
      match change.result with
      | .error failure =>
        ⟨.error (ofFailure ("Failed to add probe at " ++ text) failure), change.events⟩
      | .ok _ =>
        let further := addProbes now rest (a.withState change.state)
        ⟨further.result, change.events ++ further.events⟩

/-- Starts the health check. -/
def startCheck (m : Machine) (a : Assembly) : Logged Assembly :=
  let change := a.state.start (m.listen a.supervisor.settings.bindAddress)
  match change.result with
  | .error failure =>
    ⟨.error (ofFailure "Failed to start health check server" failure), change.events⟩
  | .ok () => ⟨.ok (a.withState change.state), change.events⟩

/-- A pipeline with a supervisor that has no probes. -/
def unprobed (health : HealthSettings) (pipeline : Pipeline) (now : Duration) : Assembly :=
  let made := Supervisor.make health pipeline.monitor now
  ⟨{ pipeline with monitor := made.monitor }, made.supervisor⟩

/-- Builds the pipeline and adds the probes. -/
def equip (now : Duration) (s : Settings) : Logged Assembly :=
  match Pipeline.make s.pipeline with
  | .error fault =>
    ⟨.error (failed "Failed to build pipeline" (.invalid "pipeline.start_utc" fault.message)), []⟩
  | .ok pipeline => addProbes now s.pipeline.observe (unprobed s.healthCheck pipeline now)

/-- Builds all that a run needs before its first unit. -/
def assemble (m : Machine) (now : Duration) (s : Settings) : Logged Assembly :=
  let equipped := equip now s
  match equipped.result with
  | .error trouble => ⟨.error trouble, equipped.events⟩
  | .ok a =>
    let started := startCheck m a
    ⟨started.result, equipped.events ++ started.events⟩

end FlowWatch.Daemon
