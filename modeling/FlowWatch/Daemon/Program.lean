import FlowWatch.Daemon.Loop
import FlowWatch.Daemon.Startup
import FlowWatch.Log.Filter
import FlowWatch.Text.Lines

/-!
# A whole run

A run reads its command line, says what it was asked, or resolves its settings,
assembles what it needs and goes around the loop until it ends. What the clocks
and the signals say before each turn may depend on the texts that the run has
shown so far, as it does when somebody watches them. The number of turns is
bounded by an argument; a run that is not over by then has no ending.

The phases before and after the loop are functions of their own, so that a
program can take the same turns at its own pace.
-/

namespace FlowWatch.Daemon

open CommandLine Log

/-- What a run leaves behind. -/
structure Outcome where
  /-- The exit code. -/
  exit : Nat
  /-- The texts on the standard output. A line end follows each of them. -/
  output : List String
  /-- The texts on the error output. A line end follows each of them. -/
  errors : List String
  deriving DecidableEq, Repr

/-- The lines of the standard output. -/
def Outcome.outputLines (o : Outcome) : List String := o.output.flatMap Text.lines

/-- The lines of the error output. -/
def Outcome.errorLines (o : Outcome) : List String := o.errors.flatMap Text.lines

/-- The exit code after a failure. -/
def failureExit : Nat := 1

/-- The exit code after a wrong command line. -/
def usageExit : Nat := 2

/-- The exit code of a program that ended where it has no result. -/
def abortExit : Nat := 134

/-- What a diverted command line leaves behind. -/
def divert : Diversion → Outcome
  | .help => ⟨0, CommandLine.help, []⟩
  | .version => ⟨0, [programName ++ " " ++ programVersion], []⟩
  | .fault fault =>
    ⟨usageExit, [],
      ["error: " ++ fault.message, "", "Usage: " ++ programName ++ " [OPTIONS]", "",
        "For more information, try '--help'."]⟩

/-- What trouble leaves behind, after texts on both outputs. -/
def Trouble.outcome (shown complaints : List String) : Trouble → Outcome
  | .reported report => ⟨failureExit, shown, complaints ++ report.lines⟩
  | .aborted => ⟨abortExit, shown, complaints⟩

/-- The settings of a run, from its first event to the last one before anything
is assembled. -/
def prepare (m : Machine) (a : Arguments) : Logged Settings :=
  let resolved := resolve m a
  let loaded := match resolved.result with
    | .ok s => [Event.loaded s.healthCheck s.pipeline.timestampMode, .signalsRegistered]
    | .error _ => []
  ⟨resolved.result, .starting programVersion :: resolved.events ++ loaded⟩

/-- The report of a stream that failed. -/
def streamReport (fault : Timestamp.Fault) : Report :=
  ⟨"Pipeline stopped with an error", [fault.message]⟩

/-- What follows the loop: the health check is stopped however it ended, and a
run whose stream did not fail sums itself up. -/
def finish (a : Assembly) (l : Loop) (ending : Ending) (uptime : UInt64) : Logged Unit :=
  let stopped := [Event.shuttingDown] ++ a.state.stop.events ++ a.state.stopEvents
  match l.result ending with
  | .error fault => ⟨.error (.reported (streamReport fault)), stopped⟩
  | .ok counts => ⟨.ok (), stopped ++ [.shutdownComplete counts l.shutdown.signals uptime]⟩

/-- What the surroundings of a run say while it goes on. -/
structure Surroundings where
  /-- What the machine says. -/
  machine : Machine
  /-- The reading of the clock at the start. -/
  startReading : Duration
  /-- What is the case before the turn of a number, given the texts shown so far. -/
  tick : Nat → List String → Tick

/-- The turns of a run, with the texts that they show after the given ones. -/
def turns (s : Surroundings) (filter : Filter) (limit : Nat) :
    Nat → Nat → Loop → List String → Option (Loop × Ending × List String)
  | 0, _, _, _ => none
  | bound + 1, number, l, shown =>
    let turn := l.turn limit (s.tick number shown)
    let shown := shown ++ filter.texts turn.events
    match turn.ending with
    | some ending => some (turn.loop, ending, shown)
    | none => turns s filter limit bound (number + 1) turn.loop shown

/-- A run whose command line asks for one. -/
def runWith (s : Surroundings) (bound : Nat) (a : Arguments) : Option Outcome :=
  let (filter, ignored) := Filter.choose (s.machine.variableValue Filter.variableName) a.level
  let complaints := ignored.map Filter.Ignored.text
  let prepared := prepare s.machine a
  let shown := filter.texts prepared.events
  match prepared.result with
  | .error trouble => some (trouble.outcome shown complaints)
  | .ok settings =>
    let assembled := assemble s.machine s.startReading settings
    let shown := shown ++ filter.texts assembled.events
    match assembled.result with
    | .error trouble => some (trouble.outcome shown complaints)
    | .ok assembly => do
      let (l, ending, shown) ←
        turns s filter a.unitLimit bound 0 (Loop.start assembly.pipeline) shown
      let uptime := (s.tick l.pipeline.emitted shown).moment.elapsed.toWord
      let finished := finish assembly l ending uptime
      let shown := shown ++ filter.texts finished.events
      match finished.result with
      | .ok () => pure ⟨0, shown, complaints⟩
      | .error trouble => pure (trouble.outcome shown complaints)

/-- A whole run over the words of a command line. -/
def run (s : Surroundings) (bound : Nat) (words : List String) : Option Outcome :=
  match CommandLine.read words with
  | .error diversion => some (divert diversion)
  | .ok a => runWith s bound a

end FlowWatch.Daemon
