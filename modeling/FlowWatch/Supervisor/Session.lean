import FlowWatch.Monitor.Clock
import FlowWatch.Supervisor.Basic

/-!
# Sessions with a supervisor

A session is a supervisor and its monitor on a clock that is moved by hand. An
operation carries what only the machine decides: whether a listener could be
bound, and whether a connection to the last bound address came about. A run is
the list of answers to a list of operations.
-/

namespace FlowWatch.Supervisor

open Log

/-- An operation on a session. -/
inductive Operation
  /-- Adds a probe, named by a text. -/
  | addProbe (point : String)
  /-- Starts the server. -/
  | start (outcome : BindOutcome)
  /-- Stops the server. -/
  | stop
  /-- Shows the supervisor for debugging. -/
  | debug
  /-- A request to the last bound address; `reaches` tells whether the machine
  lets connections through to a running server. -/
  | request (request : Endpoint.Request) (reaches : Bool)
  /-- Lets data pass a pad. -/
  | push (element pad : String)
  /-- Counts the probes at a point. -/
  | observers (element pad : String)
  /-- Moves the clock forward. -/
  | advance (step : Duration)
  /-- Sets the clock. -/
  | set (target : Duration)
  deriving DecidableEq

/-- The answer to an operation. -/
inductive Answer
  /-- The probe that was added, or none without a health check. -/
  | added (probe : Option Probe)
  /-- The server was started, or there is none to start. -/
  | started
  /-- The server does not run. -/
  | stopped
  /-- It failed. -/
  | failed (failure : Failure)
  /-- A text. -/
  | text (text : String)
  /-- The server answered. -/
  | response (response : Endpoint.Response)
  /-- No address was ever bound. -/
  | neverBound
  /-- Nobody answers at the last bound address. -/
  | notServing
  /-- Yes or no. -/
  | truth (holds : Bool)
  /-- A count of probes. -/
  | count (probes : Nat)
  /-- A length of time. -/
  | length (duration : Duration)
  deriving DecidableEq

/-- A supervisor on a clock. -/
structure Session where
  /-- The clock. -/
  clock : ManualClock
  /-- The supervisor and its monitor. -/
  state : State
  /-- Whether some start has bound an address. -/
  everBound : Bool
  deriving DecidableEq

/-- What an operation leads to. -/
structure Stepped where
  /-- The session afterwards. -/
  session : Session
  /-- The answer. -/
  answer : Answer
  /-- What the caller's side logs. -/
  events : List Event

namespace Session

/-- A session over a monitor that may already have trackers and probes of its
own, at any position of its clock. -/
def fresh (settings : HealthSettings) (monitor : Monitor) (clock : ManualClock) : Session where
  clock := clock
  state := Supervisor.make settings monitor clock.elapsed
  everBound := false

/-- A session over a topology without trackers, at the origin of its clock. -/
def make (settings : HealthSettings) (topology : Topology) : Session :=
  fresh settings ⟨topology, []⟩ ManualClock.origin

/-- The reading of the clock. -/
def now (s : Session) : Duration := s.clock.elapsed

/-- The session with another monitor. -/
def withMonitor (s : Session) (monitor : Monitor) : Session :=
  { s with state := { s.state with monitor := monitor } }

/-- Adds a probe. The text is read first, health check or not. -/
def addProbe (s : Session) (text : String) : Stepped :=
  match Point.ofText text with
  | .error failure => ⟨s, .failed failure, []⟩
  | .ok point =>
    let change := s.state.addProbe s.now point
    let answer := match change.result with
      | .ok probe => .added probe
      | .error failure => .failed failure
    ⟨{ s with state := change.state }, answer, change.events⟩

/-- Starts the server. -/
def start (s : Session) (outcome : BindOutcome) : Stepped :=
  let change := s.state.start outcome
  let answer := match change.result with
    | .ok () => .started
    | .error failure => .failed failure
  ⟨{ s with
      state := change.state
      everBound := s.everBound || change.state.supervisor.isRunning }, answer, change.events⟩

/-- Sends a request to the last bound address. -/
def request (s : Session) (request : Endpoint.Request) (reaches : Bool) : Stepped :=
  if !s.everBound then ⟨s, .neverBound, []⟩
  else if !reaches then ⟨s, .notServing, []⟩
  else match s.state.serve s.now request with
    | none => ⟨s, .notServing, []⟩
    | some (state, response) => ⟨{ s with state := state }, .response response, []⟩

/-- Performs one operation. -/
def step (s : Session) : Operation → Stepped
  | .addProbe text => s.addProbe text
  | .start outcome => s.start outcome
  | .stop =>
    let change := s.state.stop
    ⟨{ s with state := change.state }, .stopped, change.events⟩
  | .debug => ⟨s, .text s.state.supervisor.debugText, []⟩
  | .request request reaches => s.request request reaches
  | .push element pad =>
    let pushed := s.state.monitor.push s.now element pad
    ⟨s.withMonitor pushed.monitor, .truth pushed.found, pushed.events⟩
  | .observers element pad =>
    ⟨s, .count (s.state.monitor.topology.probesAt element pad).length, []⟩
  | .advance step =>
    let clock := s.clock.advance step
    ⟨{ s with clock := clock }, .length clock.elapsed, []⟩
  | .set target =>
    let clock := s.clock.set target
    ⟨{ s with clock := clock }, .length clock.elapsed, []⟩

/-- Performs operations one after the other. -/
def run (s : Session) : List Operation → Session × List Answer
  | [] => (s, [])
  | operation :: rest =>
    let stepped := s.step operation
    let (last, answers) := stepped.session.run rest
    (last, stepped.answer :: answers)

end Session

end FlowWatch.Supervisor
