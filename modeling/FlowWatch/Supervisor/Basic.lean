import FlowWatch.Endpoint.Router

/-!
# The supervisor of the health check

The supervisor decides which tracker each probe feeds, and holds the server
while there is one. The trackers themselves belong to the monitor; the
supervisor knows their numbers. The server works on the numbers that were
current when it started. Whether the listener can be bound and has a runtime
and a thread behind it is an input, since only the machine can tell. A server
that runs is taken to do so until it is stopped.

An operation that fails leaves both the supervisor and the monitor as they
were.
-/

namespace FlowWatch

open Log

/-- A running server. -/
structure Server where
  /-- The address it listens on. -/
  address : String
  /-- The trackers it looks at, by number. -/
  watched : List Nat
  deriving DecidableEq

/-- What a server needs beside its listener. -/
inductive ServerPart
  /-- The runtime that answers the requests. -/
  | runtime
  /-- A thread of its own. -/
  | thread
  deriving DecidableEq

/-- The wording of the failure to provide a part. -/
def ServerPart.complaint : ServerPart → String
  | .runtime => "failed to build runtime: "
  | .thread => "failed to spawn health check thread: "

/-- What the machine says to an attempt to listen and to serve. -/
inductive BindOutcome
  /-- The listener is bound to this address, and the server has what it needs. -/
  | bound (address : String)
  /-- The listener is not bound, for this reason. -/
  | refused (reason : String)
  /-- The server lacks a part, for this reason, and its listener is closed again. -/
  | lacking (part : ServerPart) (reason : String)
  deriving DecidableEq

/-- The address of the server after an attempt to listen at the requested one, or
why there is no server. -/
def BindOutcome.spawned (requested : String) : BindOutcome → Except Failure String
  | .bound address => .ok address
  | .refused reason => .error (.bind requested reason)
  | .lacking part reason => .error (.server (part.complaint ++ reason))

/-- A server is there exactly if the machine bound its listener. -/
theorem BindOutcome.spawned_eq_ok_iff {outcome : BindOutcome} {requested address : String} :
    outcome.spawned requested = .ok address ↔ outcome = .bound address := by
  cases outcome <;> simp [spawned]

/-- The state of the health check. -/
structure Supervisor where
  /-- Its settings, which never change. -/
  settings : HealthSettings
  /-- The trackers that an endpoint looks at, by number. -/
  trackers : List Nat
  /-- The probes added so far. -/
  probes : List Probe
  /-- The server, while it runs. -/
  server : Option Server
  deriving DecidableEq

namespace Supervisor

/-- A supervisor and the monitor that holds its trackers. -/
structure State where
  /-- The supervisor. -/
  supervisor : Supervisor
  /-- The monitor. -/
  monitor : Monitor
  deriving DecidableEq

/-- What an operation leads to. -/
structure Change (α : Type) where
  /-- The state afterwards. -/
  state : State
  /-- The result. -/
  result : Except Failure α
  /-- What is logged. -/
  events : List Event

/-- A supervisor before any operation. With shared binding its one tracker is
made at once. -/
def make (settings : HealthSettings) (monitor : Monitor) (now : Duration) : State :=
  if settings.enabled && settings.binding = .shared then
    ⟨⟨settings, [monitor.trackers.length], [], none⟩,
      monitor.addTracker settings.idleThreshold now⟩
  else ⟨⟨settings, [], [], none⟩, monitor⟩

/-- Whether the server runs. -/
def isRunning (s : Supervisor) : Bool := s.server.isSome

/-- The address that the server listens on. -/
def localAddress? (s : Supervisor) : Option String := s.server.map (·.address)

/-- Probes cannot be added once the server runs. -/
def lateProbe : Failure :=
  .configuration "probes must be added before the health check server starts"

/-- A server is running already. -/
def alreadyRunning : Failure := .configuration "health check server already running"

/-- There is nothing to look at. -/
def needsProbe : Failure :=
  .configuration "per-probe tracker binding requires at least one probe"

/-- The shared tracker does not exist. -/
def missingTracker : Failure := .configuration "shared idle tracker is missing"

/-- A failure, or success without a change. -/
def State.keep {α : Type} (s : State) (result : Except Failure α) (events : List Event) :
    Change α :=
  ⟨s, result, events⟩

/-- The state after a probe was attached to the given monitor, or as it was. -/
def State.attach (s : State) (prepared : Monitor) (trackers : List Nat) (point : Point)
    (tracker : Nat) : Change (Option Probe) :=
  match prepared.register point tracker with
  | .error failure => s.keep (.error failure) []
  | .ok (monitor, event) =>
    let probe : Probe := ⟨point, tracker⟩
    ⟨⟨{ s.supervisor with trackers := trackers, probes := s.supervisor.probes ++ [probe] },
        monitor⟩, .ok (some probe), [event]⟩

/-- Adds a probe at a point. Without a health check nothing is attached. -/
def State.addProbe (s : State) (now : Duration) (point : Point) : Change (Option Probe) :=
  let supervisor := s.supervisor
  if !supervisor.settings.enabled then s.keep (.ok none) [.probeSkipped point]
  else if supervisor.server.isSome then s.keep (.error lateProbe) []
  else match supervisor.settings.binding with
    | .shared => match supervisor.trackers with
      | [] => s.keep (.error missingTracker) []
      | tracker :: _ => s.attach s.monitor supervisor.trackers point tracker
    | .perProbe =>
      let tracker := s.monitor.trackers.length
      s.attach (s.monitor.addTracker supervisor.settings.idleThreshold now)
        (supervisor.trackers ++ [tracker]) point tracker

/-- Starts the server, given what the machine says to the attempt. -/
def State.start (s : State) (outcome : BindOutcome) : Change Unit :=
  let supervisor := s.supervisor
  if !supervisor.settings.enabled then s.keep (.ok ()) [.checkDisabled]
  else if supervisor.server.isSome then s.keep (.error alreadyRunning) []
  else if supervisor.trackers.isEmpty then s.keep (.error needsProbe) []
  else
    let warning := if supervisor.probes.isEmpty then [Event.startedWithoutProbes] else []
    match outcome.spawned supervisor.settings.bindAddress with
    | .error failure => s.keep (.error failure) warning
    | .ok address =>
      let server : Server := ⟨address, supervisor.trackers⟩
      ⟨⟨{ supervisor with server := some server }, s.monitor⟩, .ok (),
        warning ++ [.listening address supervisor.settings.idleThreshold
          supervisor.trackers.length]⟩

/-- Whether starting gets as far as trying to listen. -/
def triesToListen (s : Supervisor) : Bool :=
  s.settings.enabled && s.server.isNone && !s.trackers.isEmpty

/-- Stops the server, if it runs. -/
def State.stop (s : State) : Change Unit :=
  if s.supervisor.server.isSome then
    ⟨⟨{ s.supervisor with server := none }, s.monitor⟩, .ok (), [.stopping]⟩
  else s.keep (.ok ()) []

/-- What the server itself logs while it is being stopped. -/
def State.stopEvents (s : State) : List Event :=
  if s.supervisor.server.isSome then [.stopped] else []

/-- The answer of the running server to a request, as its connection delivers it. -/
def State.serve (s : State) (now : Duration) (request : Endpoint.Request) :
    Option (State × Endpoint.Response) :=
  s.supervisor.server.map fun server =>
    let answered := Endpoint.answer s.monitor now server.watched request
    (⟨s.supervisor, answered.monitor⟩, request.bodiless answered.response)

/-- The supervisor in one line for debugging. -/
def debugText (s : Supervisor) : String :=
  let settings := s.settings
  let address := match s.localAddress? with
    | some address => "Some(" ++ address ++ ")"
    | none => "None"
  "Supervisor \x7b config: HealthCheckConfig \x7b enabled: " ++ toString settings.enabled ++
    ", idle_threshold: " ++ settings.idleThreshold.text ++ ", bind_host: " ++
    Text.quote settings.bindHost ++ ", bind_port: " ++ toString settings.bindPort.toNat ++
    ", binding: " ++ settings.binding.label ++ " \x7d, trackers: " ++
    toString s.trackers.length ++ ", probes: " ++ toString s.probes.length ++
    ", local_addr: " ++ address ++ ", .. \x7d"

end Supervisor

end FlowWatch
