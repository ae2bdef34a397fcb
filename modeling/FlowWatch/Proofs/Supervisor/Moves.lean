import FlowWatch.Supervisor.Session
import FlowWatch.Proofs.Monitor.Feeding

/-!
# What an operation can do to a session

Every operation of a session with a supervisor has one of nine effects: nothing
at all, another position of the clock, a probe attached in one of the two
bindings, a server started or stopped, an address noted, data passed, and
trackers looked at. Beside the effect stands what an observer of the pipeline
would write down: the probes that were added and the data that passed, each with
the reading of the clock. The observer does not see trackers. Statements on runs
follow from these effects by induction.
-/

namespace FlowWatch.Supervisor

open Log

/-- What an observer of the pipeline writes down. -/
inductive Occurrence
  /-- A probe was added at a point. -/
  | probed (point : Point) (reading : Duration)
  /-- Data passed a point. -/
  | passed (point : Point) (reading : Duration)
  deriving DecidableEq

/-- The probe that an answer says was added. -/
def Answer.probe? : Answer → Option Probe
  | .added probe => probe
  | _ => none

/-- The state after a probe was attached to the given monitor. -/
def State.attached (s : State) (prepared : Monitor) (trackers : List Nat) (probe : Probe) :
    State :=
  ⟨{ s.supervisor with trackers := trackers, probes := s.supervisor.probes ++ [probe] },
    { prepared with topology := prepared.topology.place probe }⟩

/-- Attaching fails without a change, or finds the pad and attaches. -/
theorem State.attach_cases (s : State) (prepared : Monitor) (trackers : List Nat) (point : Point)
    (tracker : Nat) :
    (∃ failure, s.attach prepared trackers point tracker = s.keep (.error failure) []) ∨
      (prepared.topology.pad? point.element point.pad).isSome = true ∧
        ∃ events, s.attach prepared trackers point tracker =
          ⟨s.attached prepared trackers ⟨point, tracker⟩, .ok (some ⟨point, tracker⟩), events⟩ := by
  unfold State.attach
  split
  · exact .inl ⟨_, rfl⟩
  · rename_i monitor event hregister
    obtain ⟨hpad, rfl⟩ := Monitor.register_eq_ok hregister
    exact .inr ⟨hpad, _, rfl⟩

/-- Adding a probe adds none and changes nothing, or it attaches one: to the
shared tracker, or to a tracker of its own. -/
theorem State.addProbe_cases (s : State) (now : Duration) (point : Point) :
    (∃ result events, s.addProbe now point = s.keep result events ∧
        result.toOption.join = none) ∨
      s.supervisor.settings.enabled = true ∧ s.supervisor.server = none ∧
        ((s.supervisor.settings.binding = .shared ∧ ∃ tracker rest events,
            s.supervisor.trackers = tracker :: rest ∧
            (s.monitor.topology.pad? point.element point.pad).isSome = true ∧
            s.addProbe now point = ⟨s.attached s.monitor s.supervisor.trackers ⟨point, tracker⟩,
              .ok (some ⟨point, tracker⟩), events⟩) ∨
          s.supervisor.settings.binding = .perProbe ∧
            (s.monitor.topology.pad? point.element point.pad).isSome = true ∧
            ∃ events, s.addProbe now point =
              ⟨s.attached (s.monitor.addTracker s.supervisor.settings.idleThreshold now)
                  (s.supervisor.trackers ++ [s.monitor.trackers.length])
                  ⟨point, s.monitor.trackers.length⟩,
                .ok (some ⟨point, s.monitor.trackers.length⟩), events⟩) := by
  unfold State.addProbe
  dsimp only
  split
  · exact .inl ⟨_, _, rfl, rfl⟩
  · rename_i henabled
    have hon : s.supervisor.settings.enabled = true := by simpa using henabled
    split
    · exact .inl ⟨_, _, rfl, rfl⟩
    · rename_i hserver
      have hstopped : s.supervisor.server = none := by simpa using hserver
      split
      · rename_i hbinding
        split
        · exact .inl ⟨_, _, rfl, rfl⟩
        · rename_i tracker rest htrackers
          rcases s.attach_cases s.monitor s.supervisor.trackers point tracker with
            ⟨failure, hattach⟩ | ⟨hpad, events, hattach⟩
          · exact .inl ⟨_, _, hattach, rfl⟩
          · exact .inr ⟨hon, hstopped,
              .inl ⟨hbinding, tracker, rest, events, htrackers, hpad, hattach⟩⟩
      · rename_i hbinding
        rcases s.attach_cases (s.monitor.addTracker s.supervisor.settings.idleThreshold now)
            (s.supervisor.trackers ++ [s.monitor.trackers.length]) point
            s.monitor.trackers.length with
          ⟨failure, hattach⟩ | ⟨hpad, events, hattach⟩
        · exact .inl ⟨_, _, hattach, rfl⟩
        · exact .inr ⟨hon, hstopped, .inr ⟨hbinding, hpad, events, hattach⟩⟩

/-- A failed addition leaves the state as it was. -/
theorem addProbe_state_of_error {s : State} {now : Duration} {point : Point} {failure : Failure}
    (h : (s.addProbe now point).result = .error failure) : (s.addProbe now point).state = s := by
  rcases s.addProbe_cases now point with ⟨result, events, hkeep, -⟩ |
    ⟨-, -, ⟨-, tracker, rest, events, -, -, heq⟩ | ⟨-, -, events, heq⟩⟩
  · rw [hkeep]
    rfl
  · rw [heq] at h
    cases h
  · rw [heq] at h
    cases h

/-- The state with a server on the current trackers. -/
def State.serving (s : State) (address : String) : State :=
  ⟨{ s.supervisor with server := some ⟨address, s.supervisor.trackers⟩ }, s.monitor⟩

/-- Starting changes nothing, or there is a server on at least one tracker. -/
theorem State.start_cases (s : State) (outcome : BindOutcome) :
    (∃ result events, s.start outcome = s.keep result events) ∨
      s.supervisor.settings.enabled = true ∧ s.supervisor.trackers ≠ [] ∧
        ∃ address events, s.start outcome = ⟨s.serving address, .ok (), events⟩ := by
  unfold State.start
  dsimp only
  split
  · exact .inl ⟨_, _, rfl⟩
  · rename_i henabled
    have hon : s.supervisor.settings.enabled = true := by simpa using henabled
    split
    · exact .inl ⟨_, _, rfl⟩
    · split
      · exact .inl ⟨_, _, rfl⟩
      · rename_i hempty
        have htrackers : s.supervisor.trackers ≠ [] := by simpa using hempty
        cases outcome.spawned s.supervisor.settings.bindAddress with
        | error failure => exact .inl ⟨_, _, rfl⟩
        | ok address => exact .inr ⟨hon, htrackers, address, _, rfl⟩

/-- A failed start leaves the state as it was. -/
theorem start_state_of_error {s : State} {outcome : BindOutcome} {failure : Failure}
    (h : (s.start outcome).result = .error failure) : (s.start outcome).state = s := by
  rcases s.start_cases outcome with ⟨result, events, hkeep⟩ | ⟨-, -, address, events, heq⟩
  · rw [hkeep]
    rfl
  · rw [heq] at h
    cases h

/-- The state without a server. -/
def State.halted (s : State) : State := ⟨{ s.supervisor with server := none }, s.monitor⟩

namespace Session

/-- The session with another state of its supervisor. -/
def withState (s : Session) (state : State) : Session := { s with state := state }

/-- What an observer writes down of one operation, going by its answer. -/
def occurrences (s : Session) : Operation → List Occurrence
  | .addProbe text =>
    (s.addProbe text).answer.probe?.toList.map fun probe => .probed probe.point s.now
  | .push element pad => [.passed ⟨element, pad⟩ s.now]
  | _ => []

/-- What an observer writes down of a run. -/
def history (s : Session) : List Operation → List Occurrence
  | [] => []
  | operation :: rest => s.occurrences operation ++ (s.step operation).session.history rest

/-- The effects of operations, with what is written down of each. -/
inductive Moves (s : Session) : List Occurrence → Session → Prop
  /-- Nothing changes. -/
  | still : s.Moves [] s
  /-- The clock is elsewhere. -/
  | moved (clock : ManualClock) : s.Moves [] { s with clock := clock }
  /-- A probe was attached that feeds the shared tracker. -/
  | joined {point : Point} {tracker : Nat} {rest : List Nat}
      (henabled : s.state.supervisor.settings.enabled = true)
      (hbinding : s.state.supervisor.settings.binding = .shared)
      (hstopped : s.state.supervisor.server = none)
      (htrackers : s.state.supervisor.trackers = tracker :: rest)
      (hpad : (s.state.monitor.topology.pad? point.element point.pad).isSome = true) :
      s.Moves [.probed point s.now] (s.withState
        (s.state.attached s.state.monitor s.state.supervisor.trackers ⟨point, tracker⟩))
  /-- A probe was attached that feeds a tracker made for it. -/
  | added {point : Point}
      (henabled : s.state.supervisor.settings.enabled = true)
      (hbinding : s.state.supervisor.settings.binding = .perProbe)
      (hstopped : s.state.supervisor.server = none)
      (hpad : (s.state.monitor.topology.pad? point.element point.pad).isSome = true) :
      s.Moves [.probed point s.now] (s.withState (s.state.attached
        (s.state.monitor.addTracker s.state.supervisor.settings.idleThreshold s.now)
        (s.state.supervisor.trackers ++ [s.state.monitor.trackers.length])
        ⟨point, s.state.monitor.trackers.length⟩))
  /-- A server was started on the current trackers. -/
  | started (address : String) (henabled : s.state.supervisor.settings.enabled = true)
      (htrackers : s.state.supervisor.trackers ≠ []) :
      s.Moves [] { s with state := s.state.serving address, everBound := true }
  /-- A start changed nothing but whether an address is known to be bound. -/
  | noted : s.Moves [] { s with everBound := s.everBound || s.state.supervisor.isRunning }
  /-- The server was stopped. -/
  | halted : s.Moves [] (s.withState s.state.halted)
  /-- Data passed a point. -/
  | passed (element pad : String) :
      s.Moves [.passed ⟨element, pad⟩ s.now]
        (s.withMonitor (s.state.monitor.push s.now element pad).monitor)
  /-- The server looked at its trackers. -/
  | looked {server : Server} (hserver : s.state.supervisor.server = some server) :
      s.Moves [] (s.withMonitor (s.state.monitor.recordAll s.now server.watched))

/-- Adding a probe by a text that names a point. -/
theorem addProbe_of_point {s : Session} {text : String} {point : Point}
    (h : Point.ofText? text = some point) :
    (s.addProbe text).session = s.withState (s.state.addProbe s.now point).state ∧
      (s.addProbe text).answer.probe? =
        (s.state.addProbe s.now point).result.toOption.join := by
  unfold addProbe
  rw [Point.ofText, h]
  refine ⟨rfl, ?_⟩
  dsimp only
  cases (s.state.addProbe s.now point).result <;> rfl

/-- Adding a probe by a text that names no point. -/
theorem addProbe_of_unreadable (s : Session) {text : String} (h : Point.ofText? text = none) :
    s.addProbe text = ⟨s, .failed (.invalidPoint text), []⟩ := by
  simp only [addProbe, Point.ofText, h]

/-- Adding a probe by its text. -/
theorem addProbe_moves (s : Session) (text : String) :
    s.Moves (s.occurrences (.addProbe text)) (s.addProbe text).session := by
  show s.Moves ((s.addProbe text).answer.probe?.toList.map (.probed ·.point s.now)) _
  cases htext : Point.ofText? text with
  | none =>
    rw [s.addProbe_of_unreadable htext]
    exact .still
  | some point =>
    obtain ⟨hsession, hprobe⟩ := addProbe_of_point (s := s) htext
    rw [hsession, hprobe]
    rcases s.state.addProbe_cases s.now point with
      ⟨result, events, hkeep, hnone⟩ | ⟨henabled, hstopped, hcases⟩
    · rw [hkeep]
      show s.Moves (result.toOption.join.toList.map _) s
      rw [hnone]
      exact .still
    · rcases hcases with ⟨hbinding, tracker, rest, events, htrackers, hpad, heq⟩ |
        ⟨hbinding, hpad, events, heq⟩
      · rw [heq]
        exact .joined henabled hbinding hstopped htrackers hpad
      · rw [heq]
        exact .added henabled hbinding hstopped hpad

/-- Starting the server. -/
theorem start_moves (s : Session) (outcome : BindOutcome) :
    s.Moves [] (s.start outcome).session := by
  unfold start
  dsimp only
  rcases s.state.start_cases outcome with ⟨result, events, hkeep⟩ |
    ⟨henabled, htrackers, address, events, heq⟩
  · rw [hkeep]
    exact .noted
  · have hrunning : (s.everBound || (s.state.serving address).supervisor.isRunning) = true :=
      Bool.or_true _
    rw [heq]
    dsimp only
    rw [hrunning]
    exact .started address henabled htrackers

/-- A request to the server. -/
theorem request_moves (s : Session) (request : Endpoint.Request) (reaches : Bool) :
    s.Moves [] (s.request request reaches).session := by
  unfold Session.request State.serve
  split
  · exact .still
  · split
    · exact .still
    · cases hserver : s.state.supervisor.server with
      | none => exact .still
      | some server =>
        dsimp only [Option.map_some]
        rcases Endpoint.answer_monitor s.state.monitor s.now server.watched request with
          hsame | hlooked
        · rw [hsame]
          exact .still
        · rw [hlooked]
          exact .looked hserver

/-- Every operation has one of the effects. -/
theorem step_moves (s : Session) (operation : Operation) :
    s.Moves (s.occurrences operation) (s.step operation).session := by
  cases operation with
  | addProbe text => exact s.addProbe_moves text
  | start outcome => exact s.start_moves outcome
  | stop =>
    show s.Moves [] (s.withState s.state.stop.state)
    unfold State.stop
    split
    · exact .halted
    · exact .still
  | debug => exact .still
  | request request reaches => exact s.request_moves request reaches
  | push element pad => exact .passed element pad
  | observers element pad => exact .still
  | advance step => exact .moved _
  | set target => exact .moved _

/-- What every effect preserves holds after every run. -/
theorem run_induction {invariant : Session → Prop}
    (hstep : ∀ {s occurrences s'}, invariant s → s.Moves occurrences s' → invariant s')
    {s : Session} (h : invariant s) (operations : List Operation) :
    invariant (s.run operations).1 := by
  induction operations generalizing s with
  | nil => exact h
  | cons operation rest ih => exact ih (hstep h (s.step_moves operation))

end Session

end FlowWatch.Supervisor
