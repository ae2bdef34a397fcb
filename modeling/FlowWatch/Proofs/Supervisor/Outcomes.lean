import FlowWatch.Proofs.Monitor.Layout
import FlowWatch.Proofs.Supervisor.Binding

/-!
# When the operations of a supervisor fail

A probe is refused for its text, because a server runs, or for an element or a
pad that the pipeline does not have. A start is refused because a server runs,
because there is no probe to look at, or by the machine, which may not let it
listen or not have what it takes to serve. Nothing else fails in a
reachable session, and what fails leaves the whole session as it was: no tracker
is made, no probe attached, and no server started or stopped.
-/

namespace FlowWatch

namespace Supervisor

/-- A supervisor that does not run has no server. -/
theorem server_eq_none {s : Supervisor} (h : s.isRunning = false) : s.server = none := by
  unfold isRunning at h
  cases hserver : s.server with
  | none => rfl
  | some server => simp [hserver] at h

/-- Attaching fails with the failure of the topology. -/
theorem State.attach_of_error (s : State) (prepared : Monitor) {point : Point} {tracker : Nat}
    {failure : Failure} (h : prepared.topology.attach ⟨point, tracker⟩ = .error failure)
    (trackers : List Nat) :
    s.attach prepared trackers point tracker = s.keep (.error failure) [] := by
  simp only [State.attach, Monitor.register, h]

/-- Attaching succeeds with the topology. -/
theorem State.attach_of_ok (s : State) (prepared : Monitor) {point : Point} {tracker : Nat}
    (h : prepared.topology.attach ⟨point, tracker⟩ =
      .ok (prepared.topology.place ⟨point, tracker⟩)) (trackers : List Nat) :
    s.attach prepared trackers point tracker =
      ⟨s.attached prepared trackers ⟨point, tracker⟩, .ok (some ⟨point, tracker⟩),
        [.probeRegistered point]⟩ := by
  simp only [State.attach, Monitor.register, h]
  rfl

/-- Without a health check no probe is added. -/
theorem State.addProbe_of_disabled {s : State} (h : s.supervisor.settings.enabled = false)
    (now : Duration) (point : Point) :
    s.addProbe now point = s.keep (.ok none) [.probeSkipped point] := by
  simp only [State.addProbe, h, Bool.not_false, if_true]

/-- Without a health check no server is started. -/
theorem State.start_of_disabled {s : State} (h : s.supervisor.settings.enabled = false)
    (outcome : BindOutcome) : s.start outcome = s.keep (.ok ()) [.checkDisabled] := by
  simp only [State.start, h, Bool.not_false, if_true]

/-- A running server takes no more probes. -/
theorem State.addProbe_of_running {s : State} (henabled : s.supervisor.settings.enabled = true)
    (hrunning : s.supervisor.isRunning = true) (now : Duration) (point : Point) :
    s.addProbe now point = s.keep (.error lateProbe) [] := by
  unfold isRunning at hrunning
  simp only [State.addProbe, henabled, hrunning, Bool.not_true, Bool.false_eq_true, if_false,
    if_true]

/-- A running server is not started again. -/
theorem State.start_of_running {s : State} (henabled : s.supervisor.settings.enabled = true)
    (hrunning : s.supervisor.isRunning = true) (outcome : BindOutcome) :
    s.start outcome = s.keep (.error alreadyRunning) [] := by
  unfold isRunning at hrunning
  simp only [State.start, henabled, hrunning, Bool.not_true, Bool.false_eq_true, if_false,
    if_true]

/-- A state in which probes can be added: the health check is switched on, no
server runs, and a shared tracker is there. -/
structure State.Open (s : State) : Prop where
  /-- The health check is switched on. -/
  enabled : s.supervisor.settings.enabled = true
  /-- No server runs. -/
  stopped : s.supervisor.server = none
  /-- With shared binding there is the tracker. -/
  equipped : s.supervisor.settings.binding = .shared → s.supervisor.trackers ≠ []

namespace State.Open

variable {s : State} {point : Point}

/-- Probes are added by attaching, in both bindings. -/
theorem addProbe_eq (h : s.Open) (now : Duration) (point : Point) :
    ∃ prepared trackers tracker, prepared.topology = s.monitor.topology ∧ trackers ≠ [] ∧
      s.addProbe now point = s.attach prepared trackers point tracker := by
  simp only [State.addProbe, h.enabled, h.stopped, Option.isSome_none, Bool.not_true,
    Bool.false_eq_true, if_false]
  cases hbinding : s.supervisor.settings.binding with
  | shared =>
    cases htrackers : s.supervisor.trackers with
    | nil => exact absurd htrackers (h.equipped hbinding)
    | cons tracker rest => exact ⟨s.monitor, _, tracker, rfl, List.cons_ne_nil _ _, rfl⟩
  | perProbe => exact ⟨s.monitor.addTracker _ _, _, _, rfl, by simp, rfl⟩

/-- A probe is refused for what is missing at its point. -/
theorem addProbe_of_missing (h : s.Open) {failure : Failure}
    (hmissing : s.monitor.topology.Missing point failure) (now : Duration) :
    s.addProbe now point = s.keep (.error failure) [] := by
  obtain ⟨prepared, trackers, tracker, htopology, -, heq⟩ := h.addProbe_eq now point
  rw [heq]
  apply s.attach_of_error
  rw [htopology]
  exact Topology.attach_eq_error_iff.2 hmissing

/-- A probe is attached to an existing pad. More probes can be added then, there is
a tracker to look at, and elements and pads are as before. -/
theorem addProbe_of_pad (h : s.Open)
    (hpad : (s.monitor.topology.pad? point.element point.pad).isSome = true) (now : Duration) :
    ∃ after tracker, s.addProbe now point =
        ⟨after, .ok (some ⟨point, tracker⟩), [.probeRegistered point]⟩ ∧
      after.Open ∧ after.supervisor.settings = s.supervisor.settings ∧
      after.supervisor.trackers ≠ [] ∧ after.monitor.topology.bare = s.monitor.topology.bare := by
  obtain ⟨prepared, trackers, tracker, htopology, hsome, heq⟩ := h.addProbe_eq now point
  have hattach : prepared.topology.attach ⟨point, tracker⟩ =
      .ok (prepared.topology.place ⟨point, tracker⟩) := by
    rw [htopology]
    exact Topology.attach_eq_ok_iff.2 ⟨hpad, rfl⟩
  refine ⟨_, tracker, heq.trans (s.attach_of_ok prepared hattach trackers), ?_, rfl, hsome, ?_⟩
  · exact ⟨h.enabled, h.stopped, fun _ => hsome⟩
  · rw [← htopology]
    exact prepared.topology.bare_place _

/-- Without a tracker there is nothing that a server could look at. -/
theorem start_of_nil (h : s.Open) (hnone : s.supervisor.trackers = []) (outcome : BindOutcome) :
    s.start outcome = s.keep (.error needsProbe) [] := by
  simp only [State.start, h.enabled, h.stopped, hnone, Option.isSome_none, Bool.not_true,
    Bool.false_eq_true, if_false, List.isEmpty_nil, if_true]

/-- The machine may not let a server listen or run. -/
theorem start_refused (h : s.Open) (hsome : s.supervisor.trackers ≠ []) {outcome : BindOutcome}
    {failure : Failure}
    (hspawned : outcome.spawned s.supervisor.settings.bindAddress = .error failure) :
    s.start outcome = s.keep (.error failure)
      (if s.supervisor.probes.isEmpty then [.startedWithoutProbes] else []) := by
  simp only [State.start, h.enabled, h.stopped, List.isEmpty_iff, hsome, Option.isSome_none,
    Bool.not_true, Bool.false_eq_true, if_false, hspawned]

/-- Otherwise the server runs on the current trackers. -/
theorem start_bound (h : s.Open) (hsome : s.supervisor.trackers ≠ []) (address : String) :
    ∃ events, s.start (.bound address) = ⟨s.serving address, .ok (), events⟩ := by
  simp only [State.start, h.enabled, h.stopped, List.isEmpty_iff, hsome, Option.isSome_none,
    Bool.not_true, Bool.false_eq_true, if_false]
  exact ⟨_, rfl⟩

end State.Open

namespace Session

variable {s : Session} {settings : HealthSettings} {first : Nat}

/-- What adding a probe leads to if the supervisor adds it. -/
theorem addProbe_of_ok {text : String} {point : Point} {state : State} {probe : Option Probe}
    {events : List Log.Event} (htext : Point.ofText? text = some point)
    (hadd : s.state.addProbe s.now point = ⟨state, .ok probe, events⟩) :
    s.addProbe text = ⟨s.withState state, .added probe, events⟩ := by
  simp only [addProbe, Point.ofText, htext, hadd]
  rfl

/-- What adding a probe leads to if the supervisor refuses it. -/
theorem addProbe_of_error {text : String} {point : Point} {state : State} {failure : Failure}
    {events : List Log.Event} (htext : Point.ofText? text = some point)
    (hadd : s.state.addProbe s.now point = ⟨state, .error failure, events⟩) :
    s.addProbe text = ⟨s.withState state, .failed failure, events⟩ := by
  simp only [addProbe, Point.ofText, htext, hadd]
  rfl

/-- What starting leads to if the supervisor refuses it. -/
theorem start_of_error {outcome : BindOutcome} {failure : Failure} {events : List Log.Event}
    (hstart : s.state.start outcome = s.state.keep (.error failure) events) :
    s.start outcome = ⟨{ s with everBound := s.everBound || s.state.supervisor.isRunning },
      .failed failure, events⟩ := by
  simp only [start, hstart]
  rfl

/-- A running session starts no other server. -/
theorem start_of_running (henabled : s.state.supervisor.settings.enabled = true)
    (hrunning : s.state.supervisor.isRunning = true) (outcome : BindOutcome) :
    s.start outcome =
      ⟨{ s with everBound := s.everBound || s.state.supervisor.isRunning },
        .failed alreadyRunning, []⟩ :=
  start_of_error (State.start_of_running henabled hrunning outcome)

/-- A stopped session with trackers reports why it cannot listen or serve. -/
theorem start_refused (h : s.state.Open) (hsome : s.state.supervisor.trackers ≠ [])
    {outcome : BindOutcome} {failure : Failure}
    (hspawned : outcome.spawned s.state.supervisor.settings.bindAddress = .error failure) :
    ∃ events, s.start outcome =
      ⟨{ s with everBound := s.everBound || s.state.supervisor.isRunning },
        .failed failure, events⟩ :=
  ⟨_, start_of_error (h.start_refused hsome hspawned)⟩

/-- A stopped session with trackers starts its server. -/
theorem start_bound (h : s.state.Open) (hsome : s.state.supervisor.trackers ≠ [])
    (address : String) :
    ∃ events, s.start (.bound address) =
      ⟨{ s with state := s.state.serving address, everBound := true }, .started, events⟩ := by
  obtain ⟨events, hstart⟩ := h.start_bound hsome address
  have hbound : (s.everBound || (s.state.serving address).supervisor.isRunning) = true :=
    Bool.or_true _
  refine ⟨events, ?_⟩
  simp only [start, hstart, hbound]

/-- Stopping leaves no server, and everything else as it was. -/
theorem stop_session (s : Session) : (s.step .stop).session = s.withState s.state.halted := by
  show s.withState s.state.stop.state = _
  unfold State.stop State.halted
  cases hserver : s.state.supervisor.server with
  | some server => rfl
  | none =>
    show s.withState s.state = _
    rw [← hserver]

/-- Without a server nobody answers at an address that was bound before. -/
theorem request_of_stopped (hstopped : s.state.supervisor.isRunning = false)
    (hbound : s.everBound = true) (r : Endpoint.Request) (reaches : Bool) :
    s.request r reaches = ⟨s, .notServing, []⟩ := by
  simp only [Session.request, State.serve, server_eq_none hstopped, hbound, Option.map_none,
    Bool.not_true, Bool.false_eq_true, if_false, ite_self]

/-- Before any server there is no address to send a request to. -/
theorem request_of_unbound (hbound : s.everBound = false) (r : Endpoint.Request)
    (reaches : Bool) : s.request r reaches = ⟨s, .neverBound, []⟩ := by
  simp only [Session.request, hbound, Bool.not_false, if_true]

/-- Why an operation fails. -/
inductive Fails (s : Session) : Operation → Failure → Prop
  /-- The text names no point. -/
  | unreadable {text : String} (htext : Point.ofText? text = none) :
      s.Fails (.addProbe text) (.invalidPoint text)
  /-- A server runs, which would not look at the probe. -/
  | late {text : String} {point : Point} (htext : Point.ofText? text = some point)
      (henabled : s.state.supervisor.settings.enabled = true)
      (hrunning : s.state.supervisor.isRunning = true) : s.Fails (.addProbe text) lateProbe
  /-- The element of the point or its pad does not exist. -/
  | missing {text : String} {point : Point} {failure : Failure}
      (htext : Point.ofText? text = some point)
      (henabled : s.state.supervisor.settings.enabled = true)
      (hstopped : s.state.supervisor.isRunning = false)
      (hmissing : s.state.monitor.topology.Missing point failure) :
      s.Fails (.addProbe text) failure
  /-- A server runs already. -/
  | running {outcome : BindOutcome} (henabled : s.state.supervisor.settings.enabled = true)
      (hrunning : s.state.supervisor.isRunning = true) : s.Fails (.start outcome) alreadyRunning
  /-- Every probe has its tracker, and there is no probe. -/
  | unprobed {outcome : BindOutcome} (henabled : s.state.supervisor.settings.enabled = true)
      (hstopped : s.state.supervisor.isRunning = false)
      (hbinding : s.state.supervisor.settings.binding = .perProbe)
      (hnone : s.state.supervisor.probes = []) : s.Fails (.start outcome) needsProbe
  /-- The machine does not let the server listen, or has no runtime or no thread for it. -/
  | refused {outcome : BindOutcome} {failure : Failure}
      (henabled : s.state.supervisor.settings.enabled = true)
      (hstopped : s.state.supervisor.isRunning = false)
      (hprobed : s.state.supervisor.settings.binding = .perProbe →
        s.state.supervisor.probes ≠ [])
      (hspawned : outcome.spawned s.state.supervisor.settings.bindAddress = .error failure) :
      s.Fails (.start outcome) failure

/-- A linked session without a server can have probes added. -/
theorem Linked.open (h : s.Linked settings first)
    (henabled : s.state.supervisor.settings.enabled = true)
    (hstopped : s.state.supervisor.isRunning = false) : s.state.Open := by
  refine ⟨henabled, server_eq_none hstopped, fun hbinding => ?_⟩
  rw [h.configured] at henabled hbinding
  rw [(h.shared henabled hbinding).1]
  exact List.cons_ne_nil _ _

/-- A linked session has no tracker exactly if each probe has its own and there is
none. -/
theorem Linked.trackers_eq_nil_iff (h : s.Linked settings first)
    (henabled : s.state.supervisor.settings.enabled = true) :
    s.state.supervisor.trackers = [] ↔
      s.state.supervisor.settings.binding = .perProbe ∧ s.state.supervisor.probes = [] := by
  rw [h.configured] at henabled ⊢
  cases hbinding : settings.binding with
  | shared =>
    rw [(h.shared henabled hbinding).1]
    simp
  | perProbe =>
    rw [(h.perProbe henabled hbinding).1, List.range'_eq_nil_iff, List.length_eq_zero_iff]
    simp

/-- A start that is refused leaves a linked session as it was: the address of a
running server is known. -/
theorem Linked.start_of_error (h : s.Linked settings first) {outcome : BindOutcome}
    {failure : Failure} {events : List Log.Event}
    (hstart : s.state.start outcome = s.state.keep (.error failure) events) :
    s.start outcome = ⟨s, .failed failure, events⟩ := by
  have hbound : (s.everBound || s.state.supervisor.isRunning) = s.everBound := by
    cases hrunning : s.state.supervisor.isRunning with
    | false => exact Bool.or_false _
    | true =>
      obtain ⟨server, hserver⟩ := Option.isSome_iff_exists.1 hrunning
      rw [(h.served server hserver).2.2]
      rfl
  rw [Session.start_of_error hstart, hbound]

/-- An operation that has a reason to fail does so, and changes nothing. -/
theorem Linked.step_of_fails (h : s.Linked settings first) {operation : Operation}
    {failure : Failure} (hfails : s.Fails operation failure) :
    ∃ events, s.step operation = ⟨s, .failed failure, events⟩ := by
  cases hfails with
  | unreadable htext => exact ⟨[], s.addProbe_of_unreadable htext⟩
  | late htext henabled hrunning =>
    exact ⟨_, addProbe_of_error htext (State.addProbe_of_running henabled hrunning s.now _)⟩
  | missing htext henabled hstopped hmissing =>
    have hopen := h.open henabled hstopped
    exact ⟨_, addProbe_of_error htext (hopen.addProbe_of_missing hmissing s.now)⟩
  | running henabled hrunning =>
    exact ⟨_, h.start_of_error (State.start_of_running henabled hrunning _)⟩
  | unprobed henabled hstopped hbinding hnone =>
    have htrackers := (h.trackers_eq_nil_iff henabled).2 ⟨hbinding, hnone⟩
    exact ⟨_, h.start_of_error ((h.open henabled hstopped).start_of_nil htrackers _)⟩
  | refused henabled hstopped hprobed hspawned =>
    have hsome : s.state.supervisor.trackers ≠ [] := by
      intro hnil
      obtain ⟨hbinding, hnone⟩ := (h.trackers_eq_nil_iff henabled).1 hnil
      exact hprobed hbinding hnone
    exact ⟨_, h.start_of_error ((h.open henabled hstopped).start_refused hsome hspawned)⟩

/-- Adding a probe fails for a reason, or says what was added. -/
theorem Linked.addProbe_cases (h : s.Linked settings first) (text : String) :
    (∃ failure, s.Fails (.addProbe text) failure) ∨
      ∃ probe, (s.addProbe text).answer = .added probe := by
  cases htext : Point.ofText? text with
  | none => exact .inl ⟨_, .unreadable htext⟩
  | some point =>
    cases henabled : s.state.supervisor.settings.enabled with
    | false =>
      have hadd := addProbe_of_ok htext (State.addProbe_of_disabled henabled s.now point)
      exact .inr ⟨_, congrArg Stepped.answer hadd⟩
    | true =>
      cases hrunning : s.state.supervisor.isRunning with
      | true => exact .inl ⟨_, .late htext henabled hrunning⟩
      | false =>
        rcases s.state.monitor.topology.pad_or_missing point with hpad | ⟨failure, hmissing⟩
        · obtain ⟨after, tracker, heq, -⟩ :=
            (h.open henabled hrunning).addProbe_of_pad hpad s.now
          exact .inr ⟨_, congrArg Stepped.answer (addProbe_of_ok htext heq)⟩
        · exact .inl ⟨failure, .missing htext henabled hrunning hmissing⟩

/-- Starting fails for a reason, or there is a server at the address that the
machine gave. -/
theorem Linked.start_cases (h : s.Linked settings first)
    (henabled : s.state.supervisor.settings.enabled = true) (outcome : BindOutcome) :
    (∃ failure, s.Fails (.start outcome) failure) ∨
      ∃ address events, outcome = .bound address ∧ s.start outcome =
        ⟨{ s with state := s.state.serving address, everBound := true }, .started, events⟩ := by
  cases hrunning : s.state.supervisor.isRunning with
  | true => exact .inl ⟨_, .running henabled hrunning⟩
  | false =>
    have hnil_iff := h.trackers_eq_nil_iff henabled
    by_cases hnil : s.state.supervisor.trackers = []
    · obtain ⟨hbinding, hnone⟩ := hnil_iff.1 hnil
      exact .inl ⟨_, .unprobed henabled hrunning hbinding hnone⟩
    · cases hspawned : outcome.spawned s.state.supervisor.settings.bindAddress with
      | error failure =>
        have hprobed : s.state.supervisor.settings.binding = .perProbe →
            s.state.supervisor.probes ≠ [] :=
          fun hbinding hnone => hnil (hnil_iff.2 ⟨hbinding, hnone⟩)
        exact .inl ⟨failure, .refused henabled hrunning hprobed hspawned⟩
      | ok address =>
        obtain rfl := BindOutcome.spawned_eq_ok_iff.1 hspawned
        obtain ⟨events, heq⟩ := start_bound (h.open henabled hrunning) hnil address
        exact .inr ⟨address, events, rfl, heq⟩

/-- A request does not fail as an operation. -/
theorem request_answer_ne (s : Session) (request : Endpoint.Request) (reaches : Bool)
    (failure : Failure) : (s.request request reaches).answer ≠ .failed failure := by
  unfold Session.request
  split
  · simp
  · split
    · simp
    · split <;> simp

/-- Every operation of a linked session has a reason to fail, or it does not. -/
theorem Linked.fails_or_succeeds (h : s.Linked settings first) (operation : Operation) :
    (∃ failure, s.Fails operation failure) ∨
      ∀ failure, (s.step operation).answer ≠ .failed failure := by
  cases operation with
  | addProbe text =>
    rcases h.addProbe_cases text with hfails | ⟨probe, hadded⟩
    · exact .inl hfails
    · exact .inr fun failure => by simp [step, hadded]
  | start outcome =>
    cases henabled : s.state.supervisor.settings.enabled with
    | false =>
      have hstart := State.start_of_disabled henabled outcome
      exact .inr fun failure => by simp [step, Session.start, hstart, State.keep]
    | true =>
      rcases h.start_cases henabled outcome with hfails | ⟨address, events, -, heq⟩
      · exact .inl hfails
      · exact .inr fun failure => by simp [step, heq]
  | request request reaches => exact .inr (s.request_answer_ne request reaches)
  | stop | debug | push | observers | advance | set => exact .inr fun failure => nofun

/-- An operation of a linked session fails exactly if there is a reason to. -/
theorem Linked.failed_iff (h : s.Linked settings first) {operation : Operation}
    {failure : Failure} :
    (s.step operation).answer = .failed failure ↔ s.Fails operation failure := by
  constructor
  · intro hfailed
    rcases h.fails_or_succeeds operation with ⟨reason, hfails⟩ | hsucceeds
    · obtain ⟨events, heq⟩ := h.step_of_fails hfails
      rw [heq] at hfailed
      obtain rfl := Answer.failed.inj hfailed
      exact hfails
    · exact absurd hfailed (hsucceeds failure)
  · intro hfails
    obtain ⟨events, heq⟩ := h.step_of_fails hfails
    rw [heq]

end Session

end Supervisor

end FlowWatch
