import FlowWatch.Proofs.Supervisor.Liveness
import FlowWatch.Proofs.Supervisor.Outcomes

/-!
# When the server runs

A server is there from a start that succeeds up to the next stop, whatever happens
in between. So the log of operations and answers tells whether there is one, at
which address, and what becomes of a request. Failures do not show in that log:
they leave the session as it was.
-/

namespace FlowWatch.Supervisor

/-- What an operation did to the server. -/
inductive Switch
  /-- There is a server at this address now. -/
  | on (address : String)
  /-- There is no server any more. -/
  | off
  deriving DecidableEq

/-- The address of the server after a switch, if there is one. -/
def Switch.address? : Switch → Option String
  | .on address => some address
  | .off => none

/-- What an operation did to the server, going by its answer. -/
def Operation.switch? : Operation → Answer → Option Switch
  | .start (.bound address), .started => some (.on address)
  | .stop, _ => some .off
  | _, _ => none

/-- What operations did to the server, in order, going by their answers. -/
def switches (operations : List Operation) (answers : List Answer) : List Switch :=
  (operations.zip answers).filterMap fun entry => entry.1.switch? entry.2

namespace Session

variable {s : Session} {settings : HealthSettings} {first : Nat} {log : List Switch}

/-- The server of a session is the one that the last switch left, and an address is
known if there ever was one. -/
structure Follows (s : Session) (log : List Switch) : Prop where
  /-- The server has the address of the last switch. -/
  address : s.state.supervisor.localAddress? = log.getLast?.bind Switch.address?
  /-- Some switch was the start of a server. -/
  bound : s.everBound = true ↔ ∃ address, .on address ∈ log

/-- A new session has had no server. -/
theorem follows_fresh (settings : HealthSettings) (monitor : Monitor) (clock : ManualClock) :
    (fresh settings monitor clock).Follows [] := by
  have hserver : (fresh settings monitor clock).state.supervisor.server = none := by
    unfold fresh Supervisor.make
    split <;> rfl
  constructor
  · rw [localAddress?, hserver]
    rfl
  · simp [fresh]

/-- What leaves the server alone is not written down. -/
theorem Follows.of_same {s' : Session} (h : s.Follows log)
    (hserver : s'.state.supervisor.server = s.state.supervisor.server)
    (hbound : s'.everBound = s.everBound) : s'.Follows (log ++ (none : Option Switch).toList) := by
  rw [Option.toList_none, List.append_nil]
  constructor
  · rw [localAddress?, hserver]
    exact h.address
  · rw [hbound]
    exact h.bound

/-- Adding a probe leaves the server alone. -/
theorem addProbe_server (s : Session) (text : String) :
    (s.addProbe text).session.state.supervisor.server = s.state.supervisor.server ∧
      (s.addProbe text).session.everBound = s.everBound := by
  cases htext : Point.ofText? text with
  | none =>
    rw [s.addProbe_of_unreadable htext]
    exact ⟨rfl, rfl⟩
  | some point =>
    rw [(addProbe_of_point htext).1]
    refine ⟨?_, rfl⟩
    rcases s.state.addProbe_cases s.now point with ⟨result, events, hkeep, -⟩ |
      ⟨-, -, ⟨-, tracker, rest, events, -, -, heq⟩ | ⟨-, -, events, heq⟩⟩
    · rw [hkeep]
      rfl
    · rw [heq]
      rfl
    · rw [heq]
      rfl

/-- A request leaves the server alone. -/
theorem request_server (s : Session) (request : Endpoint.Request) (reaches : Bool) :
    (s.request request reaches).session.state.supervisor.server = s.state.supervisor.server ∧
      (s.request request reaches).session.everBound = s.everBound := by
  unfold Session.request State.serve
  split
  · exact ⟨rfl, rfl⟩
  · split
    · exact ⟨rfl, rfl⟩
    · cases hserver : s.state.supervisor.server with
      | none => exact ⟨hserver, rfl⟩
      | some server => exact ⟨hserver, rfl⟩

/-- A start that fails leaves the log as it is, and one that does not is written
down. -/
theorem Follows.start (h : s.Follows log) (hlinked : s.Linked settings first)
    (henabled : settings.enabled = true) (outcome : BindOutcome) :
    (s.start outcome).session.Follows
      (log ++ ((Operation.start outcome).switch? (s.start outcome).answer).toList) := by
  have hon : s.state.supervisor.settings.enabled = true := hlinked.configured ▸ henabled
  rcases hlinked.start_cases hon outcome with ⟨failure, hfails⟩ | ⟨address, events, rfl, heq⟩
  · obtain ⟨events, heq⟩ := hlinked.step_of_fails hfails
    have hstart : s.start outcome = ⟨s, .failed failure, events⟩ := heq
    have hnone : (Operation.start outcome).switch? (.failed failure) = none := by
      cases outcome <;> rfl
    rw [hstart, hnone]
    exact h.of_same rfl rfl
  · rw [heq]
    constructor
    · show some address = (log ++ [Switch.on address]).getLast?.bind Switch.address?
      rw [List.getLast?_concat]
      rfl
    · exact iff_of_true rfl ⟨address, List.mem_append_right log (List.mem_singleton_self _)⟩

/-- A stop is written down. -/
theorem Follows.stop (h : s.Follows log) : (s.step .stop).session.Follows (log ++ [.off]) := by
  rw [s.stop_session]
  constructor
  · show none = (log ++ [Switch.off]).getLast?.bind Switch.address?
    rw [List.getLast?_concat]
    rfl
  · show s.everBound = true ↔ _
    rw [h.bound]
    simp

/-- Every operation of a linked session is written down for what it did. -/
theorem Follows.step (h : s.Follows log) (hlinked : s.Linked settings first)
    (henabled : settings.enabled = true) (operation : Operation) :
    (s.step operation).session.Follows
      (log ++ (operation.switch? (s.step operation).answer).toList) := by
  cases operation with
  | start outcome => exact h.start hlinked henabled outcome
  | stop => exact h.stop
  | addProbe text =>
    obtain ⟨hserver, hbound⟩ := s.addProbe_server text
    exact h.of_same hserver hbound
  | request request reaches =>
    obtain ⟨hserver, hbound⟩ := s.request_server request reaches
    exact h.of_same hserver hbound
  | debug | push | observers | advance | set => exact h.of_same rfl rfl

/-- A run is written down operation by operation. The log so far is part of the
induction, since the rest is written behind it. -/
theorem Follows.run (h : s.Follows log) (hlinked : s.Linked settings first)
    (henabled : settings.enabled = true) (operations : List Operation) :
    (s.run operations).1.Follows (log ++ switches operations (s.run operations).2) := by
  induction operations generalizing s log with
  | nil =>
    show s.Follows (log ++ [])
    rw [List.append_nil]
    exact h
  | cons operation rest ih =>
    have hnext := ih (h.step hlinked henabled operation)
      (hlinked.moves (s.step_moves operation))
    rw [List.append_assoc] at hnext
    have hcons : switches (operation :: rest) (s.run (operation :: rest)).2 =
        (operation.switch? (s.step operation).answer).toList ++
          switches rest ((s.step operation).session.run rest).2 := by
      simp only [switches, Session.run, List.zip_cons_cons, List.filterMap_cons]
      cases operation.switch? (s.step operation).answer <;> rfl
    rw [hcons]
    exact hnext

/-- The server of a session that follows a log runs exactly if the last switch was
its start. -/
theorem Follows.isRunning_iff (h : s.Follows log) :
    s.state.supervisor.isRunning = true ↔ ∃ address, log.getLast? = some (.on address) := by
  have hrunning : s.state.supervisor.isRunning = s.state.supervisor.localAddress?.isSome :=
    Option.isSome_map.symm
  rw [hrunning, h.address]
  cases log.getLast? with
  | none => simp
  | some last => cases last <;> simp [Switch.address?]

/-- The server of a session that follows a log is at the address of its start. -/
theorem Follows.address_iff (h : s.Follows log) (address : String) :
    s.state.supervisor.localAddress? = some address ↔ log.getLast? = some (.on address) := by
  rw [h.address]
  cases log.getLast? with
  | none => simp
  | some last => cases last <;> simp [Switch.address?]

/-- In every reachable session. An operation fails exactly for one of the reasons
there are, and then the whole session is as it was, and a server that was running
answers as before. A stop keeps the trackers and the probes with all that the
monitor holds, leaves no server, changes nothing where there was none, and a second
one changes nothing. With the health check switched on, there is a bound address and
a running server exactly if the last switch of the log was a start, at the address
of that start. Requests are then answered by the router over the current trackers.
Otherwise nobody answers, or, without any start in the log, there is no address. -/
theorem reachable_lifecycle (settings : HealthSettings) (monitor : Monitor) (clock : ManualClock)
    (operations : List Operation) :
    let start := fresh settings monitor clock
    let s := (start.run operations).1
    let log := switches operations (start.run operations).2
    let supervisor := s.state.supervisor
    let answered := Endpoint.answer s.state.monitor s.now supervisor.trackers
    let stopped := (s.step .stop).session
    (∀ operation failure, (s.step operation).answer = .failed failure ↔
        s.Fails operation failure) ∧
      (∀ operation failure, s.Fails operation failure →
        let after := (s.step operation).session
        after = s ∧ (supervisor.isRunning = true → ∀ r,
          (after.request r true).answer = .response (r.bodiless (answered r).response))) ∧
      (stopped.state.supervisor.trackers = supervisor.trackers ∧
        stopped.state.supervisor.probes = supervisor.probes ∧
        stopped.state.monitor = s.state.monitor ∧
        stopped.state.supervisor.isRunning = false ∧
        (supervisor.isRunning = false → stopped = s) ∧
        (stopped.step .stop).session = stopped) ∧
      (settings.enabled = true →
        (∀ address, supervisor.localAddress? = some address ↔
          log.getLast? = some (.on address)) ∧
        (supervisor.isRunning = true ↔ ∃ address, log.getLast? = some (.on address)) ∧
        ((∃ address, log.getLast? = some (.on address)) → ∀ r, s.request r true =
          ⟨s.withMonitor (answered r).monitor, .response (r.bodiless (answered r).response),
            []⟩) ∧
        ((∀ address, log.getLast? ≠ some (.on address)) → (∃ address, .on address ∈ log) →
          ∀ r reaches, s.request r reaches = ⟨s, .notServing, []⟩) ∧
        ((∀ address, .on address ∉ log) →
          ∀ r reaches, s.request r reaches = ⟨s, .neverBound, []⟩)) := by
  intro start s log supervisor answered stopped
  have hlinked : s.Linked settings monitor.trackers.length :=
    linked_run settings monitor clock operations
  have hstopped : stopped = s.withState s.state.halted := s.stop_session
  have hhalted : ∀ p : Session, p.state.supervisor.isRunning = false →
      (p.step .stop).session = p := by
    intro p hp
    have hserver := server_eq_none hp
    show p.withState p.state.stop.state = p
    rw [State.stop, hserver]
    rfl
  refine ⟨fun operation failure => hlinked.failed_iff, fun operation failure hfails => ?_, ?_,
    fun henabled => ?_⟩
  · obtain ⟨events, heq⟩ := hlinked.step_of_fails hfails
    rw [heq]
    refine ⟨rfl, fun hrunning r => ?_⟩
    exact congrArg Stepped.answer (hlinked.request_running hrunning r)
  · refine ⟨?_, ?_, ?_, ?_, hhalted s, hhalted stopped ?_⟩ <;> rw [hstopped] <;> rfl
  · have hfollows : s.Follows log :=
      (follows_fresh settings monitor clock).run (linked_fresh settings monitor clock) henabled
        operations
    refine ⟨hfollows.address_iff, hfollows.isRunning_iff, fun hlast => ?_, fun hlast hon => ?_,
      fun hnone => ?_⟩
    · exact hlinked.request_running (hfollows.isRunning_iff.2 hlast)
    · have hoff : supervisor.isRunning = false := by
        rw [← Bool.not_eq_true, hfollows.isRunning_iff]
        exact not_exists.2 hlast
      exact request_of_stopped hoff (hfollows.bound.2 hon)
    · have hunbound : s.everBound = false := by
        rw [← Bool.not_eq_true, hfollows.bound]
        exact not_exists.2 hnone
      exact request_of_unbound hunbound

/-- Starts and additions that fail before, between and after two servers, of which
the first is stopped twice. -/
def restarted : List Operation :=
  [.start (.bound "127.0.0.1:8080"), .addProbe "nowhere", .addProbe "sink",
    .start (.refused "in use"), .start (.bound "127.0.0.1:8080"), .addProbe "sink", .stop, .stop,
    .start (.bound "127.0.0.1:8081"), .start (.bound "127.0.0.1:8082")]

/-- After these operations the server is at its second address, a request gets its
verdict, and one more probe is refused. -/
theorem restarted_session :
    let s := ((fresh watchful occupied ManualClock.origin).run restarted).1
    s.state.supervisor.localAddress? = some "127.0.0.1:8081" ∧
      (s.request ⟨"HEAD", "/ishealthy"⟩ true).answer = .response ⟨500, ""⟩ ∧
      (s.step (.addProbe "sink")).session = s := by
  intro s
  obtain ⟨hfailed, hkept, -, hfollows⟩ :=
    reachable_lifecycle watchful occupied ManualClock.origin restarted
  obtain ⟨haddress, -, hserved, -, -⟩ := hfollows rfl
  have hlast : (switches restarted
      ((fresh watchful occupied ManualClock.origin).run restarted).2).getLast? =
        some (.on "127.0.0.1:8081") := by decide +kernel
  have hlate : (s.step (.addProbe "sink")).answer = .failed lateProbe := by decide +kernel
  refine ⟨(haddress _).2 hlast, ?_, (hkept _ _ ((hfailed _ _).1 hlate)).1⟩
  rw [hserved ⟨_, hlast⟩]
  decide +kernel

end Session

end FlowWatch.Supervisor
