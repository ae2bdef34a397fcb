import FlowWatch.Proofs.Supervisor.Liveness
import FlowWatch.Proofs.Supervisor.Outcomes

/-!
# A health check that is switched off

Without a health check the supervisor has nothing and does nothing: probes are
added and servers are started only in name. A run is the same as the one without
the additions, which leave the session as it was wherever they stand.
-/

namespace FlowWatch.Supervisor

/-- Whether an operation adds a probe. -/
def Operation.addsProbe : Operation → Bool
  | .addProbe _ => true
  | _ => false

namespace Session

variable {s : Session}

/-- A session without a health check, and with nothing that belongs to one. -/
structure Dormant (s : Session) : Prop where
  /-- The health check is switched off. -/
  disabled : s.state.supervisor.settings.enabled = false
  /-- There is no tracker. -/
  trackers : s.state.supervisor.trackers = []
  /-- There is no probe. -/
  probes : s.state.supervisor.probes = []
  /-- There is no server. -/
  stopped : s.state.supervisor.isRunning = false
  /-- There never was one. -/
  unbound : s.everBound = false

/-- A new session without a health check has nothing. -/
theorem dormant_fresh {settings : HealthSettings} (hoff : settings.enabled = false)
    (monitor : Monitor) (clock : ManualClock) : (fresh settings monitor clock).Dormant := by
  have hstate : (fresh settings monitor clock).state = ⟨⟨settings, [], [], none⟩, monitor⟩ := by
    simp [fresh, Supervisor.make, hoff]
  constructor
  · rw [hstate]
    exact hoff
  · rw [hstate]
  · rw [hstate]
  · rw [hstate]
    rfl
  · rfl

namespace Dormant

/-- A point is read, but no probe is added there. -/
theorem addProbe_of_point (h : s.Dormant) {text : String} {point : Point}
    (htext : Point.ofText? text = some point) :
    s.addProbe text = ⟨s, .added none, [.probeSkipped point]⟩ :=
  addProbe_of_ok htext (State.addProbe_of_disabled h.disabled s.now point)

/-- Adding a probe leaves a session as it was, whatever the text. -/
theorem addProbe_session (h : s.Dormant) (text : String) : (s.addProbe text).session = s := by
  cases htext : Point.ofText? text with
  | none => rw [s.addProbe_of_unreadable htext]
  | some point => rw [h.addProbe_of_point htext]

/-- A start succeeds without asking the machine to listen. -/
theorem start_eq (h : s.Dormant) (outcome : BindOutcome) :
    s.start outcome = ⟨s, .started, [.checkDisabled]⟩ := by
  have hbound : (s.everBound || s.state.supervisor.isRunning) = s.everBound := by
    rw [h.stopped, Bool.or_false]
  simp only [Session.start, State.start_of_disabled h.disabled outcome, State.keep, hbound]

/-- Every effect keeps a session dormant, and the topology as it is. -/
theorem moves (h : s.Dormant) {s' : Session} {occurrences : List Occurrence}
    (hmoves : s.Moves occurrences s') :
    s'.Dormant ∧ s'.state.monitor.topology = s.state.monitor.topology := by
  have hoff : s.state.supervisor.settings.enabled ≠ true := by
    rw [h.disabled]
    exact Bool.false_ne_true
  cases hmoves with
  | still => exact ⟨h, rfl⟩
  | moved clock => exact ⟨⟨h.disabled, h.trackers, h.probes, h.stopped, h.unbound⟩, rfl⟩
  | joined henabled => exact absurd henabled hoff
  | added henabled => exact absurd henabled hoff
  | started address henabled => exact absurd henabled hoff
  | noted =>
    refine ⟨⟨h.disabled, h.trackers, h.probes, h.stopped, ?_⟩, rfl⟩
    show (s.everBound || s.state.supervisor.isRunning) = false
    rw [h.unbound, h.stopped]
    rfl
  | halted => exact ⟨⟨h.disabled, h.trackers, h.probes, rfl, h.unbound⟩, rfl⟩
  | passed element pad =>
    exact ⟨⟨h.disabled, h.trackers, h.probes, h.stopped, h.unbound⟩,
      s.state.monitor.push_topology s.now element pad⟩
  | @looked server _ =>
    exact ⟨⟨h.disabled, h.trackers, h.probes, h.stopped, h.unbound⟩,
      s.state.monitor.recordAll_topology s.now server.watched⟩

/-- Every run keeps a session dormant, and the topology as it is. -/
theorem run (h : s.Dormant) (operations : List Operation) :
    (s.run operations).1.Dormant ∧
      (s.run operations).1.state.monitor.topology = s.state.monitor.topology := by
  have hstep : ∀ {p : Session} {occurrences} {p' : Session}, p.Dormant ∧
      p.state.monitor.topology = s.state.monitor.topology → p.Moves occurrences p' →
        p'.Dormant ∧ p'.state.monitor.topology = s.state.monitor.topology := by
    intro p occurrences p' hp hmoves
    obtain ⟨hdormant, htopology⟩ := hp.1.moves hmoves
    exact ⟨hdormant, htopology.trans hp.2⟩
  exact run_induction hstep ⟨h, rfl⟩ operations

/-- Every operation of a run gets the answer of a dormant session. -/
theorem exists_answer (h : s.Dormant) {operations : List Operation} {i : Nat}
    {operation : Operation} (hi : operations[i]? = some operation) :
    ∃ p : Session, p.Dormant ∧ (s.run operations).2[i]? = some (p.step operation).answer := by
  induction operations generalizing s i with
  | nil => simp at hi
  | cons head rest ih =>
    cases i with
    | zero =>
      obtain rfl := Option.some.inj hi
      exact ⟨s, h, rfl⟩
    | succ i => exact ih (h.moves (s.step_moves head)).1 hi

/-- A run is the one without the operations that add probes: it ends in the same
session, and every other operation has the same answer. An addition that is left out
has changed nothing. -/
theorem run_filter (h : s.Dormant) (operations : List Operation) :
    let others := operations.filter (!·.addsProbe)
    (s.run others).1 = (s.run operations).1 ∧
      others.zip (s.run others).2 =
        (operations.zip (s.run operations).2).filter (!·.1.addsProbe) := by
  induction operations generalizing s with
  | nil => exact ⟨rfl, rfl⟩
  | cons operation rest ih =>
    obtain ⟨hsession, hanswers⟩ := ih (h.moves (s.step_moves operation)).1
    cases hadds : operation.addsProbe with
    | true =>
      have hsame : (s.step operation).session = s := by
        cases operation with
        | addProbe text => exact h.addProbe_session text
        | _ => simp [Operation.addsProbe] at hadds
      rw [hsame] at hsession hanswers
      simpa [Session.run, hadds, hsame] using ⟨hsession, hanswers⟩
    | false => simpa [Session.run, hadds] using ⟨hsession, hanswers⟩

end Dormant

/-- Without a health check, over any monitor and in every run, whatever the machine
says about listening. Adding a probe at a point succeeds without a probe, whether the
point exists or not, and a start succeeds, but no address is ever bound. The
supervisor has no tracker, no probe, no address and no server. At every point there
are the probes that were there, and the run ends in the same session and gives all
other operations the same answers as the run without the additions. -/
theorem disabled_inert {settings : HealthSettings} (hoff : settings.enabled = false)
    (monitor : Monitor) (clock : ManualClock) (operations : List Operation) :
    let start := fresh settings monitor clock
    let s := (start.run operations).1
    let answers := (start.run operations).2
    let others := operations.filter (!·.addsProbe)
    (∀ (i : Nat) text point, operations[i]? = some (.addProbe text) →
        Point.ofText? text = some point → answers[i]? = some (.added none)) ∧
      (∀ (i : Nat) outcome, operations[i]? = some (.start outcome) →
        answers[i]? = some .started) ∧
      (∀ (i : Nat) request reaches, operations[i]? = some (.request request reaches) →
        answers[i]? = some .neverBound) ∧
      (s.state.supervisor.trackers = [] ∧ s.state.supervisor.probes = [] ∧
        s.state.supervisor.localAddress? = none ∧ s.state.supervisor.isRunning = false) ∧
      (∀ element pad, s.state.monitor.topology.probesAt element pad =
        monitor.topology.probesAt element pad) ∧
      (start.run others).1 = s ∧
      others.zip (start.run others).2 = (operations.zip answers).filter (!·.1.addsProbe) := by
  intro start s answers others
  have h : start.Dormant := dormant_fresh hoff monitor clock
  obtain ⟨hlast, htopology⟩ := h.run operations
  have hbase : start.state.monitor.topology = monitor.topology := by
    simp [start, fresh, Supervisor.make, hoff]
  refine ⟨fun i text point hi htext => ?_, fun i outcome hi => ?_,
    fun i request reaches hi => ?_, ⟨hlast.trackers, hlast.probes, ?_, hlast.stopped⟩,
    fun element pad => ?_, h.run_filter operations⟩
  · obtain ⟨p, hp, hanswer⟩ := h.exists_answer hi
    exact hanswer.trans (congrArg (some ·.answer) (hp.addProbe_of_point htext))
  · obtain ⟨p, hp, hanswer⟩ := h.exists_answer hi
    exact hanswer.trans (congrArg (some ·.answer) (hp.start_eq outcome))
  · obtain ⟨p, hp, hanswer⟩ := h.exists_answer hi
    exact hanswer.trans (congrArg (some ·.answer) (request_of_unbound hp.unbound request reaches))
  · rw [localAddress?, server_eq_none hlast.stopped]
    rfl
  · rw [htopology, hbase]

/-- A tracker for each probe, in a health check that is switched off. -/
def dormantSettings : HealthSettings := { HealthSettings.default with binding := .perProbe }

/-- Probes at a point that does not exist and at one that does, a start whose port is
taken, and data that passes the probe of somebody else. -/
def unheeded : List Operation :=
  [.addProbe "nowhere:sink", .start (.refused "in use"), .addProbe "sink", .push "sink" "sink",
    .observers "sink" "sink"]

/-- The same without the two probes: the one that was there is still the only one. -/
theorem unheeded_answers :
    let start := fresh dormantSettings occupied ManualClock.origin
    dormantSettings.enabled = false ∧
      (start.run unheeded).2[0]? = some (.added none) ∧
      (start.run unheeded).2[1]? = some .started ∧
      [Operation.start (.refused "in use"), .push "sink" "sink", .observers "sink" "sink"].zip
          [.started, .truth true, .count 1] =
        (unheeded.zip (start.run unheeded).2).filter (!·.1.addsProbe) := by
  intro start
  obtain ⟨hadded, hstarted, -, -, -, -, hothers⟩ :=
    @disabled_inert dormantSettings rfl occupied ManualClock.origin unheeded
  refine ⟨rfl, hadded 0 "nowhere:sink" ⟨"nowhere", "sink"⟩ rfl (by decide +kernel),
    hstarted 1 (.refused "in use") rfl, ?_⟩
  rw [← hothers]
  decide +kernel

end Session

end FlowWatch.Supervisor
