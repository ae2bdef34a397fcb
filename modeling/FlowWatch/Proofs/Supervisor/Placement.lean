import FlowWatch.Proofs.Monitor.Layout
import FlowWatch.Proofs.Supervisor.Moves

/-!
# Which probes there are, and where they sit

An operation that adds a probe names it in its answer. The probes of the
supervisor are those that the answers of a run have named, in order, each at the
point that was asked for. The topology is the one that the session began with,
and on every pad of it the probes of the supervisor come behind those that were
there. This holds of all runs, whatever the settings and the clock.
-/

namespace FlowWatch.Supervisor

/-- The probes that were added, going by the answers. -/
def addedProbes (answers : List Answer) : List Probe := answers.filterMap Answer.probe?

namespace Session

/-- The topology is that of a given monitor, with the probes of the supervisor
behind those that were there. -/
structure Rooted (base : Monitor) (s : Session) : Prop where
  /-- Elements and pads are those that were there. -/
  bare : s.state.monitor.topology.bare = base.topology.bare
  /-- Every probe is found at its point, behind those that were there. -/
  placed : ∀ element pad, s.state.monitor.topology.probesAt element pad =
    base.topology.probesAt element pad ++
      s.state.supervisor.probes.filter fun probe => probe.point = ⟨element, pad⟩

/-- A new session is rooted in its monitor. -/
theorem rooted_fresh (settings : HealthSettings) (monitor : Monitor) (clock : ManualClock) :
    (fresh settings monitor clock).Rooted monitor := by
  unfold fresh Supervisor.make
  split
  · exact ⟨rfl, fun _ _ => (List.append_nil _).symm⟩
  · exact ⟨rfl, fun _ _ => (List.append_nil _).symm⟩

/-- What changes neither probes nor topology leaves a session rooted. -/
theorem Rooted.of_same {base : Monitor} {s s' : Session} (h : s.Rooted base)
    (hprobes : s'.state.supervisor.probes = s.state.supervisor.probes)
    (htopology : s'.state.monitor.topology = s.state.monitor.topology) : s'.Rooted base := by
  constructor
  · rw [htopology, h.bare]
  · rw [htopology, hprobes]
    exact h.placed

/-- An attached probe leaves a session rooted. -/
theorem Rooted.attached {base : Monitor} {s : Session} (h : s.Rooted base) (prepared : Monitor)
    (htopology : prepared.topology = s.state.monitor.topology) (trackers : List Nat)
    (probe : Probe)
    (hpad : (s.state.monitor.topology.pad? probe.point.element probe.point.pad).isSome = true) :
    (s.withState (s.state.attached prepared trackers probe)).Rooted base := by
  constructor
  · show (prepared.topology.place probe).bare = _
    rw [Topology.bare_place, htopology, h.bare]
  · intro element pad
    rw [← htopology] at hpad
    exact Topology.probesAt_place_listed hpad (htopology ▸ h.placed element pad)

/-- Every effect leaves a session rooted. -/
theorem Rooted.moves {base : Monitor} {s s' : Session} {occurrences : List Occurrence}
    (h : s.Rooted base) (hmoves : s.Moves occurrences s') : s'.Rooted base := by
  cases hmoves with
  | still => exact h
  | moved clock => exact h.of_same rfl rfl
  | @joined point tracker _ _ _ _ _ hpad => exact h.attached _ rfl _ ⟨point, tracker⟩ hpad
  | @added point _ _ _ hpad =>
    exact h.attached (s.state.monitor.addTracker _ _) rfl _ ⟨point, _⟩ hpad
  | started address _ _ => exact h.of_same rfl rfl
  | noted => exact h.of_same rfl rfl
  | halted => exact h.of_same rfl rfl
  | passed element pad => exact h.of_same rfl (Monitor.push_topology ..)
  | looked _ => exact h.of_same rfl (Monitor.recordAll_topology ..)

/-- Every reachable session is rooted in the monitor that it began with. -/
theorem rooted_run (settings : HealthSettings) (monitor : Monitor) (clock : ManualClock)
    (operations : List Operation) :
    ((fresh settings monitor clock).run operations).1.Rooted monitor :=
  run_induction Rooted.moves (rooted_fresh settings monitor clock) operations

/-- A probe of a rooted session is found on the pad that it names. -/
theorem Rooted.mem_probesAt {base : Monitor} {s : Session} (h : s.Rooted base) {probe : Probe}
    (hprobe : probe ∈ s.state.supervisor.probes) :
    probe ∈ s.state.monitor.topology.probesAt probe.point.element probe.point.pad := by
  rw [h.placed]
  exact List.mem_append_right _ (List.mem_filter.2 ⟨hprobe, decide_eq_true rfl⟩)

/-- Adding a probe names none in its answer and changes nothing, or it names the one
that it puts behind the others, at the point of the text. -/
theorem addProbe_named (s : Session) (text : String) :
    ((s.addProbe text).answer.probe? = none ∧ (s.addProbe text).session = s) ∨
      ∃ probe, (s.addProbe text).answer.probe? = some probe ∧
        Point.ofText? text = some probe.point ∧
        (s.addProbe text).session.state.supervisor.probes =
          s.state.supervisor.probes ++ [probe] := by
  cases htext : Point.ofText? text with
  | none =>
    rw [s.addProbe_of_unreadable htext]
    exact .inl ⟨rfl, rfl⟩
  | some point =>
    obtain ⟨hsession, hprobe⟩ := addProbe_of_point (s := s) htext
    rw [hsession, hprobe]
    rcases s.state.addProbe_cases s.now point with ⟨result, events, hkeep, hnone⟩ |
      ⟨-, -, ⟨-, tracker, rest, events, -, -, heq⟩ | ⟨-, -, events, heq⟩⟩
    · rw [hkeep]
      exact .inl ⟨hnone, rfl⟩
    · rw [heq]
      exact .inr ⟨⟨point, tracker⟩, rfl, rfl, rfl⟩
    · rw [heq]
      exact .inr ⟨⟨point, s.state.monitor.trackers.length⟩, rfl, rfl, rfl⟩

/-- What is nothing to an observer leaves the probes as they were. -/
theorem Moves.probes_of_nil {s s' : Session} (h : s.Moves [] s') :
    s'.state.supervisor.probes = s.state.supervisor.probes := by
  cases h <;> rfl

/-- The answer to a start names no probe. -/
theorem probe?_start (s : Session) (outcome : BindOutcome) :
    (s.start outcome).answer.probe? = none := by
  unfold start
  dsimp only
  cases (s.state.start outcome).result <;> rfl

/-- The answer to a request names no probe. -/
theorem probe?_request (s : Session) (request : Endpoint.Request) (reaches : Bool) :
    (s.request request reaches).answer.probe? = none := by
  unfold Session.request
  split
  · rfl
  · split
    · rfl
    · split <;> rfl

/-- Every operation puts the probe that its answer names behind the others. -/
theorem step_probes (s : Session) (operation : Operation) :
    (s.step operation).session.state.supervisor.probes =
      s.state.supervisor.probes ++ (s.step operation).answer.probe?.toList := by
  have hunnamed : s.occurrences operation = [] → (s.step operation).answer.probe? = none →
      (s.step operation).session.state.supervisor.probes =
        s.state.supervisor.probes ++ (s.step operation).answer.probe?.toList := by
    intro hnothing hnone
    have hmoves := s.step_moves operation
    rw [hnothing] at hmoves
    rw [hnone, hmoves.probes_of_nil, Option.toList_none, List.append_nil]
  cases operation with
  | addProbe text =>
    show (s.addProbe text).session.state.supervisor.probes =
      s.state.supervisor.probes ++ (s.addProbe text).answer.probe?.toList
    rcases s.addProbe_named text with ⟨hnone, hsame⟩ | ⟨probe, hnamed, -, hprobes⟩
    · rw [hnone, hsame, Option.toList_none, List.append_nil]
    · rw [hnamed, hprobes, Option.toList_some]
  | start outcome => exact hunnamed rfl (s.probe?_start outcome)
  | request request reaches => exact hunnamed rfl (s.probe?_request request reaches)
  | stop | debug | observers | advance | set => exact hunnamed rfl rfl
  | push element pad => exact (List.append_nil _).symm

/-- After a run there are the probes that the answers have named, behind those that
were there before. -/
theorem run_probes (s : Session) (operations : List Operation) :
    (s.run operations).1.state.supervisor.probes =
      s.state.supervisor.probes ++ addedProbes (s.run operations).2 := by
  induction operations generalizing s with
  | nil => exact (List.append_nil _).symm
  | cons operation rest ih =>
    have hanswers : addedProbes (s.run (operation :: rest)).2 =
        (s.step operation).answer.probe?.toList ++
          addedProbes ((s.step operation).session.run rest).2 := by
      show ((s.step operation).answer :: ((s.step operation).session.run rest).2).filterMap _ = _
      rw [List.filterMap_cons]
      cases (s.step operation).answer.probe? <;> rfl
    show ((s.step operation).session.run rest).1.state.supervisor.probes = _
    rw [ih, s.step_probes, hanswers, List.append_assoc]

/-- A new session has no probes. -/
theorem probes_fresh (settings : HealthSettings) (monitor : Monitor) (clock : ManualClock) :
    (fresh settings monitor clock).state.supervisor.probes = [] := by
  unfold fresh Supervisor.make
  split <;> rfl

/-- A probe that is named in the answer to an addition is at the point that was asked
for. -/
theorem point_of_added {s : Session} {operations : List Operation} {text : String}
    {probe : Probe}
    (h : (.addProbe text, .added (some probe)) ∈ operations.zip (s.run operations).2) :
    Point.ofText? text = some probe.point := by
  induction operations generalizing s with
  | nil => cases h
  | cons operation rest ih =>
    have hzip : (operation :: rest).zip (s.run (operation :: rest)).2 =
        (operation, (s.step operation).answer) ::
          rest.zip ((s.step operation).session.run rest).2 := rfl
    rw [hzip] at h
    rcases List.mem_cons.1 h with hhere | hlater
    · obtain ⟨rfl, hanswer⟩ := Prod.mk.inj hhere
      have hnamed : (s.addProbe text).answer.probe? = some probe :=
        congrArg Answer.probe? hanswer.symm
      rcases s.addProbe_named text with ⟨hnone, -⟩ | ⟨other, hother, hpoint, -⟩
      · rw [hnamed] at hnone
        cases hnone
      · obtain rfl := Option.some.inj (hnamed.symm.trans hother)
        exact hpoint
    · exact ih hlater

end Session

end FlowWatch.Supervisor
