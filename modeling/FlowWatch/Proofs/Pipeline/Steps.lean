import FlowWatch.Pipeline.Session
import FlowWatch.Proofs.Monitor.Moves
import FlowWatch.Proofs.Normalizer.Units

/-!
# What a step and an operation can do to a pipeline

A step stalls, delivers a unit, drops it or fails, and the converter alone decides
which of the last three. A unit that the source produces passes the pads before the
converter in any case, and those behind it if it is delivered. Every operation of a
session has one of five effects: nothing at all, a probe with a tracker of its own, a
probe that feeds some tracker, data pushed by hand, or a step. Each effect is said of
the probes that feed one tracker and of that tracker, so that no later proof follows
the pads.
-/

namespace FlowWatch

namespace Topology

/-- The probes on some pads that feed a tracker, pad by pad. -/
def feeders (t : Topology) (tracker : Nat) (pads : List (String × String)) : List Probe :=
  pads.flatMap fun pad => (t.probesAt pad.1 pad.2).filter (·.tracker = tracker)

/-- Every probe that is found at a point is a probe of that point. -/
def Named (t : Topology) : Prop :=
  ∀ element pad, ∀ probe ∈ t.probesAt element pad, probe.point = ⟨element, pad⟩

/-- The probes on two lists of pads. -/
theorem feeders_append (t : Topology) (k : Nat) (xs ys : List (String × String)) :
    t.feeders k (xs ++ ys) = t.feeders k xs ++ t.feeders k ys := List.flatMap_append

/-- A probe that is placed is added, and none goes away. -/
theorem feeders_place {t : Topology} {probe : Probe}
    (hpad : (t.pad? probe.point.element probe.point.pad).isSome = true) (k : Nat)
    (pads : List (String × String)) :
    (t.feeders k pads).Sublist ((t.place probe).feeders k pads) := by
  induction pads with
  | nil => exact .slnil
  | cons pad rest ih =>
    have hhere : ((t.probesAt pad.1 pad.2).filter (·.tracker = k)).Sublist
        (((t.place probe).probesAt pad.1 pad.2).filter (·.tracker = k)) := by
      rw [probesAt_place hpad, List.filter_append]
      exact List.sublist_append_left ..
    exact hhere.append ih

/-- Probes stay at their points when another one is placed. -/
theorem Named.place {t : Topology} (h : t.Named) {probe : Probe}
    (hpad : (t.pad? probe.point.element probe.point.pad).isSome = true) :
    (t.place probe).Named := by
  intro element pad other hother
  rw [probesAt_place hpad] at hother
  rcases List.mem_append.1 hother with hother | hother
  · exact h element pad other hother
  · split at hother
    · rename_i hpoint
      rw [List.mem_singleton.1 hother, hpoint]
    · exact absurd hother List.not_mem_nil

/-- A probe that feeds a tracker from some pads has its point among them. -/
theorem Named.point_mem {t : Topology} (h : t.Named) {k : Nat} {pads : List (String × String)}
    {probe : Probe} (hprobe : probe ∈ t.feeders k pads) :
    (probe.point.element, probe.point.pad) ∈ pads := by
  obtain ⟨⟨element, pad⟩, hmem, hfound⟩ := List.mem_flatMap.1 hprobe
  rw [h element pad probe (List.mem_filter.1 hfound).1]
  exact hmem

end Topology

namespace Pipeline

/-- No probe is on the pads of a new pipeline. -/
theorem probesAt_topology (element pad : String) : topology.probesAt element pad = [] := by
  simp only [topology, Topology.probesAt_addElement]
  rfl

/-- The probes of a new pipeline, of which there are none, have their points. -/
theorem named_topology : topology.Named := by
  intro element pad probe hprobe
  rw [probesAt_topology] at hprobe
  exact absurd hprobe List.not_mem_nil

/-- Units keep the topology. -/
theorem pushAll_topology (m : Monitor) (reading : Duration) (pads : List (String × String)) :
    (pushAll m reading pads).1.topology = m.topology := by
  induction pads generalizing m with
  | nil => rfl
  | cons pad rest ih => exact (ih _).trans (m.push_topology reading pad.1 pad.2)

/-- A unit that passes several pads passes the first ones and then the others. -/
theorem pushAll_append (m : Monitor) (reading : Duration) (xs ys : List (String × String)) :
    (pushAll m reading (xs ++ ys)).1 = (pushAll (pushAll m reading xs).1 reading ys).1 := by
  induction xs generalizing m with
  | nil => rfl
  | cons pad rest ih => exact ih (m.push reading pad.1 pad.2).monitor

/-- A unit feeds a tracker once for each of its probes on the pads. -/
theorem pushAll_getElem? (m : Monitor) (reading : Duration) (pads : List (String × String))
    (k : Nat) :
    (pushAll m reading pads).1.trackers[k]? =
      m.trackers[k]?.map
        (·.feed (List.replicate (m.topology.feeders k pads).length reading)) := by
  induction pads generalizing m with
  | nil => exact Option.map_id_apply.symm
  | cons pad rest ih =>
    have hfeeders : (m.topology.feeders k (pad :: rest)).length =
        (m.topology.probesAt pad.1 pad.2).countP (·.tracker = k) +
          (m.topology.feeders k rest).length := by
      rw [List.countP_eq_length_filter]
      exact List.length_append
    have hcons : (pushAll m reading (pad :: rest)).1 =
        (pushAll (m.push reading pad.1 pad.2).monitor reading rest).1 := rfl
    rw [hcons, ih, m.push_topology, m.push_getElem?, Option.map_map, hfeeders]
    congr 1
    funext t
    rw [← List.replicate_append_replicate, t.feed_append]
    rfl

/-- What a step gives to the converter. -/
def arrival (p : Pipeline) (moment : Moment) : Normalizer.Arrival :=
  ⟨moment.wall, p.stamp moment.wall⟩

/-- The time that the converter reads off the next unit. -/
def converted (p : Pipeline) (moment : Moment) : Timestamp :=
  p.normalizer.convert (p.arrival moment)

/-- The pipeline after a unit that passed some pads and was not delivered. -/
def produced (p : Pipeline) (moment : Moment) (pads : List (String × String)) : Pipeline :=
  { p with
    monitor := (pushAll p.monitor moment.reading pads).1
    normalizer := (p.normalizer.step (p.arrival moment)).next
    emitted := p.emitted + 1 }

/-- The pads that a unit passes. -/
def Outcome.pads : Outcome → List (String × String)
  | .delivered _ => sourcePads ++ sinkPads
  | .dropped | .failed _ => sourcePads
  | .stalled => []

/-- The pads before and behind the converter are all there are. -/
example : (topology.elements.flatMap fun e => e.pads.map fun pad => (e.name, pad.name)) =
    sourcePads ++ sinkPads := by decide

/-- All that a step can do, with what decides it. -/
inductive Steps (p : Pipeline) (moment : Moment) : Outcome → Pipeline → Prop
  /-- The source has stalled. -/
  | stalled (hstalled : p.isStalled moment.elapsed = true) : p.Steps moment .stalled p
  /-- The unit has a valid timestamp. -/
  | delivered (hruns : p.isStalled moment.elapsed = false)
      (hvalid : (p.converted moment).isValid = true) :
      p.Steps moment (.delivered (p.normalizer.output (p.converted moment)))
        { p.produced moment (sourcePads ++ sinkPads) with delivered := p.delivered + 1 }
  /-- The unit has no valid timestamp, and its stamp is among the first. -/
  | dropped (hruns : p.isStalled moment.elapsed = false)
      (hinvalid : (p.converted moment).isValid = false)
      (hearly : (p.stamp moment.wall).val ≤ Normalizer.grace.val) :
      p.Steps moment .dropped (p.produced moment sourcePads)
  /-- The unit has no valid timestamp, and its stamp is past the first ones. -/
  | failed (hruns : p.isStalled moment.elapsed = false)
      (hinvalid : (p.converted moment).isValid = false)
      (hlate : Normalizer.grace.val < (p.stamp moment.wall).val) :
      p.Steps moment
        (.failed (.unconvertible (p.stamp moment.wall) p.normalizer.mode.name))
        (p.produced moment sourcePads)

/-- Every step is one of these. -/
theorem step_steps (p : Pipeline) (moment : Moment) :
    p.Steps moment (p.step moment).outcome (p.step moment).next := by
  cases hstalled : p.isStalled moment.elapsed with
  | true =>
    rw [step_of_isStalled hstalled]
    exact .stalled hstalled
  | false =>
    simp only [step, hstalled, Bool.false_eq_true, if_false]
    cases hvalid : (p.converted moment).isValid with
    | true =>
      have houtcome : (p.normalizer.step ⟨moment.wall, p.stamp moment.wall⟩).outcome =
          .delivered (p.normalizer.output (p.converted moment)) :=
        (Normalizer.step_of_valid hvalid).1
      rw [houtcome]
      dsimp only
      rw [← pushAll_append]
      exact .delivered hstalled hvalid
    | false =>
      have houtcome : (p.normalizer.step ⟨moment.wall, p.stamp moment.wall⟩).outcome =
          if Normalizer.grace.val < (p.stamp moment.wall).val then
            .failed (p.stamp moment.wall) else .dropped :=
        Normalizer.outcome_of_invalid hvalid
      rw [houtcome]
      by_cases hlate : Normalizer.grace.val < (p.stamp moment.wall).val
      · rw [if_pos hlate]
        exact .failed hstalled hvalid hlate
      · rw [if_neg hlate]
        exact .dropped hstalled hvalid (Int.not_lt.1 hlate)

/-- Two pipelines are of the same settings, as far as units depend on them. -/
structure SameSetup (p p' : Pipeline) : Prop where
  /-- The modes agree. -/
  mode : p'.normalizer.mode = p.normalizer.mode
  /-- The times between two units agree. -/
  unitInterval : p'.unitInterval = p.unitInterval
  /-- The times after which the source stalls agree. -/
  stallAfter : p'.stallAfter = p.stallAfter
  /-- The lengths of the warm-up agree. -/
  warmupUnits : p'.warmupUnits = p.warmupUnits

/-- The source of the same settings stalls at the same times. -/
theorem SameSetup.isStalled_eq {p p' : Pipeline} (h : p.SameSetup p') (elapsed : Duration) :
    p'.isStalled elapsed = p.isStalled elapsed := by
  rw [isStalled, isStalled, h.stallAfter]

/-- Exactly a unit with a valid timestamp of a source that runs is delivered. -/
theorem step_delivers_iff (p : Pipeline) (moment : Moment) :
    (∃ t, (p.step moment).outcome = .delivered t) ↔
      p.isStalled moment.elapsed = false ∧ (p.converted moment).isValid = true := by
  have hstep := p.step_steps moment
  generalize (p.step moment).outcome = outcome at hstep
  generalize (p.step moment).next = next at hstep
  cases hstep with
  | stalled hstalled => simp [hstalled]
  | delivered hruns hvalid => simp [hruns, hvalid]
  | dropped hruns hinvalid => simp [hinvalid]
  | failed hruns hinvalid => simp [hinvalid]

/-- A unit with a valid timestamp is delivered. -/
theorem step_of_valid {p : Pipeline} {moment : Moment}
    (hruns : p.isStalled moment.elapsed = false)
    (hvalid : (p.converted moment).isValid = true) :
    (p.step moment).outcome = .delivered (p.normalizer.output (p.converted moment)) ∧
      (p.step moment).next =
        { p.produced moment (sourcePads ++ sinkPads) with delivered := p.delivered + 1 } := by
  have hstep := p.step_steps moment
  generalize (p.step moment).outcome = outcome at hstep ⊢
  generalize (p.step moment).next = next at hstep ⊢
  cases hstep with
  | stalled hstalled => cases hruns.symm.trans hstalled
  | delivered => exact ⟨rfl, rfl⟩
  | dropped _ hinvalid => cases hvalid.symm.trans hinvalid
  | failed _ hinvalid => cases hvalid.symm.trans hinvalid

/-- The converter takes every unit as it arrives. -/
theorem step_normalizer {p : Pipeline} {moment : Moment}
    (hruns : p.isStalled moment.elapsed = false) :
    (p.step moment).next.normalizer = (p.normalizer.step (p.arrival moment)).next := by
  have hstep := p.step_steps moment
  generalize (p.step moment).outcome = outcome at hstep
  generalize (p.step moment).next = next at hstep ⊢
  cases hstep with
  | stalled hstalled => cases hruns.symm.trans hstalled
  | delivered | dropped | failed => rfl

section Steps

variable {p next : Pipeline} {moment : Moment} {outcome : Outcome}

/-- A stalled step leaves everything as it was. -/
theorem Steps.next_of_stalled (h : p.Steps moment .stalled next) : next = p := by
  cases h
  rfl

/-- A failure is due to a unit without a valid timestamp that is not among the first. -/
theorem Steps.of_failed {fault : Timestamp.Fault} (h : p.Steps moment (.failed fault) next) :
    p.isStalled moment.elapsed = false ∧ (p.converted moment).isValid = false ∧
      Normalizer.grace.val < (p.stamp moment.wall).val := by
  cases h with
  | failed hruns hinvalid hlate => exact ⟨hruns, hinvalid, hlate⟩

/-- A step that is not stalled produces a unit, which passes the pads of its outcome. -/
theorem Steps.next_cases (h : p.Steps moment outcome next) :
    outcome = .stalled ∧ next = p ∨
      ∃ delivered, next = { p.produced moment outcome.pads with delivered := delivered } := by
  cases h with
  | stalled => exact .inl ⟨rfl, rfl⟩
  | delivered => exact .inr ⟨_, rfl⟩
  | dropped => exact .inr ⟨p.delivered, rfl⟩
  | failed => exact .inr ⟨p.delivered, rfl⟩

/-- A step keeps the settings. -/
theorem Steps.sameSetup (h : p.Steps moment outcome next) : p.SameSetup next := by
  rcases h.next_cases with ⟨-, rfl⟩ | ⟨delivered, rfl⟩
  · exact ⟨rfl, rfl, rfl, rfl⟩
  · exact ⟨Normalizer.step_mode .., rfl, rfl, rfl⟩

/-- A step leaves the probes where they are. -/
theorem Steps.topology (h : p.Steps moment outcome next) :
    next.monitor.topology = p.monitor.topology := by
  rcases h.next_cases with ⟨-, rfl⟩ | ⟨delivered, rfl⟩
  · rfl
  · exact pushAll_topology ..

/-- A step feeds a tracker once for each of its probes on the pads that the unit
passes. -/
theorem Steps.tracker (h : p.Steps moment outcome next) (k : Nat) :
    next.monitor.trackers[k]? =
      p.monitor.trackers[k]?.map (·.feed (List.replicate
        (p.monitor.topology.feeders k outcome.pads).length moment.reading)) := by
  rcases h.next_cases with ⟨rfl, rfl⟩ | ⟨delivered, rfl⟩
  · exact Option.map_id_apply.symm
  · exact pushAll_getElem? ..

end Steps

/-- The pipeline with another monitor. -/
def withMonitor (p : Pipeline) (monitor : Monitor) : Pipeline := { p with monitor := monitor }

/-- The effects of operations. -/
inductive Moves (p : Pipeline) : Operation → Pipeline → Prop
  /-- Nothing changes. -/
  | still (operation : Operation) : p.Moves operation p
  /-- There is one more tracker, and a probe that feeds it. -/
  | probed {text : String} {threshold reading : Duration} {probe : Probe}
      (hown : probe.tracker = p.monitor.trackers.length)
      (hpad : (p.monitor.topology.pad? probe.point.element probe.point.pad).isSome = true) :
      p.Moves (.probe text threshold reading)
        (p.withMonitor ⟨p.monitor.topology.place probe,
          p.monitor.trackers ++ [Tracker.fresh threshold reading]⟩)
  /-- There is one more probe. -/
  | attached {probe : Probe}
      (hpad : (p.monitor.topology.pad? probe.point.element probe.point.pad).isSome = true) :
      p.Moves (.attach probe.point probe.tracker)
        (p.withMonitor { p.monitor with topology := p.monitor.topology.place probe })
  /-- Data was pushed by hand. -/
  | pushed (element pad : String) (reading : Duration) :
      p.Moves (.push element pad reading)
        (p.withMonitor (p.monitor.push reading element pad).monitor)
  /-- There was a step. -/
  | stepped {moment : Moment} {outcome : Outcome} {next : Pipeline}
      (hstep : p.Steps moment outcome next) : p.Moves (.step moment) next

/-- A probe with a tracker of its own is attached together with it, or nothing
changes. -/
theorem probe_moves (p : Pipeline) (text : String) (threshold reading : Duration) :
    p.Moves (.probe text threshold reading) (p.perform (.probe text threshold reading)).next := by
  simp only [perform, addProbe]
  cases Point.ofText text with
  | error failure => exact .still _
  | ok point =>
    dsimp only
    cases hregister : (p.monitor.addTracker threshold reading).register point
        p.monitor.trackers.length with
    | error failure => exact .still _
    | ok registered =>
      obtain ⟨monitor, event⟩ := registered
      obtain ⟨hpad, rfl⟩ := Monitor.register_eq_ok hregister
      exact .probed rfl hpad

/-- A probe for a given tracker is attached, or nothing changes. -/
theorem attach_moves (p : Pipeline) (point : Point) (tracker : Nat) :
    p.Moves (.attach point tracker) (p.perform (.attach point tracker)).next := by
  simp only [perform]
  cases hregister : p.monitor.register point tracker with
  | error failure => exact .still _
  | ok registered =>
    obtain ⟨monitor, event⟩ := registered
    obtain ⟨hpad, rfl⟩ := Monitor.register_eq_ok hregister
    exact @Moves.attached p ⟨point, tracker⟩ hpad

/-- Every operation has one of the effects. -/
theorem perform_moves (p : Pipeline) (operation : Operation) :
    p.Moves operation (p.perform operation).next := by
  cases operation with
  | probe text threshold reading => exact p.probe_moves text threshold reading
  | attach point tracker => exact p.attach_moves point tracker
  | push element pad reading => exact .pushed element pad reading
  | interval => exact .still _
  | stalled elapsed => exact .still _
  | step moment => exact .stepped (p.step_steps moment)

/-- Only a step is answered with an outcome. -/
theorem eq_step_of_outcome {p : Pipeline} {operation : Operation} {outcome : Outcome}
    (h : (p.perform operation).answer = .outcome outcome) :
    ∃ moment, operation = .step moment ∧ (p.step moment).outcome = outcome := by
  cases operation with
  | probe text threshold reading =>
    simp only [perform] at h
    split at h <;> cases h
  | attach point tracker =>
    simp only [perform] at h
    split at h <;> cases h
  | push element pad reading => cases h
  | interval => cases h
  | stalled elapsed => cases h
  | step moment => exact ⟨moment, rfl, Answer.outcome.inj h⟩

/-- An outcome in a run is that of some step where it stands in the run. -/
theorem exists_step_of_outcome {p : Pipeline} {operations : List Operation} {outcome : Outcome}
    (h : .outcome outcome ∈ (p.performAll operations).2) :
    ∃ before moment after, operations = before ++ .step moment :: after ∧
      ((p.performAll before).1.step moment).outcome = outcome := by
  induction operations generalizing p with
  | nil => exact absurd h List.not_mem_nil
  | cons operation rest ih =>
    rcases List.mem_cons.1 h with hhere | hlater
    · obtain ⟨moment, rfl, houtcome⟩ := eq_step_of_outcome hhere.symm
      exact ⟨[], moment, rest, rfl, houtcome⟩
    · obtain ⟨before, moment, after, rfl, houtcome⟩ := ih hlater
      exact ⟨operation :: before, moment, after, rfl, houtcome⟩

section Moves

variable {p p' : Pipeline} {operation : Operation}

/-- An operation that is not a step changes the monitor at most. -/
theorem Moves.withMonitor_or_steps (h : p.Moves operation p') :
    (∃ monitor, p' = p.withMonitor monitor) ∨
      ∃ moment outcome, operation = .step moment ∧ p.Steps moment outcome p' := by
  cases h with
  | still => exact .inl ⟨p.monitor, rfl⟩
  | probed => exact .inl ⟨_, rfl⟩
  | attached => exact .inl ⟨_, rfl⟩
  | pushed => exact .inl ⟨_, rfl⟩
  | stepped hstep => exact .inr ⟨_, _, rfl, hstep⟩

/-- The same, of the operation as it is performed. -/
theorem perform_withMonitor (p : Pipeline) (hother : ∀ moment, operation ≠ .step moment) :
    ∃ monitor, (p.perform operation).next = p.withMonitor monitor := by
  rcases (p.perform_moves operation).withMonitor_or_steps with hnext | ⟨moment, -, hstep, -⟩
  · exact hnext
  · exact absurd hstep (hother moment)

/-- An operation that is neither a step nor a push by hand leaves the trackers as they
are. -/
theorem Moves.kept_or_steps (h : p.Moves operation p')
    (hhand : ∀ element pad reading, operation ≠ .push element pad reading) :
    (∃ monitor, p' = p.withMonitor monitor ∧
        ∀ k < p.monitor.trackers.length, monitor.trackers[k]? = p.monitor.trackers[k]?) ∨
      ∃ moment outcome, operation = .step moment ∧ p.Steps moment outcome p' := by
  cases h with
  | still => exact .inl ⟨p.monitor, rfl, fun _ _ => rfl⟩
  | probed => exact .inl ⟨_, rfl, fun _ hstored => List.getElem?_append_left hstored⟩
  | attached => exact .inl ⟨_, rfl, fun _ _ => rfl⟩
  | pushed element pad reading => exact absurd rfl (hhand element pad reading)
  | stepped hstep => exact .inr ⟨_, _, rfl, hstep⟩

/-- What all effects of some operations keep holds after a run of them. -/
theorem performAll_of_moves {P : Pipeline → Prop} (h : P p) (operations : List Operation)
    (hkeeps : ∀ {q operation q'}, operation ∈ operations → P q → q.Moves operation q' → P q') :
    P (p.performAll operations).1 := by
  induction operations generalizing p with
  | nil => exact h
  | cons operation rest ih =>
    have hnext := hkeeps List.mem_cons_self h (p.perform_moves operation)
    exact ih hnext fun hmem => hkeeps (List.mem_cons_of_mem _ hmem)

/-- The topology changes by one more probe at most. -/
theorem Moves.topology_or_place (h : p.Moves operation p') :
    p'.monitor.topology = p.monitor.topology ∨
      ∃ probe : Probe,
        (p.monitor.topology.pad? probe.point.element probe.point.pad).isSome = true ∧
          p'.monitor.topology = p.monitor.topology.place probe := by
  cases h with
  | still => exact .inl rfl
  | probed hown hpad => exact .inr ⟨_, hpad, rfl⟩
  | attached hpad => exact .inr ⟨_, hpad, rfl⟩
  | pushed element pad reading => exact .inl (p.monitor.push_topology reading element pad)
  | stepped hstep => exact .inl hstep.topology

/-- No effect takes a probe away. -/
theorem Moves.feeders (h : p.Moves operation p') (k : Nat) (pads : List (String × String)) :
    (p.monitor.topology.feeders k pads).Sublist (p'.monitor.topology.feeders k pads) := by
  rcases h.topology_or_place with hsame | ⟨probe, hpad, hplaced⟩
  · exact hsame ▸ List.Sublist.refl _
  · rw [hplaced]
    exact Topology.feeders_place hpad k pads

/-- Probes are found at their points after every effect. -/
theorem Moves.named (h : p.Moves operation p') (hnamed : p.monitor.topology.Named) :
    p'.monitor.topology.Named := by
  rcases h.topology_or_place with hsame | ⟨probe, hpad, hplaced⟩
  · rw [hsame]
    exact hnamed
  · rw [hplaced]
    exact hnamed.place hpad

/-- Every effect keeps the settings. -/
theorem Moves.sameSetup (h : p.Moves operation p') : p.SameSetup p' := by
  rcases h.withMonitor_or_steps with ⟨monitor, rfl⟩ | ⟨moment, outcome, -, hstep⟩
  · exact ⟨rfl, rfl, rfl, rfl⟩
  · exact hstep.sameSetup

/-- Runs keep the settings. -/
theorem performAll_sameSetup (p : Pipeline) (operations : List Operation) :
    p.SameSetup (p.performAll operations).1 := by
  refine performAll_of_moves ⟨rfl, rfl, rfl, rfl⟩ operations fun _ hsame hmoves => ?_
  have hnext := hmoves.sameSetup
  exact ⟨hnext.mode.trans hsame.mode, hnext.unitInterval.trans hsame.unitInterval,
    hnext.stallAfter.trans hsame.stallAfter, hnext.warmupUnits.trans hsame.warmupUnits⟩

/-- Runs take no probe away. -/
theorem performAll_feeders (p : Pipeline) (operations : List Operation) (k : Nat)
    (pads : List (String × String)) :
    (p.monitor.topology.feeders k pads).Sublist
      ((p.performAll operations).1.monitor.topology.feeders k pads) :=
  performAll_of_moves (P := fun q =>
      (p.monitor.topology.feeders k pads).Sublist (q.monitor.topology.feeders k pads))
    (List.Sublist.refl _) operations fun _ hsub hmoves => hsub.trans (hmoves.feeders k pads)

/-- Probes are found at their points after every run. -/
theorem performAll_named (hnamed : p.monitor.topology.Named) (operations : List Operation) :
    (p.performAll operations).1.monitor.topology.Named :=
  performAll_of_moves hnamed operations fun _ hq hmoves => hmoves.named hq

end Moves

/-- A pipeline that was made is that of its settings, at its start. -/
theorem make_eq_ok {settings : PipelineSettings} {p : Pipeline} (h : make settings = .ok p) :
    ∃ start, settings.startTimestamp = .ok start ∧
      p = ⟨⟨topology, []⟩, Normalizer.fresh settings.timestampMode start, settings.unitInterval,
        settings.stallAfter, settings.invalidWarmupUnits.toNat, 0, 0⟩ := by
  unfold make at h
  cases hstart : settings.startTimestamp with
  | error fault =>
    rw [hstart] at h
    cases h
  | ok start =>
    rw [hstart] at h
    cases h
    exact ⟨start, rfl, rfl⟩

end Pipeline

end FlowWatch
