import FlowWatch.Proofs.Monitor.Updates
import FlowWatch.Proofs.Pipeline.Steps

/-!
# What the counters and the trackers say of the units

Two counters stand in the pipeline and two in its converter. They agree after every
operation, whatever became of the units: every unit that the source produced was
delivered or dropped, and only a delivered unit can have been moved, never the first
one. A tracker with a single probe is fed once for each unit that passes the pad of
the probe. Before the converter these are all units, and behind it the delivered ones.
-/

namespace FlowWatch

/-- Feeding adds the number of readings to the counter. -/
theorem Tracker.updates_feed (t : Tracker) (readings : List Duration) :
    (t.feed readings).updates = t.updates + UInt64.ofNat readings.length := by
  apply UInt64.toNat_inj.1
  rw [t.feed_updates, UInt64.toNat_add, UInt64.toNat_ofNat']
  exact (Nat.add_mod_mod _ _ _).symm

namespace Pipeline

/-- Counters that agree with each other. -/
structure Balanced (p : Pipeline) : Prop where
  /-- Every unit was delivered or dropped. -/
  emitted_eq : p.emitted = p.delivered + p.normalizer.dropped
  /-- Before the first valid input nothing was delivered or moved. -/
  unmet : p.normalizer.previousInput = none → p.delivered = 0 ∧ p.normalizer.corrected = 0
  /-- From then on some unit was delivered and not moved. -/
  met : p.normalizer.previousInput ≠ none → p.normalizer.corrected < p.delivered

/-- A new pipeline has counted nothing. -/
theorem Balanced.of_make {settings : PipelineSettings} {p : Pipeline}
    (h : make settings = .ok p) (trackers : List Tracker) : (p.withTrackers trackers).Balanced := by
  obtain ⟨start, -, rfl⟩ := make_eq_ok h
  exact ⟨rfl, fun _ => ⟨rfl, rfl⟩, fun hmet => absurd rfl hmet⟩

section Step

variable {p next : Pipeline} {moment : Moment} {outcome : Outcome}

/-- A unit that is dropped is counted in the pipeline and in the converter. -/
theorem Balanced.produced (h : p.Balanced) (pads : List (String × String))
    (hinvalid : (p.converted moment).isValid = false) : (p.produced moment pads).Balanced := by
  obtain ⟨-, hprevious, -, hcorrected⟩ := Normalizer.step_of_invalid hinvalid
  have hdropped : (p.normalizer.step (p.arrival moment)).next.dropped =
      p.normalizer.dropped + 1 := by
    rw [Normalizer.step_dropped, ← converted, hinvalid]
    rfl
  have hemitted := h.emitted_eq
  constructor
  · show p.emitted + 1 = p.delivered + (p.normalizer.step (p.arrival moment)).next.dropped
    omega
  · show (p.normalizer.step (p.arrival moment)).next.previousInput = none →
      p.delivered = 0 ∧ (p.normalizer.step (p.arrival moment)).next.corrected = 0
    rw [hprevious, hcorrected]
    exact h.unmet
  · show (p.normalizer.step (p.arrival moment)).next.previousInput ≠ none →
      (p.normalizer.step (p.arrival moment)).next.corrected < p.delivered
    rw [hprevious, hcorrected]
    exact h.met

/-- A unit that is delivered is counted in the pipeline, and in the converter if it is
moved, which the first one never is. -/
theorem Balanced.delivered (h : p.Balanced) (pads : List (String × String))
    (hvalid : (p.converted moment).isValid = true) :
    Balanced { p.produced moment pads with delivered := p.delivered + 1 } := by
  obtain ⟨-, hprevious, -, hcorrected⟩ := Normalizer.step_of_valid hvalid
  have hdropped : (p.normalizer.step (p.arrival moment)).next.dropped =
      p.normalizer.dropped := by
    rw [Normalizer.step_dropped, ← converted, hvalid]
    rfl
  have hemitted := h.emitted_eq
  constructor
  · show p.emitted + 1 =
      p.delivered + 1 + (p.normalizer.step (p.arrival moment)).next.dropped
    omega
  · intro hnone
    exact absurd (hprevious.symm.trans hnone) (Option.some_ne_none _)
  · intro _
    show (p.normalizer.step (p.arrival moment)).next.corrected < p.delivered + 1
    rw [hcorrected]
    by_cases hmet : p.normalizer.previousInput = none
    · have hkept : p.normalizer.placement (p.normalizer.convert (p.arrival moment)) = .kept := by
        simp only [Normalizer.placement, hmet]
      have hzero := (h.unmet hmet).2
      rw [hkept, if_neg (by decide)]
      omega
    · have hlt := h.met hmet
      split <;> omega

/-- Every step keeps the counters in agreement. -/
theorem Balanced.steps (h : p.Balanced) (hstep : p.Steps moment outcome next) :
    next.Balanced := by
  cases hstep with
  | stalled => exact h
  | delivered _ hvalid => exact h.delivered _ hvalid
  | dropped _ hinvalid _ => exact h.produced _ hinvalid
  | failed _ hinvalid _ => exact h.produced _ hinvalid

end Step

/-- Every effect keeps the counters in agreement. -/
theorem Balanced.moves {p p' : Pipeline} {operation : Operation} (h : p.Balanced)
    (hmoves : p.Moves operation p') : p'.Balanced := by
  rcases hmoves.withMonitor_or_steps with ⟨monitor, rfl⟩ | ⟨moment, outcome, -, hstep⟩
  · exact ⟨h.emitted_eq, h.unmet, h.met⟩
  · exact h.steps hstep

/-- The counters agree after any operations. -/
theorem Balanced.reached {settings : PipelineSettings} {p : Pipeline}
    (h : make settings = .ok p) (trackers : List Tracker) (operations : List Operation) :
    ((p.withTrackers trackers).performAll operations).1.Balanced :=
  performAll_of_moves (Balanced.of_make h trackers) operations fun _ hq => hq.moves

/-- No more outputs are moved than units are delivered. -/
theorem Balanced.corrected_le {p : Pipeline} (h : p.Balanced) :
    p.normalizer.corrected ≤ p.delivered := by
  by_cases hmet : p.normalizer.previousInput = none
  · rw [(h.unmet hmet).2]
    exact Nat.zero_le _
  · exact Nat.le_of_lt (h.met hmet)

/-- A single probe before the converter is on the first pads, and a single probe
behind it leaves them empty. -/
theorem feeders_sourcePads {t : Topology} (hnamed : t.Named) {k : Nat} {point : Point}
    (hone : t.feeders k (sourcePads ++ sinkPads) = [⟨point, k⟩]) :
    ((point.element, point.pad) ∈ sourcePads → t.feeders k sourcePads = [⟨point, k⟩]) ∧
      ((point.element, point.pad) ∈ sinkPads → t.feeders k sourcePads = []) := by
  have hdisjoint : ∀ pad ∈ sourcePads, pad ∉ sinkPads := by decide
  rw [t.feeders_append] at hone
  rcases List.append_eq_singleton_iff.1 hone with ⟨hsource, hsink⟩ | ⟨hsource, hsink⟩
  · have hmem := hnamed.point_mem (hsink ▸ List.mem_singleton_self _)
    exact ⟨fun h => absurd hmem (hdisjoint _ h), fun _ => hsource⟩
  · have hmem := hnamed.point_mem (hsource ▸ List.mem_singleton_self _)
    exact ⟨fun _ => hsource, fun h => absurd h (hdisjoint _ hmem)⟩

section UpdatedPerUnit

variable {p p' : Pipeline} {k : Nat} {point : Point}

/-- Between two pipelines a tracker was updated once for each unit that passed a point:
for each one produced before the converter, and for each one delivered behind it. -/
def UpdatedPerUnit (p p' : Pipeline) (k : Nat) (point : Point) : Prop :=
  ∃ (t t' : Tracker) (gained : Nat),
    p.monitor.trackers[k]? = some t ∧ p'.monitor.trackers[k]? = some t' ∧
      t'.updates = t.updates + UInt64.ofNat gained ∧
      ((point.element, point.pad) ∈ sourcePads → p'.emitted = p.emitted + gained) ∧
      ((point.element, point.pad) ∈ sinkPads → p'.delivered = p.delivered + gained)

/-- Where neither the tracker nor the counters change there was no unit. -/
theorem UpdatedPerUnit.of_same (hstored : k < p.monitor.trackers.length)
    (htracker : p'.monitor.trackers[k]? = p.monitor.trackers[k]?)
    (hemitted : p'.emitted = p.emitted) (hdelivered : p'.delivered = p.delivered) :
    UpdatedPerUnit p p' k point := by
  have ht := List.getElem?_eq_getElem hstored
  exact ⟨_, _, 0, ht, htracker.trans ht, (UInt64.add_zero _).symm, fun _ => hemitted,
    fun _ => hdelivered⟩

/-- The updates of two parts of a run are those of the whole. -/
theorem UpdatedPerUnit.trans {q : Pipeline} (h : UpdatedPerUnit p p' k point)
    (hrest : UpdatedPerUnit p' q k point) : UpdatedPerUnit p q k point := by
  obtain ⟨t, t', first, ht, ht', hupdates, hsource, hsink⟩ := h
  obtain ⟨u, u', second, hu, hu', hupdates', hsource', hsink'⟩ := hrest
  obtain rfl : t' = u := Option.some.inj (ht'.symm.trans hu)
  refine ⟨t, u', first + second, ht, hu', ?_, fun hpoint => ?_, fun hpoint => ?_⟩
  · rw [hupdates', hupdates, UInt64.ofNat_add, UInt64.add_assoc]
  · rw [hsource' hpoint, hsource hpoint, Nat.add_assoc]
  · rw [hsink' hpoint, hsink hpoint, Nat.add_assoc]

/-- The tracker still exists. -/
theorem UpdatedPerUnit.stored (h : UpdatedPerUnit p p' k point) :
    k < p'.monitor.trackers.length := by
  obtain ⟨-, t', -, -, ht', -⟩ := h
  exact (List.getElem?_eq_some_iff.1 ht').1

/-- A step updates the tracker of a single probe once for a unit that passes it. -/
theorem Steps.updatedPerUnit {moment : Moment} {outcome : Outcome}
    (h : p.Steps moment outcome p') (hnamed : p.monitor.topology.Named)
    (hstored : k < p.monitor.trackers.length)
    (hone : p.monitor.topology.feeders k (sourcePads ++ sinkPads) = [⟨point, k⟩]) :
    UpdatedPerUnit p p' k point := by
  obtain ⟨hsource, hsink⟩ := feeders_sourcePads hnamed hone
  have ht := List.getElem?_eq_getElem hstored
  have htracker := h.tracker k
  rw [ht] at htracker
  refine ⟨_, _, _, ht, htracker, Tracker.updates_feed .., ?_⟩
  rw [List.length_replicate]
  cases h with
  | stalled => exact ⟨fun _ => rfl, fun _ => rfl⟩
  | delivered =>
    have hlength : (p.monitor.topology.feeders k (sourcePads ++ sinkPads)).length = 1 := by
      rw [hone]
      rfl
    exact ⟨fun _ => congrArg (p.emitted + ·) hlength.symm,
      fun _ => congrArg (p.delivered + ·) hlength.symm⟩
  | dropped =>
    exact ⟨fun hpoint => congrArg (p.emitted + List.length ·) (hsource hpoint).symm,
      fun hpoint => congrArg (p.delivered + List.length ·) (hsink hpoint).symm⟩
  | failed =>
    exact ⟨fun hpoint => congrArg (p.emitted + List.length ·) (hsource hpoint).symm,
      fun hpoint => congrArg (p.delivered + List.length ·) (hsink hpoint).symm⟩

/-- Every operation but a push by hand updates the tracker of a single probe for units
only. -/
theorem Moves.updatedPerUnit {operation : Operation} (h : p.Moves operation p')
    (hhand : ∀ element pad reading, operation ≠ .push element pad reading)
    (hnamed : p.monitor.topology.Named) (hstored : k < p.monitor.trackers.length)
    (hone : p.monitor.topology.feeders k (sourcePads ++ sinkPads) = [⟨point, k⟩]) :
    UpdatedPerUnit p p' k point := by
  rcases h.kept_or_steps hhand with ⟨monitor, rfl, hkept⟩ | ⟨moment, outcome, -, hstep⟩
  · exact .of_same hstored (hkept k hstored) rfl rfl
  · exact hstep.updatedPerUnit hnamed hstored hone

/-- So does a run without pushes by hand, as long as the probe stays the single one.
Probes only come, so the single one of both ends is there all the time. -/
theorem performAll_updatedPerUnit {operations : List Operation}
    (hhand : ∀ element pad reading, .push element pad reading ∉ operations)
    (hnamed : p.monitor.topology.Named) (hstored : k < p.monitor.trackers.length)
    (hone : p.monitor.topology.feeders k (sourcePads ++ sinkPads) = [⟨point, k⟩])
    (hlast : (p.performAll operations).1.monitor.topology.feeders k (sourcePads ++ sinkPads) =
      [⟨point, k⟩]) :
    UpdatedPerUnit p (p.performAll operations).1 k point := by
  induction operations generalizing p with
  | nil => exact .of_same hstored rfl rfl rfl
  | cons operation rest ih =>
    have hmoves := p.perform_moves operation
    have hnext : (p.perform operation).next.monitor.topology.feeders k
        (sourcePads ++ sinkPads) = [⟨point, k⟩] := by
      have hgrown := hmoves.feeders k (sourcePads ++ sinkPads)
      have hrest := performAll_feeders (p.perform operation).next rest k (sourcePads ++ sinkPads)
      rw [hone] at hgrown
      exact (hgrown.eq_of_length_le (hrest.trans (hlast ▸ .refl _)).length_le).symm
    have hhere := hmoves.updatedPerUnit
      (fun element pad reading h => hhand element pad reading (h ▸ List.mem_cons_self))
      hnamed hstored hone
    exact hhere.trans <|
      ih (fun element pad reading h => hhand element pad reading (List.mem_cons_of_mem _ h))
        (hmoves.named hnamed) hhere.stored hnext hlast

end UpdatedPerUnit

/-- In every run of a pipeline with whatever settings, trackers and clock readings the
units produced are those delivered and those dropped, fewer units were moved than
delivered unless there were none of either, and a stalled step changes nothing. From a
state on in which a tracker has a single probe, and as long as it has no other, it is
updated exactly once for each unit produced if the probe is before the converter, and
exactly once for each unit delivered if it is behind the converter. -/
theorem units_accounted {settings : PipelineSettings} {p : Pipeline}
    (hmake : make settings = .ok p) (trackers : List Tracker) (before after : List Operation) :
    let earlier := ((p.withTrackers trackers).performAll before).1
    let later := (earlier.performAll after).1
    later.counts.emitted = later.counts.delivered + later.counts.dropped ∧
      (later.counts.corrected < later.counts.delivered ∨
        later.counts.corrected = 0 ∧ later.counts.delivered = 0) ∧
      (∀ moment, (later.step moment).outcome = .stalled → (later.step moment).next = later) ∧
      ∀ k point, k < earlier.monitor.trackers.length →
        earlier.monitor.topology.feeders k (sourcePads ++ sinkPads) = [⟨point, k⟩] →
        later.monitor.topology.feeders k (sourcePads ++ sinkPads) = [⟨point, k⟩] →
        (∀ element pad reading, .push element pad reading ∉ after) →
          UpdatedPerUnit earlier later k point := by
  intro earlier later
  have hbalanced : later.Balanced :=
    performAll_of_moves (Balanced.reached hmake trackers before) after fun _ hq => hq.moves
  have hnamed : earlier.monitor.topology.Named := by
    apply performAll_named
    obtain ⟨start, -, rfl⟩ := make_eq_ok hmake
    exact named_topology
  refine ⟨hbalanced.emitted_eq, ?_, fun moment hstalled => ?_,
    fun k point hstored hone hlast hhand =>
      performAll_updatedPerUnit hhand hnamed hstored hone hlast⟩
  · by_cases hmet : later.normalizer.previousInput = none
    · exact .inr (hbalanced.unmet hmet).symm
    · exact .inl (hbalanced.met hmet)
  · have hstep := later.step_steps moment
    rw [hstalled] at hstep
    exact hstep.next_of_stalled

/-- Sixty seconds. -/
def minute : Duration := ⟨60000000000, by decide⟩

/-- Units every sixteen seconds for a minute, of which the first two have no time of the
clock. -/
def slowUnits : PipelineSettings :=
  { PipelineSettings.default with
    unitInterval := ⟨16000000000, by decide⟩
    stallAfter := some minute
    invalidWarmupUnits := 2 }

/-- The pipeline of these units before the first of them. -/
def slowStart : Pipeline :=
  ⟨⟨topology, []⟩, Normalizer.fresh .ntp Timestamp.invalid, slowUnits.unitInterval,
    slowUnits.stallAfter, 2, 0, 0⟩

/-- A time since the start at which the clock shows a valid time. -/
def daylight (elapsed : Duration) : Moment :=
  ⟨elapsed, ⟨Nanos.clamp 1700000000000000000⟩, elapsed⟩

/-- A tracker that was never updated. -/
def unfed : Tracker := Tracker.fresh Duration.zero Duration.zero

/-- The first unit is dropped, and then two trackers get a probe each. -/
def probedLate : List Operation :=
  [.step (daylight Duration.zero), .attach ⟨"src", "src"⟩ 0, .attach ⟨"sink", "sink"⟩ 1]

/-- The second unit fails the stream, the third one is delivered, and the source
stalls. -/
def failedOnce : List Operation :=
  [.step (daylight Duration.zero), .step (daylight Duration.zero), .step (daylight minute)]

/-- The tracker before the converter is updated for the unit that failed and for the
one delivered, and the tracker behind it for the latter only. -/
theorem updates_on_both_sides :
    let earlier := ((slowStart.withTrackers [unfed, unfed]).performAll probedLate).1
    let later := (earlier.performAll failedOnce).1
    make slowUnits = .ok slowStart ∧ earlier.counts = ⟨1, 0, 1, 0⟩ ∧
      later.counts = ⟨3, 1, 2, 0⟩ ∧ UpdatedPerUnit earlier later 0 ⟨"src", "src"⟩ ∧
      UpdatedPerUnit earlier later 1 ⟨"sink", "sink"⟩ := by
  intro earlier later
  have hmake : make slowUnits = .ok slowStart := rfl
  have hhand : ∀ element pad reading, .push element pad reading ∉ failedOnce := by
    intro element pad reading hmem
    simp [failedOnce] at hmem
  obtain ⟨-, -, -, hupdated⟩ := units_accounted hmake [unfed, unfed] probedLate failedOnce
  exact ⟨hmake, by decide, by decide,
    hupdated 0 ⟨"src", "src"⟩ (by decide) (by decide) (by decide) hhand,
    hupdated 1 ⟨"sink", "sink"⟩ (by decide) (by decide) (by decide) hhand⟩

end Pipeline

end FlowWatch
