import FlowWatch.Proofs.Pipeline.Schedule

/-!
# One stream in three timescales

Behind the warm-up a source in a mode with a timescale stamps its units by the clock, in
that timescale, and the converter reads the stamps in it. As long as the clock shows a time
whose count fits in the network timescale as well, nothing is lost on the way, whatever the
timescale is. So pipelines that differ in their modes only cannot be told apart: they give
the same answers to the same operations, and at the end they differ in their modes only.
What they deliver is what a normalizer of atomic time makes of the readings of the clock.
-/

namespace FlowWatch

/-- A time that can be counted in all three timescales: a valid one that leaves room for the
years by which the network timescale is ahead. -/
def Timestamp.Portable (t : Timestamp) : Prop :=
  1 ≤ t.ns.val ∧ t.ns.val ≤ Nanos.greatest.val - (ntpEpochSeconds - 37) * 1000000000

/-- Whether a time is portable is decided by its count. -/
instance (t : Timestamp) : Decidable t.Portable := inferInstanceAs (Decidable (_ ∧ _))

/-- A portable time is valid. -/
theorem Timestamp.Portable.isValid {t : Timestamp} (h : t.Portable) : t.isValid = true :=
  Timestamp.isValid_iff.2 h.1

namespace Normalizer

/-- The normalizer in another mode. -/
def inMode (n : Normalizer) (mode : InputMode) : Normalizer := { n with mode := mode }

/-- With a timescale a valid input is remembered together with its output, and nothing else
changes but the count of corrections. -/
theorem step_next_of_valid {n : Normalizer} {scale : Timescale}
    (hscale : n.mode.scale? = some scale) {a : Arrival} (h : (n.convert a).isValid = true) :
    (n.step a).next = { n with
      previousInput := some (n.convert a)
      previousOutput := n.output (n.convert a)
      corrected := if n.placement (n.convert a) = .corrected then n.corrected + 1
        else n.corrected } := by
  simp only [step, h, if_true, latch_of_scale hscale]
  rfl

/-- In atomic time a valid time is converted to itself. -/
theorem convert_of_tai {n : Normalizer} (hmode : n.mode = .tai) {now t : Timestamp}
    (h : t.isValid = true) : n.convert ⟨now, t.ns⟩ = t := by
  have htoTai : t.ns.val + Timescale.tai.toTai = t.ns.val := Int.add_zero _
  simp only [convert, hmode, InputMode.scale?, Timestamp.ofRaw, htoTai]
  exact Timestamp.collapse_of_valid h

/-- Nothing is dropped of a stream of valid atomic times. -/
theorem run_dropped_of_tai {n : Normalizer} (hmode : n.mode = .tai) {arrivals : List Arrival}
    (h : ∀ a ∈ arrivals, (n.convert a).isValid = true) :
    (n.run arrivals).1.dropped = n.dropped := by
  induction arrivals generalizing n with
  | nil => rfl
  | cons a rest ih =>
    have hsettled : n.Settled := settled_of_scale (congrArg InputMode.scale? hmode)
    have hhere := n.step_dropped a
    rw [if_pos (h a List.mem_cons_self), Nat.add_zero] at hhere
    refine (ih ((n.step_mode a).trans hmode) fun b hb => ?_).trans hhere
    rw [hsettled.convert_step]
    exact h b (List.mem_cons_of_mem _ hb)

end Normalizer

namespace Pipeline

/-- The pipeline with its converter in another mode. -/
def inMode (p : Pipeline) (mode : InputMode) : Pipeline :=
  { p with normalizer := p.normalizer.inMode mode }

/-- A pipeline that stamps all its units by the clock. -/
structure OnClock (p : Pipeline) : Prop where
  /-- The mode has a timescale. -/
  scale : p.normalizer.mode.scale? ≠ none
  /-- There is no warm-up. -/
  unwarmed : p.warmupUnits = 0

/-- Operations whose clock shows a portable time at every step. -/
def Portable (operations : List Operation) : Prop :=
  ∀ moment, .step moment ∈ operations → moment.wall.Portable

/-- The times that the clock shows to the source, one for each unit that some operations
produce, as raw timestamps of atomic time. -/
def readings (p : Pipeline) (operations : List Operation) : List Normalizer.Arrival :=
  operations.filterMap fun
    | .step moment =>
      if p.isStalled moment.elapsed then none else some ⟨moment.wall, moment.wall.ns⟩
    | _ => none

section Step

variable {p p' : Pipeline} {mode : InputMode} {moment : Moment} {operation : Operation}

/-- The same settings keep a pipeline on the clock. -/
theorem OnClock.sameSetup (h : p.OnClock) (hsame : p.SameSetup p') : p'.OnClock :=
  ⟨hsame.mode ▸ h.scale, hsame.warmupUnits.trans h.unwarmed⟩

/-- So does another mode with a timescale. -/
theorem OnClock.inMode (h : p.OnClock) (hmode : mode.scale? ≠ none) : (p.inMode mode).OnClock :=
  ⟨hmode, h.unwarmed⟩

/-- No unit is one of the warm-up. -/
theorem OnClock.not_warming (h : p.OnClock) : ¬p.emitted < p.warmupUnits := by
  rw [h.unwarmed]
  exact Nat.not_lt_zero _

/-- Trackers do not take a pipeline off the clock. -/
theorem OnClock.withTrackers (h : p.OnClock) (trackers : List Tracker) :
    (p.withTrackers trackers).OnClock :=
  ⟨h.scale, h.unwarmed⟩

/-- The stamp of a valid time is the count of this time in the timescale, stopped at the
bounds of a signed word. -/
theorem OnClock.stamp_eq (h : p.OnClock) {scale : Timescale}
    (hscale : p.normalizer.mode.scale? = some scale) {wall : Timestamp}
    (hvalid : wall.isValid = true) : p.stamp wall = Nanos.clamp (wall.ns.val - scale.toTai) := by
  have hunix : wall.unixNanos.val = wall.ns.val - Timescale.unixUtc.toTai :=
    Timestamp.unixNanos_val hvalid
  unfold stamp
  rw [if_neg h.not_warming]
  cases hmode : p.normalizer.mode with
  | ntp =>
    rw [hmode] at hscale
    obtain rfl : Timescale.ntp = scale := Option.some.inj hscale
    have hahead : Timescale.unixUtc.toTai - Timescale.ntp.toTai =
        (ntpEpochSeconds * Nanos.perSecond : Nat) := by decide
    dsimp only
    rw [hunix, ← hahead]
    exact congrArg Nanos.clamp (by omega)
  | tai =>
    rw [hmode] at hscale
    obtain rfl : Timescale.tai = scale := Option.some.inj hscale
    have hsame : wall.ns.val - Timescale.tai.toTai = wall.ns.val := Int.sub_zero _
    exact Nanos.ext (by rw [hsame, Nanos.clamp_val wall.ns.atLeast wall.ns.below])
  | unixUtc =>
    rw [hmode] at hscale
    obtain rfl : Timescale.unixUtc = scale := Option.some.inj hscale
    rfl
  | startAtCurrentTime | startAtFixedTime =>
    rw [hmode] at hscale
    cases hscale

/-- The stamp of a portable time is not stopped, and so it is converted back to the time. -/
theorem OnClock.converted_eq (h : p.OnClock) (hwall : moment.wall.Portable) :
    p.converted moment = moment.wall := by
  obtain ⟨scale, hscale⟩ := Option.ne_none_iff_exists'.1 h.scale
  have hbounds : -(ntpEpochSeconds - 37) * 1000000000 ≤ scale.toTai ∧
      scale.toTai ≤ 37 * 1000000000 := by cases scale <;> decide
  have hgreatest : Nanos.greatest.val = 9223372036854775807 := rfl
  have hvalid := hwall.isValid
  obtain ⟨hleast, hlast⟩ := hwall
  have hstamp : (p.stamp moment.wall).val = moment.wall.ns.val - scale.toTai := by
    rw [h.stamp_eq hscale hvalid]
    exact Nanos.clamp_val (by omega) (by omega)
  rw [converted_of_scale hscale, Timestamp.ofRaw, hstamp, Int.sub_add_cancel]
  exact Timestamp.collapse_of_valid hvalid

/-- A step in another mode has the same outcome and differs in the mode only. -/
theorem OnClock.step_inMode (h : p.OnClock) (hmode : mode.scale? ≠ none)
    (hwall : moment.wall.Portable) :
    ((p.inMode mode).step moment).outcome = (p.step moment).outcome ∧
      ((p.inMode mode).step moment).next = (p.step moment).next.inMode mode := by
  cases hstalled : p.isStalled moment.elapsed with
  | true =>
    have hother : (p.inMode mode).isStalled moment.elapsed = true := hstalled
    rw [step_of_isStalled hstalled, step_of_isStalled hother]
    exact ⟨rfl, rfl⟩
  | false =>
    have hhere := h.converted_eq hwall
    have hthere := (h.inMode hmode).converted_eq hwall
    obtain ⟨scale, hscale⟩ := Option.ne_none_iff_exists'.1 h.scale
    obtain ⟨other, hother⟩ := Option.ne_none_iff_exists'.1 (h.inMode hmode).scale
    obtain ⟨houtcome, hnext⟩ := step_of_valid hstalled (hhere ▸ hwall.isValid)
    obtain ⟨houtcome', hnext'⟩ :=
      step_of_valid (p := p.inMode mode) hstalled (hthere ▸ hwall.isValid)
    refine ⟨?_, ?_⟩
    · rw [houtcome, houtcome', hhere, hthere]
      rfl
    · have hstep := Normalizer.step_next_of_valid hscale (hhere ▸ hwall.isValid)
      have hstep' := Normalizer.step_next_of_valid hother (hthere ▸ hwall.isValid)
      rw [hnext, hnext', produced, produced, hstep, hstep', ← converted, ← converted, hhere, hthere]
      rfl

/-- An operation that is not a step does not read the mode. -/
theorem perform_inMode_of_other (hother : ∀ moment, operation ≠ .step moment) :
    (p.inMode mode).perform operation =
      ⟨(p.perform operation).next.inMode mode, (p.perform operation).answer⟩ := by
  have hmonitor : (p.inMode mode).monitor = p.monitor := rfl
  cases operation with
  | probe text threshold reading =>
    simp only [perform, addProbe, hmonitor]
    cases Point.ofText text with
    | error failure => rfl
    | ok point =>
      dsimp only
      cases (p.monitor.addTracker threshold reading).register point p.monitor.trackers.length with
      | error failure => rfl
      | ok registered => rfl
  | attach point tracker =>
    simp only [perform, hmonitor]
    cases p.monitor.register point tracker with
    | error failure => rfl
    | ok registered => rfl
  | push | interval | stalled => rfl
  | step moment => exact absurd rfl (hother moment)

/-- An operation in another mode has the same answer and differs in the mode only. -/
theorem OnClock.perform_inMode (h : p.OnClock) (hmode : mode.scale? ≠ none)
    (hclock : ∀ moment, operation = .step moment → moment.wall.Portable) :
    (p.inMode mode).perform operation =
      ⟨(p.perform operation).next.inMode mode, (p.perform operation).answer⟩ := by
  cases operation with
  | step moment =>
    obtain ⟨houtcome, hnext⟩ := h.step_inMode hmode (hclock moment rfl)
    simp only [perform, houtcome, hnext]
  | probe | attach | push | interval | stalled => exact perform_inMode_of_other (by simp)

/-- So does a run of operations. -/
theorem OnClock.performAll_inMode (h : p.OnClock) (hmode : mode.scale? ≠ none)
    {operations : List Operation} (hclock : Portable operations) :
    (p.inMode mode).performAll operations =
      ((p.performAll operations).1.inMode mode, (p.performAll operations).2) := by
  induction operations generalizing p with
  | nil => rfl
  | cons operation rest ih =>
    have hhere := h.perform_inMode hmode fun moment heq =>
      hclock moment (heq ▸ List.mem_cons_self)
    have hrest := ih (h.sameSetup (p.perform_moves operation).sameSetup) fun moment hmem =>
      hclock moment (List.mem_cons_of_mem _ hmem)
    simp only [performAll, hhere, hrest]

end Step

section Readings

variable {p p' : Pipeline}

/-- The same settings take the same readings. -/
theorem SameSetup.readings_eq (h : p.SameSetup p') (operations : List Operation) :
    p'.readings operations = p.readings operations := by
  simp only [readings, h.isStalled_eq]

/-- There is one reading for each unit. -/
theorem length_readings (p : Pipeline) (operations : List Operation) :
    (p.readings operations).length = operations.countP p.produces := by
  induction operations with
  | nil => rfl
  | cons operation rest ih =>
    unfold readings at ih ⊢
    rw [List.filterMap_cons, List.countP_cons, ← ih]
    cases operation with
    | step moment => cases hstalled : p.isStalled moment.elapsed <;> simp [produces, hstalled]
    | probe | attach | push | interval | stalled => simp [produces]

/-- A reading of a clock that shows portable times is a valid one. -/
theorem exists_of_mem_readings {operations : List Operation} (h : Portable operations)
    {a : Normalizer.Arrival} (ha : a ∈ p.readings operations) :
    ∃ wall : Timestamp, wall.isValid = true ∧ a = ⟨wall, wall.ns⟩ := by
  obtain ⟨operation, hmem, hreading⟩ := List.mem_filterMap.1 ha
  cases operation with
  | step moment =>
    dsimp only at hreading
    split at hreading
    · cases hreading
    · exact ⟨moment.wall, (h moment hmem).isValid, (Option.some.inj hreading).symm⟩
  | probe | attach | push | interval | stalled => cases hreading

/-- In atomic time the stamp is the reading itself. -/
theorem OnClock.arrival_of_tai (h : p.OnClock) (htai : p.normalizer.mode = .tai)
    (moment : Moment) : p.arrival moment = ⟨moment.wall, moment.wall.ns⟩ := by
  unfold arrival stamp
  rw [if_neg h.not_warming, htai]

/-- In atomic time the converter takes the readings, one for each unit. -/
theorem OnClock.perform_normalizer (h : p.OnClock) (htai : p.normalizer.mode = .tai)
    (operation : Operation) :
    (p.perform operation).next.normalizer = (p.normalizer.run (p.readings [operation])).1 := by
  have hkept : (∀ moment, operation ≠ .step moment) →
      (p.perform operation).next.normalizer = p.normalizer := by
    intro hother
    obtain ⟨monitor, hnext⟩ := p.perform_withMonitor hother
    rw [hnext]
    rfl
  cases operation with
  | step moment =>
    cases hstalled : p.isStalled moment.elapsed with
    | true => simp [perform, readings, step_of_isStalled hstalled, hstalled, Normalizer.run]
    | false =>
      have hnext := step_normalizer hstalled
      rw [h.arrival_of_tai htai] at hnext
      simp [perform, readings, hstalled, Normalizer.run, hnext]
  | probe | attach | push | interval | stalled => exact hkept (by simp)

/-- So it does in a run. -/
theorem OnClock.performAll_normalizer (h : p.OnClock) (htai : p.normalizer.mode = .tai)
    (operations : List Operation) :
    (p.performAll operations).1.normalizer = (p.normalizer.run (p.readings operations)).1 := by
  induction operations generalizing p with
  | nil => rfl
  | cons operation rest ih =>
    have hsetup := (p.perform_moves operation).sameSetup
    have hlast : (p.performAll (operation :: rest)).1 =
        ((p.perform operation).next.performAll rest).1 := rfl
    have hfirst : p.readings (operation :: rest) = p.readings [operation] ++ p.readings rest :=
      List.filterMap_append (l := [operation])
    rw [hlast, ih (h.sameSetup hsetup) (hsetup.mode.trans htai), hsetup.readings_eq,
      h.perform_normalizer htai, hfirst, Normalizer.run_append]

end Readings

section Reached

variable {settings : PipelineSettings} {p : Pipeline}

/-- A new pipeline in atomic time counts one unit for each reading of its clock. All of them
are delivered if the clock shows portable times, and those corrected are the ones that a
normalizer of atomic time corrects. -/
theorem OnClock.counts_reached (hmake : make settings = .ok p) (h : p.OnClock)
    (htai : p.normalizer.mode = .tai) (trackers : List Tracker) {before : List Operation}
    (hclock : Portable before) :
    ((p.withTrackers trackers).performAll before).1.counts =
      ⟨(p.readings before).length, (p.readings before).length, 0,
        (p.normalizer.run (p.readings before)).1.corrected⟩ := by
  have hnormalizer : ((p.withTrackers trackers).performAll before).1.normalizer =
      (p.normalizer.run (p.readings before)).1 :=
    (h.withTrackers trackers).performAll_normalizer htai before
  have hemitted : ((p.withTrackers trackers).performAll before).1.emitted =
      (p.readings before).length :=
    (emitted_reached hmake trackers before).trans (p.length_readings before).symm
  have hbalanced : ((p.withTrackers trackers).performAll before).1.Balanced :=
    performAll_of_moves (P := Balanced) (.of_make hmake trackers) before fun _ hq => hq.moves
  have hdropped : (p.normalizer.run (p.readings before)).1.dropped = 0 := by
    rw [Normalizer.run_dropped_of_tai htai fun a ha => ?_]
    · obtain ⟨start, -, rfl⟩ := make_eq_ok hmake
      rfl
    · obtain ⟨wall, hvalid, rfl⟩ := exists_of_mem_readings hclock ha
      rw [Normalizer.convert_of_tai htai hvalid]
      exact hvalid
  have hdelivered := hbalanced.emitted_eq
  rw [hnormalizer, hdropped, hemitted, Nat.add_zero] at hdelivered
  rw [counts, hemitted, ← hdelivered, hnormalizer, hdropped]

/-- Behind these operations a step that is not stalled delivers what a normalizer of atomic
time makes of the time that the clock shows, if it was given the readings before. -/
theorem OnClock.outcome_reached (h : p.OnClock) (htai : p.normalizer.mode = .tai)
    (trackers : List Tracker) (before : List Operation) {moment : Moment}
    (hwall : moment.wall.Portable) (hruns : p.isStalled moment.elapsed = false) :
    ∃ t, ((p.normalizer.run (p.readings before)).1.step ⟨moment.wall, moment.wall.ns⟩).outcome =
        .delivered t ∧
      (((p.withTrackers trackers).performAll before).1.step moment).outcome = .delivered t := by
  have hnormalizer : ((p.withTrackers trackers).performAll before).1.normalizer =
      (p.normalizer.run (p.readings before)).1 :=
    (h.withTrackers trackers).performAll_normalizer htai before
  have hsetup := performAll_sameSetup (p.withTrackers trackers) before
  have hreached := (h.withTrackers trackers).sameSetup hsetup
  have hstillRuns := (isStalled_reached p trackers before moment.elapsed).trans hruns
  generalize ((p.withTrackers trackers).performAll before).1 = reached at *
  have hvalid : (reached.converted moment).isValid = true :=
    hreached.converted_eq hwall ▸ hwall.isValid
  have harrival := hreached.arrival_of_tai (hsetup.mode.trans htai) moment
  refine ⟨_, ?_, (step_of_valid hstillRuns hvalid).1⟩
  rw [← hnormalizer, ← harrival]
  exact (Normalizer.step_of_valid hvalid).1

end Reached

/-- From settings without a warm-up, whose start can be read, a pipeline is made in every
mode. Whatever their trackers and operations are, those in the modes with a timescale give
the same answers, come to the same counts and feed their trackers alike, if the clock shows
a portable time at every step, in any order. After any operations a step is stalled, or it
delivers what a normalizer of atomic time makes of the time that the clock shows, if it was
given those of the units before. None of these units was dropped, and those corrected are
the ones that this normalizer corrected. -/
theorem timescales_agree {settings : PipelineSettings} {start : Timestamp}
    (hstart : settings.startTimestamp = .ok start) (hwarm : settings.invalidWarmupUnits = 0) :
    ∃ pipeline : InputMode → Pipeline,
      (∀ mode, make { settings with timestampMode := mode } = .ok (pipeline mode)) ∧
      (∀ trackers operations mode other, Portable operations → mode.scale? ≠ none →
        other.scale? ≠ none →
          let one := ((pipeline mode).withTrackers trackers).performAll operations
          let two := ((pipeline other).withTrackers trackers).performAll operations
          one.2 = two.2 ∧ one.1.counts = two.1.counts ∧ one.1.monitor = two.1.monitor) ∧
      ∀ trackers before moment mode, Portable (before ++ [.step moment]) → mode.scale? ≠ none →
        let reached := (((pipeline mode).withTrackers trackers).performAll before).1
        let readings := (pipeline mode).readings before
        let normalizer := ((Normalizer.fresh .tai start).run readings).1
        reached.counts = ⟨readings.length, readings.length, 0, normalizer.corrected⟩ ∧
          ((pipeline mode).isStalled moment.elapsed = true →
            (reached.step moment).outcome = .stalled ∧ (reached.step moment).next = reached) ∧
          ((pipeline mode).isStalled moment.elapsed = false →
            ∃ t, (normalizer.step ⟨moment.wall, moment.wall.ns⟩).outcome = .delivered t ∧
              (reached.step moment).outcome = .delivered t) := by
  let tai : PipelineSettings := { settings with timestampMode := .tai }
  have htaiStart : tai.startTimestamp = .ok start := hstart
  obtain ⟨p, hmake⟩ := make_of_startTimestamp htaiStart
  obtain ⟨made, hmade, hp⟩ := make_eq_ok hmake
  obtain rfl : start = made := Except.ok.inj (hstart.symm.trans hmade)
  have hfresh : p.normalizer = Normalizer.fresh .tai start := congrArg normalizer hp
  have hmode : p.normalizer.mode = .tai := congrArg Normalizer.mode hfresh
  have hclock : p.OnClock := by
    refine ⟨hmode ▸ Option.some_ne_none _, ?_⟩
    rw [hp]
    exact congrArg UInt32.toNat hwarm
  have hrun : ∀ trackers operations mode, Portable operations → mode.scale? ≠ none →
      ((p.inMode mode).withTrackers trackers).performAll operations =
        (((p.withTrackers trackers).performAll operations).1.inMode mode,
          ((p.withTrackers trackers).performAll operations).2) := by
    intro trackers operations mode hportable hscale
    exact (hclock.withTrackers trackers).performAll_inMode hscale hportable
  refine ⟨p.inMode, fun mode => ?_, ?_, ?_⟩
  · unfold make
    change settings.startTimestamp.bind _ = _
    rw [hstart, hp]
    rfl
  · intro trackers operations mode other hportable hscale hother one two
    have hone : one = _ := hrun trackers operations mode hportable hscale
    have htwo : two = _ := hrun trackers operations other hportable hother
    rw [hone, htwo]
    exact ⟨rfl, rfl, rfl⟩
  · intro trackers before moment mode hportable hscale reached readings normalizer
    have hbefore : Portable before := fun moment hmem =>
      hportable moment (List.mem_append_left _ hmem)
    have hwall : moment.wall.Portable :=
      hportable moment (List.mem_append_right _ List.mem_cons_self)
    have hreached : reached = ((p.withTrackers trackers).performAll before).1.inMode mode :=
      congrArg Prod.fst (hrun trackers before mode hbefore hscale)
    have hsame := isStalled_reached (p.inMode mode) trackers before moment.elapsed
    refine ⟨?_, fun hstalled => ?_, fun hruns => ?_⟩
    · have hcounts := OnClock.counts_reached hmake hclock hmode trackers hbefore
      rw [hfresh] at hcounts
      rw [hreached]
      exact hcounts
    · have hstep := step_of_isStalled (hsame.trans hstalled)
      exact ⟨congrArg Stepped.outcome hstep, congrArg Stepped.next hstep⟩
    · have hsetup := performAll_sameSetup (p.withTrackers trackers) before
      have hthere := (hclock.withTrackers trackers).sameSetup hsetup
      have hdelivers := hclock.outcome_reached hmode trackers before hwall hruns
      rw [hfresh] at hdelivers
      obtain ⟨t, hdelivered, houtcome⟩ := hdelivers
      rw [hreached]
      exact ⟨t, hdelivered, (hthere.step_inMode hscale hwall).1.trans houtcome⟩

/-- Units for a minute, all of them with a time of the clock. -/
def minuteLong : PipelineSettings :=
  { PipelineSettings.default with stallAfter := some minute }

/-- The clock shows the last portable time, and from then on an earlier one. -/
def setBack : List Operation :=
  [.step ⟨Duration.zero, ⟨Nanos.clamp 7014383273854775807⟩, Duration.zero⟩,
    .step (daylight minute), .step (daylight Duration.zero)]

/-- When the clock is set back from the last portable time, the network timescale and Unix
time move the next unit behind the one at this time alike. -/
theorem setBack_agrees :
    ∃ ntp utc, make { minuteLong with timestampMode := .ntp } = .ok ntp ∧
      make { minuteLong with timestampMode := .unixUtc } = .ok utc ∧
      ((ntp.withTrackers [unfed]).performAll setBack).2 =
        ((utc.withTrackers [unfed]).performAll setBack).2 ∧
      ((utc.withTrackers [unfed]).performAll setBack).1.counts = ⟨2, 2, 0, 1⟩ ∧
      (((utc.withTrackers [unfed]).performAll setBack).1.step (daylight Duration.zero)).outcome =
        .delivered ⟨Nanos.clamp 7014383273869775807⟩ := by
  have hportable : Portable (setBack ++ [.step (daylight Duration.zero)]) := by
    intro moment hmem
    simp only [setBack, List.cons_append, List.nil_append, List.mem_cons, Operation.step.injEq,
      List.not_mem_nil, or_false] at hmem
    rcases hmem with rfl | rfl | rfl | rfl <;> decide
  have hstart : minuteLong.startTimestamp = .ok Timestamp.invalid := rfl
  obtain ⟨pipeline, hmake, hagree, hdelivers⟩ := timescales_agree hstart rfl
  have hutc : pipeline .unixUtc =
      ⟨⟨topology, []⟩, Normalizer.fresh .unixUtc Timestamp.invalid, minuteLong.unitInterval,
        minuteLong.stallAfter, 0, 0, 0⟩ := (Except.ok.inj (hmake .unixUtc)).symm
  obtain ⟨hanswers, -, -⟩ := hagree [unfed] setBack .ntp .unixUtc
    (fun moment hmem => hportable moment (List.mem_append_left _ hmem)) (by decide) (by decide)
  obtain ⟨hcounts, -, hlast⟩ :=
    hdelivers [unfed] setBack (daylight Duration.zero) .unixUtc hportable (by decide)
  have hreadings : (pipeline .unixUtc).readings setBack =
      [⟨⟨Nanos.clamp 7014383273854775807⟩, Nanos.clamp 7014383273854775807⟩,
        ⟨⟨Nanos.clamp 1700000000000000000⟩, Nanos.clamp 1700000000000000000⟩] := by
    rw [hutc]
    rfl
  obtain ⟨t, houtcome, hdelivered⟩ := hlast (by rw [hutc]; decide)
  rw [hreadings] at hcounts houtcome
  have hrepeated : Normalizer.Outcome.delivered t =
      .delivered ⟨Nanos.clamp 7014383273869775807⟩ := houtcome.symm.trans (by decide)
  obtain rfl := Normalizer.Outcome.delivered.inj hrepeated
  exact ⟨_, _, hmake .ntp, hmake .unixUtc, hanswers, hcounts.trans (by decide), hdelivered⟩

end Pipeline

end FlowWatch
