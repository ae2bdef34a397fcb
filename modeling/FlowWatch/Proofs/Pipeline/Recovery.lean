import FlowWatch.Proofs.Pipeline.Accounting
import FlowWatch.Proofs.Time.Conversion

/-!
# What can still be delivered after a failure

The converter decides on every unit by itself, and nothing remembers that the stream
has failed. In a mode with a timescale of its own the source stamps its units by the
clock as soon as the warm-up is over, and then they have valid timestamps again; in the
network timescale the stream itself can also get past the epoch before that. In the
modes that shift all timestamps a failure means that the stream has left the range of
timestamps, from where it does not come back. So a failure is final in these modes only,
and in the others it can be followed by deliveries, of which the sink learns.
-/

namespace FlowWatch.Pipeline

/-- Operations whose clocks show a canonical timestamp at every step: a valid one, or
the sentinel. -/
def Clocked (operations : List Operation) : Prop :=
  ∀ moment, .step moment ∈ operations → 0 ≤ moment.wall.ns.val

/-- What lets the next unit have a valid timestamp after a failure, when the clock shows
this time: the stream has come past the epoch of the network timescale, or the warm-up
is over, the mode has a timescale and the clock shows a valid time. -/
def Recovers (p : Pipeline) (wall : Timestamp) : Prop :=
  (p.emitted < p.warmupUnits ∧ p.normalizer.mode = .ntp ∧
      (Timestamp.ofRaw p.streamTime .ntp).isValid = true) ∨
    p.warmupUnits ≤ p.emitted ∧ p.normalizer.mode.scale?.isSome = true ∧ wall.isValid = true

section Stamps

variable {p p' : Pipeline} {moment : Moment}

/-- The first unit is at the start of the stream. -/
theorem streamTime_of_first (h : p.emitted = 0) : p.streamTime.val = 0 := by
  rw [streamTime, h, show (Nanos.clamp ((0 : Nat) : Int)).val = 0 from rfl, Int.mul_zero]
  rfl

/-- The time of the stream never goes back. -/
theorem streamTime_mono (hinterval : p'.unitInterval = p.unitInterval)
    (hemitted : p.emitted ≤ p'.emitted) : p.streamTime.val ≤ p'.streamTime.val := by
  have hnonneg : 0 ≤ p.unitInterval.toSigned.val := Nanos.clamp_nonneg (Int.natCast_nonneg _)
  rw [streamTime, streamTime, hinterval]
  exact Nanos.clamp_mono <| Int.mul_le_mul_of_nonneg_left
    (Nanos.clamp_mono (Int.ofNat_le.2 hemitted)) hnonneg

/-- In the warm-up units come with the time of the stream. -/
theorem stamp_of_warmup (h : p.emitted < p.warmupUnits) (wall : Timestamp) :
    p.stamp wall = p.streamTime := if_pos h

/-- In the modes that shift timestamps all units come with the time of the stream. -/
theorem stamp_of_shifting (h : p.normalizer.mode.scale? = none) (wall : Timestamp) :
    p.stamp wall = p.streamTime := by
  unfold stamp
  cases hmode : p.normalizer.mode with
  | ntp | tai | unixUtc =>
    rw [hmode] at h
    cases h
  | startAtCurrentTime | startAtFixedTime => exact ite_self _

/-- There the first unit comes with the start of the stream. -/
theorem stamp_of_first (h : p.normalizer.mode.scale? = none) (hfirst : p.emitted = 0)
    (wall : Timestamp) : (p.stamp wall).val = 0 := by
  rw [stamp_of_shifting h, streamTime_of_first hfirst]

/-- In a mode with a timescale the stamp is read in it. -/
theorem converted_of_scale {scale : Timescale} (h : p.normalizer.mode.scale? = some scale) :
    p.converted moment = Timestamp.ofRaw (p.stamp moment.wall) scale := by
  simp only [converted, Normalizer.convert, h]
  rfl

/-- In the other modes the time of the stream is shifted. -/
theorem converted_of_shifting (h : p.normalizer.mode.scale? = none) :
    p.converted moment = Timestamp.collapse
      (p.streamTime.val + (p.normalizer.offsetFor (p.arrival moment)).val) := by
  simp only [converted, Normalizer.convert, h, arrival, stamp_of_shifting h]
  rfl

/-- Behind the warm-up a stamp of the clock is valid exactly if the clock shows a valid
time. -/
theorem converted_of_clock {scale : Timescale} (h : p.normalizer.mode.scale? = some scale)
    (hwarm : ¬p.emitted < p.warmupUnits) :
    (p.converted moment).isValid = true ↔ moment.wall.isValid = true := by
  have hgreatest : Timestamp.greatest.ns.val = 9223372036854775807 := rfl
  have hunix : moment.wall.unixNanos.val = max (-9223372036854775808)
      (min (moment.wall.ns.val - 37000000000) 9223372036854775807) := rfl
  have hbelow := moment.wall.ns.below
  rw [converted_of_scale h, Timestamp.ofRaw, Timestamp.isValid_collapse_iff,
    Timestamp.isValid_iff, hgreatest]
  unfold stamp
  rw [if_neg hwarm]
  cases hmode : p.normalizer.mode with
  | ntp =>
    rw [hmode] at h
    obtain rfl : Timescale.ntp = scale := Option.some.inj h
    have htoTai : Timescale.ntp.toTai = -2208988763000000000 := by decide
    have hstamp : (Nanos.clamp (moment.wall.unixNanos.val +
        (ntpEpochSeconds * Nanos.perSecond : Nat))).val = max (-9223372036854775808)
          (min (moment.wall.unixNanos.val + 2208988800000000000) 9223372036854775807) := rfl
    dsimp only
    rw [hstamp, htoTai, hunix]
    omega
  | tai =>
    rw [hmode] at h
    obtain rfl : Timescale.tai = scale := Option.some.inj h
    have htoTai : Timescale.tai.toTai = 0 := rfl
    dsimp only
    rw [htoTai]
    omega
  | unixUtc =>
    rw [hmode] at h
    obtain rfl : Timescale.unixUtc = scale := Option.some.inj h
    dsimp only
    rw [hunix, Timestamp.toTai_unixUtc]
    omega
  | startAtCurrentTime | startAtFixedTime =>
    rw [hmode] at h
    cases h

end Stamps

/-- What a run of any operations from settings keeps: the start is canonical, and in the
modes that shift timestamps the first unit decides on an offset that is not negative. -/
structure Anchored (p : Pipeline) : Prop where
  /-- The configured start is canonical. -/
  start_nonneg : 0 ≤ p.normalizer.start.ns.val
  /-- Without a decision there was no unit. -/
  undecided : p.normalizer.mode.scale? = none → p.normalizer.offset = none → p.emitted = 0
  /-- The offset is not negative. -/
  decided : ∀ offset, p.normalizer.offset = some offset → 0 ≤ offset.val

/-- What a failure leaves behind. The mode is not that of atomic time, which never
fails. In Unix time and in the modes that shift timestamps the stream has left the
range of timestamps. -/
def Spent (p : Pipeline) : Prop :=
  match p.normalizer.mode with
  | .ntp => True
  | .tai => False
  | .unixUtc => Timestamp.greatest.ns.val < p.streamTime.val + Timescale.unixUtc.toTai
  | .startAtCurrentTime | .startAtFixedTime =>
    ∃ offset, p.normalizer.offset = some offset ∧
      Timestamp.greatest.ns.val < p.streamTime.val + offset.val

/-- A start that was read is canonical. -/
theorem startTimestamp_nonneg {settings : PipelineSettings} {start : Timestamp}
    (h : settings.startTimestamp = .ok start) : 0 ≤ start.ns.val := by
  unfold PipelineSettings.startTimestamp at h
  cases hstart : settings.startUtc with
  | none =>
    rw [hstart] at h
    cases h
    exact Int.le_refl 0
  | some text =>
    rw [hstart] at h
    dsimp only [Timestamp.ofRfc3339] at h
    split at h
    · cases h
    · split at h
      · cases h
        exact Timestamp.collapse_nonneg _
      · cases h

/-- A new pipeline is anchored, whatever trackers there are. -/
theorem Anchored.of_make {settings : PipelineSettings} {p : Pipeline}
    (h : make settings = .ok p) (trackers : List Tracker) : (p.withTrackers trackers).Anchored := by
  obtain ⟨start, hstart, rfl⟩ := make_eq_ok h
  exact ⟨startTimestamp_nonneg hstart, fun _ _ => rfl, fun _ hoffset => by cases hoffset⟩

section Steps

variable {p p' next : Pipeline} {operation : Operation} {moment : Moment} {outcome : Outcome}

/-- The offset for a unit of an anchored pipeline is not negative, if the clock is
canonical. The first unit is at the start of the stream, and so the anchor is its
offset. -/
theorem Anchored.offsetFor_nonneg (h : p.Anchored) (hshift : p.normalizer.mode.scale? = none)
    (hwall : 0 ≤ moment.wall.ns.val) :
    0 ≤ (p.normalizer.offsetFor (p.arrival moment)).val := by
  unfold Normalizer.offsetFor
  cases hoffset : p.normalizer.offset with
  | some offset => exact h.decided offset hoffset
  | none =>
    have hstamp := stamp_of_first hshift (h.undecided hshift hoffset) moment.wall
    have hanchor : 0 ≤ (p.normalizer.anchor moment.wall).ns.val := by
      unfold Normalizer.anchor
      split
      · exact hwall
      · exact h.start_nonneg
    apply Nanos.clamp_nonneg
    show 0 ≤ (p.normalizer.anchor moment.wall).ns.val - (p.stamp moment.wall).val
    omega

/-- A step with a canonical clock keeps the pipeline anchored. -/
theorem Anchored.steps (h : p.Anchored) (hwall : 0 ≤ moment.wall.ns.val)
    (hstep : p.Steps moment outcome next) : next.Anchored := by
  rcases hstep.next_cases with ⟨-, rfl⟩ | ⟨delivered, hnext⟩
  · exact h
  · have hnormalizer : next.normalizer = (p.normalizer.step (p.arrival moment)).next :=
      congrArg normalizer hnext
    constructor
    · rw [hnormalizer, Normalizer.step_start]
      exact h.start_nonneg
    · rw [hnormalizer, Normalizer.step_mode]
      intro hshift hnone
      rw [Normalizer.step_offset_of_shifting hshift] at hnone
      cases hnone
    · rw [hnormalizer]
      intro offset hoffset
      cases hscale : p.normalizer.mode.scale? with
      | some scale =>
        rw [Normalizer.step_offset_of_scale hscale] at hoffset
        exact h.decided offset hoffset
      | none =>
        rw [Normalizer.step_offset_of_shifting hscale] at hoffset
        obtain rfl := Option.some.inj hoffset
        exact h.offsetFor_nonneg hscale hwall

/-- So does every operation whose clock is canonical. -/
theorem Anchored.moves (h : p.Anchored) (hmoves : p.Moves operation p')
    (hclock : ∀ moment, operation = .step moment → 0 ≤ moment.wall.ns.val) : p'.Anchored := by
  rcases hmoves.withMonitor_or_steps with ⟨monitor, rfl⟩ | ⟨moment, outcome, rfl, hstep⟩
  · exact ⟨h.start_nonneg, h.undecided, h.decided⟩
  · exact h.steps (hclock moment rfl) hstep

/-- A unit that fails an anchored pipeline finds the stream out of range, unless the
mode is that of the network timescale. By the clock only invalid times are out of
range, and their stamps are early. -/
theorem Anchored.spent (h : p.Anchored) (hinvalid : (p.converted moment).isValid = false)
    (hlate : Normalizer.grace.val < (p.stamp moment.wall).val) : p.Spent := by
  have hgreatest : Timestamp.greatest.ns.val = 9223372036854775807 := rfl
  have hgrace : Normalizer.grace.val = 15000000000 := rfl
  have hbelow := (p.stamp moment.wall).below
  have hvalid : ¬(p.converted moment).isValid = true := by
    rw [hinvalid]
    exact Bool.false_ne_true
  unfold Spent
  cases hmode : p.normalizer.mode with
  | ntp => trivial
  | tai =>
    have hscale : p.normalizer.mode.scale? = some .tai := congrArg InputMode.scale? hmode
    have htoTai : Timescale.tai.toTai = 0 := rfl
    rw [converted_of_scale hscale, Timestamp.ofRaw, Timestamp.isValid_collapse_iff,
      htoTai] at hvalid
    dsimp only
    omega
  | unixUtc =>
    have hscale : p.normalizer.mode.scale? = some .unixUtc := congrArg InputMode.scale? hmode
    have htoTai := Timestamp.toTai_unixUtc
    by_cases hwarm : p.emitted < p.warmupUnits
    · have hstamp := stamp_of_warmup hwarm moment.wall
      rw [converted_of_scale hscale, Timestamp.ofRaw, Timestamp.isValid_collapse_iff] at hvalid
      rw [hstamp] at hvalid hlate
      dsimp only
      omega
    · rw [converted_of_clock hscale hwarm, Timestamp.isValid_iff] at hvalid
      have hstamp : (p.stamp moment.wall).val = max (-9223372036854775808)
          (min (moment.wall.ns.val - 37000000000) 9223372036854775807) := by
        unfold stamp
        rw [if_neg hwarm, hmode]
        rfl
      omega
  | startAtCurrentTime | startAtFixedTime =>
    have hshift : p.normalizer.mode.scale? = none := congrArg InputMode.scale? hmode
    have hstamp := stamp_of_shifting hshift moment.wall
    rw [converted_of_shifting hshift, Timestamp.isValid_collapse_iff] at hvalid
    rw [hstamp] at hlate
    cases hoffset : p.normalizer.offset with
    | none =>
      have hfirst := streamTime_of_first (h.undecided hshift hoffset)
      omega
    | some offset =>
      have hdecided := h.decided offset hoffset
      rw [Normalizer.offsetFor, hoffset, Option.getD_some] at hvalid
      exact ⟨offset, rfl, by omega⟩

/-- A stream that is out of range stays so, as its time never goes back. -/
theorem Spent.mono (h : p.Spent) (hsetup : p.SameSetup p') (hemitted : p.emitted ≤ p'.emitted)
    (hoffset : ∀ offset, p.normalizer.offset = some offset →
      p'.normalizer.offset = some offset) : p'.Spent := by
  have htime := streamTime_mono hsetup.unitInterval hemitted
  unfold Spent at h ⊢
  rw [hsetup.mode]
  cases hmode : p.normalizer.mode with
  | ntp => trivial
  | tai =>
    rw [hmode] at h
    exact h
  | unixUtc =>
    rw [hmode] at h
    exact Int.lt_of_lt_of_le h (Int.add_le_add_right htime _)
  | startAtCurrentTime | startAtFixedTime =>
    rw [hmode] at h
    obtain ⟨offset, hdecided, hover⟩ := h
    exact ⟨offset, hoffset offset hdecided,
      Int.lt_of_lt_of_le hover (Int.add_le_add_right htime _)⟩

/-- No operation brings the stream back into range. -/
theorem Spent.moves (h : p.Spent) (hmoves : p.Moves operation p') : p'.Spent := by
  have hsetup := hmoves.sameSetup
  rcases hmoves.withMonitor_or_steps with ⟨monitor, rfl⟩ | ⟨moment, outcome, -, hstep⟩
  · exact h.mono hsetup (Nat.le_refl _) fun _ hoffset => hoffset
  · rcases hstep.next_cases with ⟨-, rfl⟩ | ⟨delivered, rfl⟩
    · exact h
    · exact h.mono hsetup (Nat.le_succ _) fun offset hoffset =>
        Normalizer.step_offset_of_some hoffset _

/-- A stream out of range has no valid timestamps where all of them are shifted. -/
theorem Spent.converted_of_shifting (h : p.Spent) (hshift : p.normalizer.mode.scale? = none) :
    ¬(p.converted moment).isValid = true := by
  rw [Pipeline.converted_of_shifting hshift, Timestamp.isValid_collapse_iff]
  unfold Spent at h
  cases hmode : p.normalizer.mode with
  | ntp | tai | unixUtc =>
    rw [hmode] at hshift
    cases hshift
  | startAtCurrentTime | startAtFixedTime =>
    rw [hmode] at h
    obtain ⟨offset, hoffset, hover⟩ := h
    rw [Normalizer.offsetFor, hoffset, Option.getD_some]
    omega

/-- In the warm-up the time of the stream has to be past the epoch of the network
timescale. -/
theorem Spent.converted_of_warmup (h : p.Spent) (hwarm : p.emitted < p.warmupUnits) :
    (p.converted moment).isValid = true ↔
      p.normalizer.mode = .ntp ∧ (Timestamp.ofRaw p.streamTime .ntp).isValid = true := by
  have hspent := h
  unfold Spent at h
  cases hmode : p.normalizer.mode with
  | ntp =>
    have hscale : p.normalizer.mode.scale? = some .ntp := congrArg InputMode.scale? hmode
    rw [converted_of_scale hscale, stamp_of_warmup hwarm]
    exact ⟨fun hvalid => ⟨rfl, hvalid⟩, fun hboth => hboth.2⟩
  | tai =>
    rw [hmode] at h
    exact h.elim
  | unixUtc =>
    have hscale : p.normalizer.mode.scale? = some .unixUtc := congrArg InputMode.scale? hmode
    rw [hmode] at h
    rw [converted_of_scale hscale, stamp_of_warmup hwarm, Timestamp.ofRaw,
      Timestamp.isValid_collapse_iff]
    dsimp only at h
    exact ⟨fun hvalid => by omega, fun hboth => by cases hboth.1⟩
  | startAtCurrentTime | startAtFixedTime =>
    have hshift : p.normalizer.mode.scale? = none := congrArg InputMode.scale? hmode
    exact ⟨fun hvalid => absurd hvalid (hspent.converted_of_shifting hshift),
      fun hboth => by cases hboth.1⟩

/-- After a failure exactly a pipeline that recovers has a valid timestamp for the next
unit. -/
theorem Spent.converted_isValid_iff (h : p.Spent) :
    (p.converted moment).isValid = true ↔ p.Recovers moment.wall := by
  unfold Recovers
  rcases Nat.lt_or_ge p.emitted p.warmupUnits with hwarm | hwarm
  · rw [h.converted_of_warmup hwarm]
    exact ⟨fun hpast => .inl ⟨hwarm, hpast⟩, fun hrecovers =>
      hrecovers.elim (·.2) fun hclock => absurd hclock.1 (Nat.not_le.2 hwarm)⟩
  · cases hscale : p.normalizer.mode.scale? with
    | some scale =>
      rw [converted_of_clock hscale (Nat.not_lt.2 hwarm)]
      exact ⟨fun hvalid => .inr ⟨hwarm, rfl, hvalid⟩, fun hrecovers =>
        hrecovers.elim (fun hpast => absurd hpast.1 (Nat.not_lt.2 hwarm)) (·.2.2)⟩
    | none =>
      exact ⟨fun hvalid => absurd hvalid (h.converted_of_shifting hscale), fun hrecovers =>
        hrecovers.elim (fun hpast => absurd hpast.1 (Nat.not_lt.2 hwarm)) (by simp)⟩

end Steps

section Runs

variable {p : Pipeline} {operations : List Operation}

/-- A failure in a run leaves a stream that is out of range, and a source that has not
stalled for good. -/
theorem Anchored.spent_of_failed (h : p.Anchored) (hclock : Clocked operations)
    {fault : Timestamp.Fault} (hfailed : .outcome (.failed fault) ∈ (p.performAll operations).2) :
    (p.performAll operations).1.Spent ∧
      ∃ elapsed, (p.performAll operations).1.isStalled elapsed = false := by
  obtain ⟨before, moment, after, rfl, houtcome⟩ := exists_step_of_outcome hfailed
  have hbefore : (p.performAll before).1.Anchored := by
    refine performAll_of_moves h before fun hmem hq hmoves => hq.moves hmoves ?_
    rintro moment rfl
    exact hclock moment (List.mem_append_left _ hmem)
  have hstep := (p.performAll before).1.step_steps moment
  rw [houtcome] at hstep
  obtain ⟨hruns, hinvalid, hlate⟩ := hstep.of_failed
  have hsetup := performAll_sameSetup (p.performAll before).1 (.step moment :: after)
  rw [performAll_append]
  constructor
  · exact performAll_of_moves (hbefore.spent hinvalid hlate) _ fun _ hq => hq.moves
  · refine ⟨moment.elapsed, ?_⟩
    rw [hsetup.isStalled_eq]
    exact hruns

/-- Where all timestamps are shifted nothing is delivered after a failure. -/
theorem Spent.not_delivered (h : p.Spent) (hshift : p.normalizer.mode.scale? = none)
    (operations : List Operation) (t : Timestamp) :
    .outcome (.delivered t) ∉ (p.performAll operations).2 := by
  intro hdelivered
  obtain ⟨before, moment, after, rfl, houtcome⟩ := exists_step_of_outcome hdelivered
  have hspent : (p.performAll before).1.Spent :=
    performAll_of_moves h before fun _ hq => hq.moves
  have hvalid := ((step_delivers_iff _ moment).1 ⟨t, houtcome⟩).2
  have hmode := (performAll_sameSetup p before).mode
  exact hspent.converted_of_shifting (hmode ▸ hshift) hvalid

/-- In a mode with a timescale, with a clock that shows a valid time, a unit is delivered
once the warm-up is over, unless the source stalls. -/
theorem exists_delivered_of_clock {scale : Timescale} {moment : Moment}
    (hscale : p.normalizer.mode.scale? = some scale)
    (hruns : p.isStalled moment.elapsed = false) (hwall : moment.wall.isValid = true)
    (n : Nat) (hwarm : p.warmupUnits ≤ p.emitted + n) :
    ∃ t, .outcome (.delivered t) ∈ (p.performAll (List.replicate (n + 1) (.step moment))).2 := by
  induction n generalizing p with
  | zero =>
    have hvalid := (converted_of_clock hscale (Nat.not_lt.2 hwarm)).2 hwall
    obtain ⟨t, houtcome⟩ := (p.step_delivers_iff moment).2 ⟨hruns, hvalid⟩
    exact ⟨t, List.mem_cons.2 (.inl (congrArg Answer.outcome houtcome.symm))⟩
  | succ n ih =>
    have hsetup := (p.step_steps moment).sameSetup
    have hemitted := step_emitted hruns
    obtain ⟨t, hlater⟩ := ih (p := (p.step moment).next) (hsetup.mode ▸ hscale)
      ((hsetup.isStalled_eq _).trans hruns)
      (by rw [hsetup.warmupUnits, hemitted]; omega)
    exact ⟨t, List.mem_cons_of_mem _ hlater⟩

/-- A unit that is not delivered does not reach the probes behind the converter. -/
theorem Steps.untouched {next : Pipeline} {moment : Moment} {outcome : Outcome}
    (h : p.Steps moment outcome next) (hnone : ∀ t, outcome ≠ .delivered t) {k : Nat}
    (hbehind : p.monitor.topology.feeders k sourcePads = []) :
    next.monitor.trackers[k]? = p.monitor.trackers[k]? := by
  have hunfed : p.monitor.topology.feeders k outcome.pads = [] := by
    cases outcome with
    | delivered t => exact absurd rfl (hnone t)
    | dropped | failed => exact hbehind
    | stalled => rfl
  rw [h.tracker k, hunfed]
  exact Option.map_id_apply

/-- Without a delivery a tracker whose probes are all behind the converter stays as it
is, as long as nothing is pushed by hand. -/
theorem performAll_untouched {k : Nat} {t : Tracker}
    (hhand : ∀ element pad reading, .push element pad reading ∉ operations)
    (hnone : ∀ t, .outcome (.delivered t) ∉ (p.performAll operations).2)
    (ht : p.monitor.trackers[k]? = some t)
    (hbehind : (p.performAll operations).1.monitor.topology.feeders k sourcePads = []) :
    (p.performAll operations).1.monitor.trackers[k]? = some t := by
  induction operations generalizing p with
  | nil => exact ht
  | cons operation rest ih =>
    have hfeeders : p.monitor.topology.feeders k sourcePads = [] := by
      have hgrown := p.performAll_feeders (operation :: rest) k sourcePads
      rw [hbehind] at hgrown
      exact List.sublist_nil.1 hgrown
    have hhere : (p.perform operation).next.monitor.trackers[k]? = some t := by
      have hnotPush : ∀ element pad reading, operation ≠ .push element pad reading :=
        fun element pad reading h => hhand element pad reading (h ▸ List.mem_cons_self)
      rcases (p.perform_moves operation).kept_or_steps hnotPush with
        ⟨monitor, hnext, hkept⟩ | ⟨moment, -, rfl, -⟩
      · rw [hnext]
        exact (hkept k (List.getElem?_eq_some_iff.1 ht).1).trans ht
      · refine ((p.step_steps moment).untouched (fun t houtcome => ?_) hfeeders).trans ht
        exact hnone t (List.mem_cons.2 (.inl (congrArg Answer.outcome houtcome.symm)))
    exact ih (fun element pad reading h => hhand element pad reading (List.mem_cons_of_mem _ h))
      (fun t h => hnone t (List.mem_cons_of_mem _ h)) hhere hbehind

end Runs

/-- After a failure in a run with canonical clocks a step delivers exactly if the source
has not stalled and the pipeline recovers. So a failure is final in no mode but those
that shift all timestamps. As long as nothing is delivered or pushed by hand, a tracker
whose probes are all behind the converter stays as it is. -/
theorem delivery_after_failure {settings : PipelineSettings} {p : Pipeline}
    (hmake : make settings = .ok p) (trackers : List Tracker) {before : List Operation}
    (hclock : Clocked before) {fault : Timestamp.Fault}
    (hfailed : .outcome (.failed fault) ∈ ((p.withTrackers trackers).performAll before).2) :
    let failed := ((p.withTrackers trackers).performAll before).1
    (∀ moment, (∃ t, (failed.step moment).outcome = .delivered t) ↔
        failed.isStalled moment.elapsed = false ∧ failed.Recovers moment.wall) ∧
      ((∀ after, Clocked after → ∀ t, .outcome (.delivered t) ∉ (failed.performAll after).2) ↔
        settings.timestampMode.scale? = none) ∧
      ∀ after, (∀ element pad reading, .push element pad reading ∉ after) →
        (∀ t, .outcome (.delivered t) ∉ (failed.performAll after).2) →
        ∀ k t, failed.monitor.trackers[k]? = some t →
          (failed.performAll after).1.monitor.topology.feeders k sourcePads = [] →
            (failed.performAll after).1.monitor.trackers[k]? = some t := by
  intro failed
  obtain ⟨hspent, elapsed, hruns⟩ :=
    (Anchored.of_make hmake trackers).spent_of_failed hclock hfailed
  have hmode : failed.normalizer.mode = settings.timestampMode := by
    refine (performAll_sameSetup _ before).mode.trans ?_
    obtain ⟨start, -, rfl⟩ := make_eq_ok hmake
    rfl
  refine ⟨fun moment => ?_, ⟨fun hfinal => ?_, fun hshift after _ t => ?_⟩,
    fun after hhand hnone k t ht hbehind => performAll_untouched hhand hnone ht hbehind⟩
  · rw [step_delivers_iff, hspent.converted_isValid_iff]
  · cases hscale : settings.timestampMode.scale? with
    | none => rfl
    | some scale =>
      let moment : Moment := ⟨elapsed, Timestamp.least, Duration.zero⟩
      have hwall : moment.wall.isValid = true := rfl
      obtain ⟨t, hdelivered⟩ := exists_delivered_of_clock (hmode ▸ hscale) hruns hwall
        failed.warmupUnits (Nat.le_add_left _ _)
      refine absurd hdelivered (hfinal _ ?_ t)
      intro other hother
      rw [Operation.step.inj (List.eq_of_mem_replicate hother)]
      exact Int.le_of_lt (Timestamp.isValid_iff.1 hwall)
  · exact hspent.not_delivered (hmode ▸ hshift) after t

/-- A probe at the sink, and two units of which the second one fails the stream. -/
def failedAtSink : List Operation :=
  [.attach ⟨"sink", "sink"⟩ 0, .step (daylight Duration.zero), .step (daylight Duration.zero)]

/-- A step at which the source has stalled. -/
def stalling : List Operation := [.step (daylight minute)]

/-- The third unit comes behind the warm-up, so that it is delivered. If the source
stalls before it, the tracker at the sink remains unfed. -/
theorem third_unit_delivered :
    (∃ t, (((slowStart.withTrackers [unfed]).performAll failedAtSink).1.step
        (daylight Duration.zero)).outcome = .delivered t) ∧
      (∃ after, Clocked after ∧ ∃ t, .outcome (.delivered t) ∈
        (((slowStart.withTrackers [unfed]).performAll failedAtSink).1.performAll after).2) ∧
      (((slowStart.withTrackers [unfed]).performAll failedAtSink).1.performAll
        stalling).1.monitor.trackers[0]? = some unfed := by
  have hclock : Clocked failedAtSink := by
    intro moment hmem
    obtain rfl : moment = daylight Duration.zero := by
      simpa [failedAtSink] using hmem
    decide
  have hmake : make slowUnits = .ok slowStart := rfl
  have hfailed : .outcome (.failed (.unconvertible (Nanos.clamp 16000000000) "ntp")) ∈
      ((slowStart.withTrackers [unfed]).performAll failedAtSink).2 := by decide
  have hhand : ∀ element pad reading, .push element pad reading ∉ stalling := by
    intro element pad reading hmem
    cases List.mem_singleton.1 hmem
  have hanswers : (((slowStart.withTrackers [unfed]).performAll failedAtSink).1.performAll
      stalling).2 = [.outcome .stalled] := by decide
  obtain ⟨hdelivers, hfinal, huntouched⟩ :=
    delivery_after_failure hmake [unfed] hclock hfailed
  refine ⟨(hdelivers (daylight Duration.zero)).2
    ⟨by decide, .inr ⟨by decide, by decide, by decide⟩⟩, ?_,
    huntouched stalling hhand (fun t hmem => ?_) 0 unfed (by decide) (by decide)⟩
  · refine Classical.byContradiction fun hnever => ?_
    have hshift : slowUnits.timestampMode.scale? = none :=
      hfinal.1 fun after hafter t hdelivered => hnever ⟨after, hafter, t, hdelivered⟩
    cases hshift
  · rw [hanswers] at hmem
    cases List.mem_singleton.1 hmem

/-- With a unit every sixteen seconds and two of them in the warm-up, the second step
fails and the third one delivers, and the tracker at the sink is updated. -/
theorem failure_not_final :
    let failed := (slowStart.withTrackers [unfed]).performAll failedAtSink
    let later := failed.1.performAll [.step (daylight Duration.zero)]
    make slowUnits = .ok slowStart ∧
      failed.2 = [.attached, .outcome .dropped,
        .outcome (.failed (.unconvertible (Nanos.clamp 16000000000) "ntp"))] ∧
      failed.1.monitor.trackers.map (·.updates) = [0] ∧
      later.2 = [.outcome (.delivered (daylight Duration.zero).wall)] ∧
      later.1.monitor.trackers.map (·.updates) = [1] := by
  exact ⟨rfl, by decide, by decide, by decide, by decide⟩

end FlowWatch.Pipeline
