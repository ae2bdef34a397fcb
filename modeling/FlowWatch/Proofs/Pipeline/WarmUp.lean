import FlowWatch.Proofs.Config.Validation
import FlowWatch.Proofs.Pipeline.Schedule

/-!
# The units of the warm-up

A source that has no time of the clock yet stamps its units with the time of the stream,
and these stamps are read in the network timescale like all others. They begin at zero,
and so most of them are before the beginning of atomic time, which that timescale shows
after seventy years. These units are dropped in the first seconds and fail behind them.
But nothing bounds the time between two units or the length of the warm-up. So a stream
can get past the seventy years within the warm-up, and from there on its units are
delivered, with the times since then.
-/

namespace FlowWatch.Pipeline

/-- What a run of any operations keeps in the network timescale: in the warm-up nothing
that is remembered was moved, nor is it beyond the time of the stream. -/
structure WarmingUp (p : Pipeline) : Prop where
  /-- The mode is that of the network timescale. -/
  mode : p.normalizer.mode = .ntp
  /-- The last output is the last input, and its time was not behind that of the next. -/
  remembered : p.emitted ≤ p.warmupUnits →
    p.normalizer.Trails (p.streamTime.val + Timescale.ntp.toTai)

/-- A new pipeline in the network timescale is warming up, whatever trackers there are. -/
theorem WarmingUp.of_make {settings : PipelineSettings} {p : Pipeline}
    (hmake : make settings = .ok p) (hmode : settings.timestampMode = .ntp)
    (trackers : List Tracker) : (p.withTrackers trackers).WarmingUp := by
  obtain ⟨start, -, rfl⟩ := make_eq_ok hmake
  refine ⟨hmode, fun _ input hinput => ?_⟩
  cases hinput

section WarmingUp

variable {p p' next : Pipeline} {operation : Operation} {moment : Moment} {outcome : Outcome}

/-- The mode takes stamps as counts of the network timescale. -/
theorem WarmingUp.scale (h : p.WarmingUp) : p.normalizer.mode.scale? = some .ntp :=
  congrArg InputMode.scale? h.mode

/-- A unit of the warm-up is converted from the time of the stream. -/
theorem WarmingUp.converted_eq (h : p.WarmingUp) (hwarm : p.emitted < p.warmupUnits)
    (moment : Moment) :
    p.converted moment = Timestamp.collapse (p.streamTime.val + Timescale.ntp.toTai) := by
  rw [converted_of_scale h.scale, stamp_of_warmup hwarm]
  rfl

/-- A valid conversion is exact. -/
theorem WarmingUp.converted_val (h : p.WarmingUp) (hwarm : p.emitted < p.warmupUnits)
    (hvalid : (p.converted moment).isValid = true) :
    (p.converted moment).ns.val = p.streamTime.val + Timescale.ntp.toTai := by
  rw [h.converted_eq hwarm] at hvalid ⊢
  exact Timestamp.collapse_val_of_valid hvalid

/-- A conversion is valid behind the beginning of atomic time. -/
theorem WarmingUp.converted_isValid_iff (h : p.WarmingUp) (hwarm : p.emitted < p.warmupUnits)
    (moment : Moment) :
    (p.converted moment).isValid = true ↔
      (ntpEpochSeconds - 37) * 1000000000 < p.streamTime.val := by
  have htoTai : Timescale.ntp.toTai = -2208988763000000000 := by decide
  have hepoch : (ntpEpochSeconds : Int) = 2208988800 := rfl
  have hgreatest : Timestamp.greatest.ns.val = 9223372036854775807 := rfl
  have hbelow := p.streamTime.below
  rw [h.converted_eq hwarm, Timestamp.isValid_collapse_iff, htoTai, hepoch, hgreatest]
  omega

/-- A step keeps the pipeline warming up. The unit was one of the warm-up, since the
next one is so or is the first behind it. -/
theorem WarmingUp.steps (h : p.WarmingUp) (hstep : p.Steps moment outcome next) :
    next.WarmingUp := by
  rcases hstep.next_cases with ⟨-, rfl⟩ | ⟨delivered, rfl⟩
  · exact h
  · refine ⟨(p.normalizer.step_mode _).trans h.mode, fun hwarm => ?_⟩
    have hhere : p.emitted < p.warmupUnits := Nat.lt_of_succ_le hwarm
    have hmemory := h.remembered (Nat.le_of_lt hhere)
    obtain ⟨htrails, -⟩ := hmemory.step (h.converted_val hhere)
    have htime : p.streamTime.val ≤ (Pipeline.streamTime
        { p.produced moment outcome.pads with delivered := delivered }).val :=
      streamTime_mono rfl (Nat.le_succ _)
    intro input hinput
    obtain ⟨hsame, hbefore⟩ := htrails input hinput
    exact ⟨hsame, by omega⟩

/-- So does every operation. -/
theorem WarmingUp.moves (h : p.WarmingUp) (hmoves : p.Moves operation p') : p'.WarmingUp := by
  rcases hmoves.withMonitor_or_steps with ⟨monitor, rfl⟩ | ⟨moment, outcome, -, hstep⟩
  · exact ⟨h.mode, h.remembered⟩
  · exact h.steps hstep

/-- The outcome of a unit of the warm-up by the time of the stream. -/
theorem WarmingUp.outcome_eq (h : p.WarmingUp) (hwarm : p.emitted < p.warmupUnits)
    (hruns : p.isStalled moment.elapsed = false) :
    (p.step moment).outcome =
      if (ntpEpochSeconds - 37) * 1000000000 < p.streamTime.val then
        .delivered (p.converted moment)
      else if p.streamTime.val ≤ 15 * 1000000000 then .dropped
      else .failed (.unconvertible p.streamTime "ntp") := by
  have hgrace : Normalizer.grace.val = 15 * 1000000000 := rfl
  have hrange := h.converted_isValid_iff hwarm moment
  have hstamp := stamp_of_warmup hwarm moment.wall
  have hstep := p.step_steps moment
  generalize (p.step moment).outcome = outcome at hstep ⊢
  generalize (p.step moment).next = next at hstep
  cases hstep with
  | stalled hstalled =>
    rw [hruns] at hstalled
    cases hstalled
  | delivered _ hvalid =>
    have hmemory := h.remembered (Nat.le_of_lt hwarm)
    have hval := h.converted_val hwarm hvalid
    rw [if_pos (hrange.1 hvalid), (Normalizer.Trails.output_eq (hval.symm ▸ hmemory)).1]
  | dropped _ hinvalid hearly =>
    rw [hinvalid] at hrange
    rw [hstamp, hgrace] at hearly
    rw [if_neg (fun hpast => Bool.false_ne_true (hrange.2 hpast)), if_pos hearly]
  | failed _ hinvalid hlate =>
    rw [hinvalid] at hrange
    rw [hstamp, hgrace] at hlate
    rw [if_neg (fun hpast => Bool.false_ne_true (hrange.2 hpast)), if_neg (Int.not_le.2 hlate),
      hstamp, h.mode]
    rfl

end WarmingUp

section Reached

variable {settings : PipelineSettings} {p : Pipeline}

/-- The outcome of a unit of the warm-up after any operations, by its time. -/
theorem outcome_of_warmup (hmake : make settings = .ok p)
    (hmode : settings.timestampMode = .ntp) (trackers : List Tracker) (before : List Operation)
    {moment : Moment} (hplace : before.countP p.produces < settings.invalidWarmupUnits.toNat)
    (hruns : p.isStalled moment.elapsed = false) :
    let time := unitTime settings.unitInterval (before.countP p.produces)
    let outcome := (((p.withTrackers trackers).performAll before).1.step moment).outcome
    (time ≤ 15 * 1000000000 → outcome = .dropped) ∧
      (15 * 1000000000 < time → time ≤ (ntpEpochSeconds - 37) * 1000000000 →
        ∃ raw, raw.val = time ∧ outcome = .failed (.unconvertible raw "ntp")) ∧
      ((ntpEpochSeconds - 37) * 1000000000 < time →
        ∃ t, outcome = .delivered t ∧
          t.ns.val = time - (ntpEpochSeconds - 37) * 1000000000) := by
  have hepoch : (ntpEpochSeconds : Int) = 2208988800 := rfl
  have htime := streamTime_reached hmake trackers before
  have hemitted := emitted_reached hmake trackers before
  have hwarmup := (performAll_sameSetup (p.withTrackers trackers) before).warmupUnits
  have hstillRuns := (isStalled_reached p trackers before moment.elapsed).trans hruns
  have hreached : ((p.withTrackers trackers).performAll before).1.WarmingUp :=
    performAll_of_moves (P := WarmingUp) (.of_make hmake hmode trackers) before
      fun _ hq hmoves => hq.moves hmoves
  generalize ((p.withTrackers trackers).performAll before).1 = reached at *
  have hwarm : reached.emitted < reached.warmupUnits := by
    rw [hemitted, hwarmup]
    obtain ⟨start, -, rfl⟩ := make_eq_ok hmake
    exact hplace
  have houtcome := hreached.outcome_eq hwarm hstillRuns
  have hrange := hreached.converted_isValid_iff hwarm moment
  rw [htime] at houtcome hrange
  intro time outcome
  refine ⟨fun hearly => ?_, fun hlate hbefore => ⟨reached.streamTime, htime, ?_⟩,
    fun hpast => ⟨reached.converted moment, houtcome.trans (if_pos hpast), ?_⟩⟩
  · exact houtcome.trans (by rw [if_neg (by omega), if_pos hearly])
  · exact houtcome.trans (by rw [if_neg (Int.not_lt.2 hbefore), if_neg (Int.not_le.2 hlate)])
  · have htoTai : Timescale.ntp.toTai = -2208988763000000000 := by decide
    rw [hreached.converted_val hwarm (hrange.2 hpast), htime, htoTai, hepoch]
    rfl

/-- A source that does not stall from the beginning runs at the start. -/
theorem isStalled_zero (hmake : make settings = .ok p)
    (hstall : settings.stallAfter ≠ some Duration.zero) : p.isStalled Duration.zero = false := by
  obtain ⟨start, -, rfl⟩ := make_eq_ok hmake
  unfold isStalled
  cases hafter : settings.stallAfter with
  | none => rfl
  | some after =>
    rw [hafter] at hstall
    refine decide_eq_false fun hle => hstall (congrArg some (Duration.ext ?_))
    exact Nat.le_zero.1 hle

/-- Unless the source stalls from the beginning, no unit of the warm-up is ever
delivered exactly if the last of them comes no later than the beginning of atomic
time. As many steps at the start as there are units before it lead to the last
one. -/
theorem warmup_withheld_iff (hmake : make settings = .ok p)
    (hmode : settings.timestampMode = .ntp)
    (hstall : settings.stallAfter ≠ some Duration.zero) :
    (∀ trackers before moment t, before.countP p.produces < settings.invalidWarmupUnits.toNat →
        p.isStalled moment.elapsed = false →
          (((p.withTrackers trackers).performAll before).1.step moment).outcome ≠ .delivered t) ↔
      unitTime settings.unitInterval (settings.invalidWarmupUnits.toNat - 1) ≤
        (ntpEpochSeconds - 37) * 1000000000 := by
  have hepoch : (ntpEpochSeconds - 37) * 1000000000 < Nanos.greatest.val := by decide
  have hruns := isStalled_zero hmake hstall
  rcases Nat.eq_zero_or_pos settings.invalidWarmupUnits.toNat with hnone | hsome
  · rw [hnone, unitTime_le_iff hepoch, Nat.zero_sub, Nat.zero_mul]
    exact iff_of_true (fun _ _ _ _ hplace => absurd hplace (Nat.not_lt_zero _)) (by decide)
  constructor
  · intro hnever
    let first : Moment := ⟨Duration.zero, Timestamp.invalid, Duration.zero⟩
    let before := List.replicate (settings.invalidWarmupUnits.toNat - 1) (Operation.step first)
    have hproduces : p.produces (.step first) = true := by
      show (!p.isStalled Duration.zero) = true
      rw [hruns]
      rfl
    have hcount : before.countP p.produces = settings.invalidWarmupUnits.toNat - 1 := by
      rw [List.countP_replicate, if_pos hproduces]
    have hplace : before.countP p.produces < settings.invalidWarmupUnits.toNat := by omega
    have hrunsFirst : p.isStalled first.elapsed = false := hruns
    obtain ⟨-, -, hdelivers⟩ := outcome_of_warmup hmake hmode [] before hplace hrunsFirst
    rw [hcount] at hdelivers
    refine Int.not_lt.1 fun hpast => ?_
    obtain ⟨t, houtcome, -⟩ := hdelivers hpast
    exact hnever [] before first t hplace hruns houtcome
  · intro hwithin trackers before moment t hplace hrunning houtcome
    have hlast := unitTime_mono settings.unitInterval (Nat.le_sub_one_of_lt hplace)
    obtain ⟨hdropped, hfailed, -⟩ := outcome_of_warmup hmake hmode trackers before hplace hrunning
    rcases Int.lt_or_le (15 * 1000000000)
      (unitTime settings.unitInterval (before.countP p.produces)) with hlate | hearly
    · obtain ⟨raw, -, hfails⟩ := hfailed hlate (Int.le_trans hlast hwithin)
      cases hfails.symm.trans houtcome
    · cases (hdropped hearly).symm.trans houtcome

end Reached

/-- From settings that pass all checks, with the network timescale, a pipeline is made. After
any operations of it, with any trackers, the number of steps among them that were not
stalled is the place of the next unit, and so many intervals are its time. If it is a unit of
the warm-up, a step that is not stalled drops it in the first fifteen seconds, fails with
its time up to the beginning of atomic time, and delivers it behind that, as far behind as
the time is, which stops at the greatest count. So, unless the source stalls from the
beginning, no unit of the warm-up is ever delivered exactly if the last of them comes no
later than the beginning of atomic time. -/
theorem warmup_by_time {s : Settings} (hvalid : Config.validate s = .ok ())
    (hmode : s.pipeline.timestampMode = .ntp) :
    ∃ p, make s.pipeline = .ok p ∧
      let units := s.pipeline.invalidWarmupUnits.toNat
      let time := fun place : Nat => ((place * s.pipeline.unitInterval.nanos : Nat) : Int)
      let outcome := fun trackers before moment =>
        (((p.withTrackers trackers).performAll before).1.step moment).outcome
      (∀ trackers before moment, before.countP p.produces < units →
        p.isStalled moment.elapsed = false →
          let here := time (before.countP p.produces)
          (here ≤ 15 * 1000000000 → outcome trackers before moment = .dropped) ∧
          (15 * 1000000000 < here → here ≤ (ntpEpochSeconds - 37) * 1000000000 →
            ∃ raw, raw.val = here ∧
              outcome trackers before moment = .failed (.unconvertible raw "ntp")) ∧
          ((ntpEpochSeconds - 37) * 1000000000 < here →
            ∃ t, outcome trackers before moment = .delivered t ∧
              t.ns.val = min here Nanos.greatest.val - (ntpEpochSeconds - 37) * 1000000000)) ∧
      (s.pipeline.stallAfter ≠ some Duration.zero →
        ((∀ trackers before moment t, before.countP p.produces < units →
            p.isStalled moment.elapsed = false →
              outcome trackers before moment ≠ .delivered t) ↔
          time (units - 1) ≤ (ntpEpochSeconds - 37) * 1000000000)) := by
  have hgrace : 15 * 1000000000 < Nanos.greatest.val := by decide
  have hepoch : (ntpEpochSeconds - 37) * 1000000000 < Nanos.greatest.val := by decide
  obtain ⟨-, -, -, start, hstart⟩ :=
    Config.validatePipeline_eq_ok_iff.1 (Config.validate_eq_ok_iff.1 hvalid).2
  obtain ⟨p, hmake⟩ := make_of_startTimestamp hstart
  refine ⟨p, hmake, fun trackers before moment hplace hruns => ?_, fun hstall => ?_⟩
  · obtain ⟨hdropped, hfailed, hdelivered⟩ :=
      outcome_of_warmup hmake hmode trackers before hplace hruns
    rw [unitTime_le_iff hgrace] at hdropped
    rw [← Int.not_le, unitTime_le_iff hgrace, unitTime_le_iff hepoch, Int.not_le] at hfailed
    rw [← Int.not_le, unitTime_le_iff hepoch, Int.not_le] at hdelivered
    refine ⟨hdropped, fun hlate hbefore => ?_, hdelivered⟩
    obtain ⟨raw, hraw, houtcome⟩ := hfailed hlate hbefore
    exact ⟨raw, hraw.trans (Int.min_eq_left (Int.le_trans hbefore (Int.le_of_lt hepoch))), houtcome⟩
  · exact (warmup_withheld_iff hmake hmode hstall).trans (unitTime_le_iff hepoch)

/-- The default settings with three units of warm-up, so far apart. -/
def warmingUp (interval : Duration) : Settings :=
  { Settings.default with
    pipeline := { PipelineSettings.default with
      unitInterval := interval
      invalidWarmupUnits := 3 } }

/-- With sixteen seconds between them the second and the third unit of the warm-up fail,
also if the source is asked in between whether it has stalled, and none is delivered. -/
theorem spaced_warmup_fails :
    Config.validate (warmingUp ⟨16000000000, by decide⟩) = .ok () ∧
      ∃ p, make (warmingUp ⟨16000000000, by decide⟩).pipeline = .ok p ∧
        (∃ raw, raw.val = 32000000000 ∧
          (((p.withTrackers [unfed]).performAll [.step (daylight Duration.zero), .stalled minute,
              .step (daylight Duration.zero)]).1.step (daylight Duration.zero)).outcome =
            .failed (.unconvertible raw "ntp")) ∧
        ∀ trackers before moment t, before.countP p.produces < 3 →
          p.isStalled moment.elapsed = false →
            (((p.withTrackers trackers).performAll before).1.step moment).outcome ≠
              .delivered t := by
  have hvalid : Config.validate (warmingUp ⟨16000000000, by decide⟩) = .ok () := rfl
  obtain ⟨p, hmake, hunits, hnever⟩ := warmup_by_time hvalid rfl
  have hruns : p.isStalled Duration.zero = false := isStalled_zero hmake (by decide)
  have hcount : [.step (daylight Duration.zero), .stalled minute,
      .step (daylight Duration.zero)].countP p.produces = 2 := by
    obtain ⟨start, -, rfl⟩ := make_eq_ok hmake
    rfl
  obtain ⟨-, hfails, -⟩ := hunits [unfed] [.step (daylight Duration.zero), .stalled minute,
    .step (daylight Duration.zero)] (daylight Duration.zero) (by rw [hcount]; decide) hruns
  rw [hcount] at hfails
  exact ⟨hvalid, p, hmake, hfails (by decide) (by decide), (hnever (by decide)).2 (by decide)⟩

/-- With an interval of a nanosecond more than the network timescale shows at the beginning
of atomic time, the second unit of the warm-up is delivered, although all checks pass. -/
theorem distant_warmup_delivered :
    Config.validate (warmingUp ⟨2208988763000000001, by decide⟩) = .ok () ∧
      (warmingUp ⟨2208988763000000001, by decide⟩).pipeline.timestampMode = .ntp ∧
      ∃ p, make (warmingUp ⟨2208988763000000001, by decide⟩).pipeline = .ok p ∧
        1 < p.warmupUnits ∧
        (p.run [daylight Duration.zero, daylight Duration.zero]).2 =
          [.dropped, .delivered Timestamp.least] :=
  ⟨rfl, rfl, _, rfl, by decide, by decide⟩

end FlowWatch.Pipeline
