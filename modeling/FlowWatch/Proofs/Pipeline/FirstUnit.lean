import FlowWatch.Proofs.Config.Validation
import FlowWatch.Proofs.Pipeline.Schedule
import FlowWatch.Proofs.Time.Representable

/-!
# The first unit of validated settings

Settings with a fixed start pass only with a start that can be read, but not every start
that can be read has a timestamp. Where it has one, the first unit is delivered at it.
Otherwise the stream is put at the sentinel. Then the first unit is dropped, and the
others are delivered as if the stream had started at the beginning of atomic time.
-/

namespace FlowWatch.Pipeline

section OnSchedule

variable {p : Pipeline} {start : Timestamp} {moment : Moment}

/-- The first unit is delivered at a valid start, and dropped at the sentinel. -/
theorem OnSchedule.outcome_first (h : p.OnSchedule start) (hstart : 0 ≤ start.ns.val)
    (hruns : p.isStalled moment.elapsed = false) (hfirst : p.emitted = 0) :
    (p.step moment).outcome = if start.isValid then .delivered start else .dropped := by
  have hgreatest : Nanos.greatest.val = 9223372036854775807 := rfl
  have hgrace : Normalizer.grace.val = 15000000000 := rfl
  have hbelow := start.ns.below
  have hscheduled := h.scheduled hruns
  rw [streamTime_of_first hfirst] at hscheduled
  generalize (p.step moment).outcome = outcome at hscheduled ⊢
  cases hscheduled with
  | @delivered t hrange htime =>
    have hvalid : start.isValid = true := Timestamp.isValid_iff.2 (by omega)
    have hsame : t = start := congrArg Timestamp.mk (Nanos.ext (by omega))
    rw [if_pos hvalid, hsame]
  | dropped hout =>
    have hinvalid : ¬start.isValid = true := by
      rw [Timestamp.isValid_iff]
      omega
    rw [if_neg hinvalid]
  | failed _ hlate => omega

/-- From the sentinel every later unit is delivered at its time since the start of the
stream. -/
theorem OnSchedule.outcome_of_sentinel (h : p.OnSchedule Timestamp.invalid)
    (hruns : p.isStalled moment.elapsed = false) (hlater : 0 < p.streamTime.val) :
    ∃ t, (p.step moment).outcome = .delivered t ∧ t.ns.val = p.streamTime.val := by
  have hgreatest : Nanos.greatest.val = 9223372036854775807 := rfl
  have hzero : Timestamp.invalid.ns.val = 0 := rfl
  have hbelow := p.streamTime.below
  have hscheduled := h.scheduled hruns
  generalize (p.step moment).outcome = outcome at hscheduled ⊢
  cases hscheduled with
  | delivered _ htime => exact ⟨_, rfl, by omega⟩
  | dropped hout => omega
  | failed hout => omega

end OnSchedule

/-- Validated settings with a fixed start have one that names an instant, and it is valid
exactly if the instant has a timestamp. -/
theorem start_of_validated {s : Settings} (hvalid : Config.validate s = .ok ())
    (hmode : s.pipeline.timestampMode = .startAtFixedTime) :
    ∃ text written start, s.pipeline.startUtc = some text ∧ Rfc3339.read text = .ok written ∧
      s.pipeline.startTimestamp = .ok start ∧
      (start.isValid = true ↔ Timestamp.Representable written.unixNanos) := by
  obtain ⟨-, hgiven, -, start, hstart⟩ :=
    Config.validatePipeline_eq_ok_iff.1 (Config.validate_eq_ok_iff.1 hvalid).2
  obtain ⟨text, htext⟩ := Option.isSome_iff_exists.1 (hgiven hmode)
  have hparsed : Timestamp.ofRfc3339 text = .ok start := by
    rw [PipelineSettings.startTimestamp, htext] at hstart
    exact hstart
  obtain ⟨written, hread, hvalidStart⟩ := Timestamp.isValid_ofRfc3339_iff hparsed
  exact ⟨text, written, start, htext, hread, hstart, hvalidStart⟩

/-- The time of a unit behind the first one is positive. -/
theorem unitTime_pos {interval : Duration} {place : Nat} (hinterval : interval.nanos ≠ 0)
    (hplace : 0 < place) : 0 < unitTime interval place := by
  have hgreatest : Nanos.greatest.val = 9223372036854775807 := rfl
  have hproduct : 0 < place * interval.nanos :=
    Nat.mul_pos hplace (Nat.pos_of_ne_zero hinterval)
  unfold unitTime
  omega

/-- Settings with a fixed start that pass all checks name the instant of the start, and a
pipeline is made of them. After any operations of it, with any trackers, the first step
that is not stalled delivers the start exactly if the instant has a timestamp, and this is
exactly if the start is valid. Otherwise it drops the unit, and every later one delivers
its time since the start of the stream, as if this were the beginning of atomic time. -/
theorem first_unit_of_validated {s : Settings} (hvalid : Config.validate s = .ok ())
    (hmode : s.pipeline.timestampMode = .startAtFixedTime) :
    ∃ text written start p, s.pipeline.startUtc = some text ∧
      Rfc3339.read text = .ok written ∧ s.pipeline.startTimestamp = .ok start ∧
      make s.pipeline = .ok p ∧
      (start.isValid = true ↔ Timestamp.Representable written.unixNanos) ∧
      ∀ (trackers : List Tracker) (before : List Operation) (moment : Moment),
        p.isStalled moment.elapsed = false →
          let place := before.countP p.produces
          let outcome := (((p.withTrackers trackers).performAll before).1.step moment).outcome
          (place = 0 → outcome =
            if Timestamp.Representable written.unixNanos then .delivered start else .dropped) ∧
          (0 < place → ¬Timestamp.Representable written.unixNanos →
            ∃ t, outcome = .delivered t ∧
              t.ns.val = unitTime s.pipeline.unitInterval place) := by
  obtain ⟨text, written, start, htext, hread, hstart, hrepresentable⟩ :=
    start_of_validated hvalid hmode
  obtain ⟨hinterval, -⟩ :=
    Config.validatePipeline_eq_ok_iff.1 (Config.validate_eq_ok_iff.1 hvalid).2
  obtain ⟨p, hmake⟩ := make_of_startTimestamp hstart
  refine ⟨text, written, start, p, htext, hread, hstart, hmake, hrepresentable, ?_⟩
  intro trackers before moment hruns place outcome
  have hreached := OnSchedule.reached hmake hmode hstart trackers before
  have htime := streamTime_reached hmake trackers before
  have hstillRuns := (isStalled_reached p trackers before moment.elapsed).trans hruns
  refine ⟨fun hfirst => ?_, fun hlater hinvalid => ?_⟩
  · have hemitted := emitted_reached hmake trackers before
    simp only [← hrepresentable]
    exact hreached.outcome_first (startTimestamp_nonneg hstart) hstillRuns (hemitted.trans hfirst)
  · have hnonneg := startTimestamp_nonneg hstart
    rw [← hrepresentable, Timestamp.isValid_iff] at hinvalid
    obtain rfl : start = Timestamp.invalid := Timestamp.eq_invalid_iff.2 (by omega)
    have hpositive : 0 < unitTime s.pipeline.unitInterval place := unitTime_pos hinterval hlater
    rw [← htime] at hpositive ⊢
    exact hreached.outcome_of_sentinel hstillRuns hpositive

/-- The default settings with a fixed start. -/
def startingAt (text : String) : Settings :=
  { Settings.default with
    pipeline := { PipelineSettings.default with
      timestampMode := .startAtFixedTime
      startUtc := some text } }

/-- A start one second into atomic time passes all checks, and the first unit is delivered
at it, although a probe was attached before. -/
theorem early_start_delivered :
    Config.validate (startingAt "1969-12-31T23:59:24Z") = .ok () ∧
      ∃ p, make (startingAt "1969-12-31T23:59:24Z").pipeline = .ok p ∧
        (((p.withTrackers [unfed]).performAll [.attach ⟨"sink", "sink"⟩ 0]).1.step
          (daylight Duration.zero)).outcome = .delivered ⟨Nanos.clamp 1000000000⟩ := by
  have hvalid : Config.validate (startingAt "1969-12-31T23:59:24Z") = .ok () := rfl
  have hparsed : (startingAt "1969-12-31T23:59:24Z").pipeline.startTimestamp =
      .ok ⟨Nanos.clamp 1000000000⟩ := rfl
  obtain ⟨text, written, start, p, -, -, hstart, hmake, hrepresentable, hunits⟩ :=
    first_unit_of_validated hvalid rfl
  obtain rfl : ⟨Nanos.clamp 1000000000⟩ = start := Except.ok.inj (hparsed.symm.trans hstart)
  have hruns : p.isStalled Duration.zero = false := by
    obtain ⟨start, -, rfl⟩ := make_eq_ok hmake
    rfl
  obtain ⟨hfirst, -⟩ := hunits [unfed] [.attach ⟨"sink", "sink"⟩ 0] (daylight Duration.zero) hruns
  refine ⟨hvalid, p, hmake, ?_⟩
  rw [hfirst rfl, if_pos (hrepresentable.1 (by decide))]

/-- A start whose atomic time is beyond the last count passes all checks, but the first
unit is dropped, and the second one is delivered forty milliseconds into atomic time. -/
theorem late_start_dropped :
    Config.validate (startingAt "2262-04-11T23:47:00Z") = .ok () ∧
      (startingAt "2262-04-11T23:47:00Z").pipeline.startTimestamp = .ok Timestamp.invalid ∧
      ∃ p, make (startingAt "2262-04-11T23:47:00Z").pipeline = .ok p ∧
        (p.run [daylight Duration.zero, daylight Duration.zero]).2 =
          [.dropped, .delivered ⟨Nanos.clamp 40000000⟩] :=
  ⟨rfl, rfl, _, rfl, by decide⟩

end FlowWatch.Pipeline
