import FlowWatch.Config.Validation

/-!
# What passes the checks

The checks come one after the other, and the first one that fails is reported. So
settings pass exactly if they have all that the checks ask for, whatever the order.
-/

namespace FlowWatch.Config

open FlowWatch.Text

/-- A health check passes with a threshold that is positive and that the idle clock
can hold, and with a host that is not blank. -/
theorem validateHealth_eq_ok_iff {h : HealthSettings} :
    validateHealth h = .ok () ↔
      h.idleThreshold.nanos ≠ 0 ∧ h.idleThreshold ≤ Duration.greatestSigned ∧
        trimBlanks h.bindHost.toList ≠ [] := by
  unfold validateHealth
  split
  · next hzero => simp [hzero]
  · next hpositive =>
    split
    · next hlong =>
      have hnot : ¬h.idleThreshold ≤ Duration.greatestSigned := Nat.not_le.2 hlong
      simp [hnot]
    · next hfits =>
      have hle : h.idleThreshold ≤ Duration.greatestSigned := Nat.not_lt.1 hfits
      simp [hpositive, hle]

/-- A pipeline passes with a positive interval, with a start if its mode needs one,
with late timestamps in no mode but one, and with a start that can be read. -/
theorem validatePipeline_eq_ok_iff {p : PipelineSettings} :
    validatePipeline p = .ok () ↔
      p.unitInterval.nanos ≠ 0 ∧
        (p.timestampMode = .startAtFixedTime → p.startUtc.isSome = true) ∧
        (0 < p.invalidWarmupUnits → p.timestampMode = .ntp) ∧
        ∃ start, p.startTimestamp = .ok start := by
  have hreads : (startTimestamp p).map (fun _ => ()) = .ok () ↔
      ∃ start, p.startTimestamp = .ok start := by
    unfold startTimestamp
    cases p.startTimestamp <;> simp [Except.map]
  unfold validatePipeline
  split
  · next hzero => simp [hzero]
  · next hpositive =>
    split
    · next hneeds =>
      obtain ⟨hmode, hnone⟩ := Bool.and_eq_true_iff.1 hneeds
      simp [of_decide_eq_true hmode, Option.isNone_iff_eq_none.1 hnone]
    · next hgiven =>
      have hstart : p.timestampMode = .startAtFixedTime → p.startUtc.isSome = true := by
        simpa [← Option.isSome_iff_ne_none] using hgiven
      split
      · next hlate =>
        obtain ⟨hsome, hmode⟩ := Bool.and_eq_true_iff.1 hlate
        simp [of_decide_eq_true hsome, of_decide_eq_true hmode]
      · next hplain =>
        have hwarmup : 0 < p.invalidWarmupUnits → p.timestampMode = .ntp := by
          simpa using hplain
        rw [hreads]
        exact ⟨fun hread => ⟨hpositive, hstart, hwarmup, hread⟩, fun hall => hall.2.2.2⟩

/-- Settings pass with both of their sections. -/
theorem validate_eq_ok_iff {s : Settings} :
    validate s = .ok () ↔
      validateHealth s.healthCheck = .ok () ∧ validatePipeline s.pipeline = .ok () := by
  rw [validate]
  cases validateHealth s.healthCheck with
  | error e => simp [bind, Except.bind]
  | ok => simp [bind, Except.bind]

end FlowWatch.Config
