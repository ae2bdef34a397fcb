import FlowWatch.Proofs.Normalizer.Memory
import FlowWatch.Proofs.Time.Conversion

/-!
# Which units go on, are dropped or fail

A unit goes on exactly if its conversion is valid, and among the others the raw
timestamp decides which of them fail the stream. In a mode with a timescale both depend
on the raw timestamp alone, whatever came before, so the raw timestamps fall into at
most three ranges. The network timescale fails below its valid timestamps, between the
first seconds of a stream and the epoch. Unix time fails above them, where atomic time
leaves 64 bits, and atomic time never fails. Units that do not go on change nothing but
the count of the dropped ones.
-/

namespace FlowWatch.Normalizer

/-- What becomes of a unit by its conversion and its raw timestamp. -/
inductive Judged (converted : Timestamp) (raw : Nanos) : Outcome → Prop
  /-- With a valid timestamp it goes on. -/
  | delivered {t : Timestamp} (hvalid : converted.isValid = true) :
    Judged converted raw (.delivered t)
  /-- Without one it is dropped in the first seconds of a stream. -/
  | dropped (hinvalid : converted.isValid = false) (hearly : raw.val ≤ grace.val) :
    Judged converted raw .dropped
  /-- Behind them it fails the stream. -/
  | failed (hinvalid : converted.isValid = false) (hlate : grace.val < raw.val) :
    Judged converted raw (.failed raw)

/-- The outcome of every step is one of these. -/
theorem judged (n : Normalizer) (a : Arrival) :
    Judged (n.convert a) a.raw (n.step a).outcome := by
  cases hvalid : (n.convert a).isValid with
  | true =>
    rw [(step_of_valid hvalid).1]
    exact .delivered hvalid
  | false =>
    rw [outcome_of_invalid hvalid]
    split
    · rename_i hlate
      exact .failed hvalid hlate
    · rename_i hearly
      exact .dropped hvalid (Int.not_lt.1 hearly)

section Judged

variable {converted : Timestamp} {raw : Nanos} {outcome : Outcome}

/-- Exactly the units with a valid timestamp go on. -/
theorem Judged.delivered_iff (h : Judged converted raw outcome) :
    (∃ t, outcome = .delivered t) ↔ converted.isValid = true := by
  cases h with
  | delivered hvalid => exact ⟨fun _ => hvalid, fun _ => ⟨_, rfl⟩⟩
  | dropped hinvalid => simp [hinvalid]
  | failed hinvalid => simp [hinvalid]

/-- A unit without a valid timestamp is dropped in the first seconds. -/
theorem Judged.dropped_iff (h : Judged converted raw outcome) :
    outcome = .dropped ↔ ¬converted.isValid = true ∧ raw.val ≤ grace.val := by
  cases h with
  | delivered hvalid => simp [hvalid]
  | dropped hinvalid hearly => simp [hinvalid, hearly]
  | failed hinvalid hlate => simp [hlate]

/-- A unit without a valid timestamp fails with its own raw timestamp behind the first
seconds. -/
theorem Judged.failed_iff (h : Judged converted raw outcome) (other : Nanos) :
    outcome = .failed other ↔ raw = other ∧ ¬converted.isValid = true ∧ grace.val < raw.val := by
  cases h with
  | delivered hvalid => simp [hvalid]
  | dropped hinvalid hearly => simp [hearly]
  | failed hinvalid hlate => simp [hinvalid, hlate]

end Judged

/-- A conversion is valid exactly if the shifted count is positive and fits. -/
theorem isValid_convert_iff {n : Normalizer} {scale : Timescale} (h : n.mode.scale? = some scale)
    (a : Arrival) :
    (n.convert a).isValid = true ↔
      0 < a.raw.val + scale.toTai ∧ a.raw.val + scale.toTai ≤ Timestamp.greatest.ns.val := by
  simp only [convert, h]
  exact Timestamp.isValid_collapse_iff

/-- A unit without a valid timestamp changes the offset and the count of such units
only. -/
theorem step_next_of_invalid {n : Normalizer} {a : Arrival}
    (h : (n.convert a).isValid = false) :
    (n.step a).next = { n.latch a with dropped := (n.latch a).dropped + 1 } := by
  simp only [step, h, Bool.false_eq_true, if_false, discard]
  split <;> rfl

/-- After every history, in the three modes with a timescale. In the network timescale
a unit is dropped up to fifteen seconds, fails with its raw timestamp from there up to
the beginning of atomic time, and goes on behind it. In atomic time a unit is dropped up
to zero and goes on behind it, and no unit fails. In Unix time a unit is dropped before
the beginning of atomic time, goes on behind it, and fails with its raw timestamp where
atomic time is beyond the greatest count. Units that do not go on are counted as dropped
and change nothing else, and the others are not counted. -/
theorem outcome_by_raw (start : Timestamp) (history : List Arrival) (a : Arrival) :
    let reached := fun mode => ((fresh mode start).run history).1
    let outcome := fun mode => ((reached mode).step a).outcome
    ((outcome .ntp = .dropped ↔ a.raw.val ≤ 15 * 1000000000) ∧
      (outcome .ntp = .failed a.raw ↔
        15 * 1000000000 < a.raw.val ∧ a.raw.val ≤ (ntpEpochSeconds - 37) * 1000000000) ∧
      ((∃ t, outcome .ntp = .delivered t) ↔ (ntpEpochSeconds - 37) * 1000000000 < a.raw.val)) ∧
    ((outcome .tai = .dropped ↔ a.raw.val ≤ 0) ∧
      ((∃ t, outcome .tai = .delivered t) ↔ 0 < a.raw.val) ∧
      ∀ raw, outcome .tai ≠ .failed raw) ∧
    ((outcome .unixUtc = .dropped ↔ a.raw.val ≤ -37 * 1000000000) ∧
      ((∃ t, outcome .unixUtc = .delivered t) ↔
        -37 * 1000000000 < a.raw.val ∧ a.raw.val ≤ Nanos.greatest.val - 37 * 1000000000) ∧
      (outcome .unixUtc = .failed a.raw ↔ Nanos.greatest.val - 37 * 1000000000 < a.raw.val)) ∧
    ∀ mode : InputMode, mode.scale? ≠ none →
      let next := ((reached mode).step a).next
      ((∃ t, outcome mode = .delivered t) → next.dropped = (reached mode).dropped) ∧
        ((¬∃ t, outcome mode = .delivered t) →
          next = { reached mode with dropped := (reached mode).dropped + 1 }) := by
  intro reached outcome
  have hmode : ∀ mode, (reached mode).mode = mode := fun mode => run_mode _ history
  have hjudged : ∀ mode, Judged ((reached mode).convert a) a.raw (outcome mode) :=
    fun mode => judged _ a
  have hvalid : ∀ (mode : InputMode) {scale : Timescale}, mode.scale? = some scale →
      (((reached mode).convert a).isValid = true ↔ 0 < a.raw.val + scale.toTai ∧
        a.raw.val + scale.toTai ≤ 9223372036854775807) :=
    fun _ _ hscale => isValid_convert_iff (by rwa [hmode]) a
  have hgrace : grace.val = 15 * 1000000000 := rfl
  have hepoch : (ntpEpochSeconds : Int) = 2208988800 := rfl
  have hatLeast := a.raw.atLeast
  have hbelow := a.raw.below
  refine ⟨?_, ?_, ?_, fun mode hdirect => ?_⟩
  · have hntp := hvalid .ntp rfl
    have htoTai : Timescale.ntp.toTai = -2208988763000000000 := by decide
    rw [htoTai] at hntp
    rw [(hjudged .ntp).dropped_iff, (hjudged .ntp).failed_iff, (hjudged .ntp).delivered_iff, hntp,
      hgrace, hepoch, eq_self_iff_true, true_and]
    omega
  · have htai := hvalid .tai rfl
    have htoTai : Timescale.tai.toTai = 0 := rfl
    rw [htoTai] at htai
    rw [(hjudged .tai).dropped_iff, (hjudged .tai).delivered_iff, htai, hgrace]
    refine ⟨by omega, by omega, fun raw hfailed => ?_⟩
    obtain ⟨-, hinvalid, hlate⟩ := ((hjudged .tai).failed_iff raw).1 hfailed
    rw [htai] at hinvalid
    rw [hgrace] at hlate
    omega
  · have hunix := hvalid .unixUtc rfl
    rw [Timestamp.toTai_unixUtc] at hunix
    rw [(hjudged .unixUtc).dropped_iff, (hjudged .unixUtc).failed_iff,
      (hjudged .unixUtc).delivered_iff, hunix, hgrace, greatest_val, eq_self_iff_true, true_and]
    omega
  · obtain ⟨scale, hscale⟩ := Option.ne_none_iff_exists'.1 hdirect
    have hscale' : (reached mode).mode.scale? = some scale := by rwa [hmode]
    rw [(hjudged mode).delivered_iff]
    refine ⟨fun h => ?_, fun h => ?_⟩
    · rw [step_dropped, if_pos h, Nat.add_zero]
    · rw [step_next_of_invalid (Bool.not_eq_true _ ▸ h), latch_of_scale hscale']

/-- A camera before its first report on the time, the unit after the report, and a unit
that comes with the time of the stream again. -/
def relapsed : List Arrival :=
  [40000000, 3908988800000000000, 80000000].map fun raw => ⟨Timestamp.invalid, Nanos.clamp raw⟩

/-- A unit one nanosecond behind the first fifteen seconds fails after any of them, and
only the count of dropped units shows it. -/
theorem relapsed_stream_fails :
    let n := ((fresh .ntp Timestamp.invalid).run relapsed).1
    let late : Arrival := ⟨Timestamp.invalid, Nanos.clamp 15000000001⟩
    InputMode.ntp.scale? ≠ none ∧ (¬∃ t, (n.step late).outcome = .delivered t) ∧
      (n.step late).outcome = .failed late.raw ∧
      (n.step late).next = { n with dropped := n.dropped + 1 } := by
  intro n late
  obtain ⟨⟨-, hfails, hgoesOn⟩, -, -, hcounted⟩ := outcome_by_raw Timestamp.invalid relapsed late
  have hraw : late.raw.val = 15000000001 := by decide
  have hepoch : (ntpEpochSeconds : Int) = 2208988800 := rfl
  have hdirect : InputMode.ntp.scale? ≠ none := by decide
  have hdropped : ¬∃ t, (n.step late).outcome = .delivered t := by
    rw [hgoesOn]
    omega
  exact ⟨hdirect, hdropped, hfails.2 (by omega), (hcounted .ntp hdirect).2 hdropped⟩

end FlowWatch.Normalizer
