import FlowWatch.Config.Environment
import FlowWatch.Config.Validation
import FlowWatch.Proofs.Time.DurationText

/-!
# Thresholds read from a number of seconds

A threshold of the environment or of the command line is a number of seconds, with a
fraction if need be. It has to be positive, which is checked on the number, and it must
not be too long, which is checked on the nanoseconds that the number is rounded to. The
two checks stand on different sides of the rounding. So a positive number that is at most
half a nanosecond passes both of them and is a threshold of nothing, which the settings
are refused for later on.
-/

namespace FlowWatch.Config

open FlowWatch.Text

/-- The text is read as a finite positive number of seconds, which is `num / den`
nanoseconds. -/
def NanosOf (text : String) (num den : Nat) : Prop :=
  ∃ significand exponent,
    Binary64.ofText (trimBlanks text.toList) = .ok (.finite false significand exponent) ∧
      0 < significand ∧ num = significand * Nanos.perSecond * Nat.pow 2 exponent.toNat ∧
      den = Nat.pow 2 (-exponent).toNat

/-- A health check is refused for its threshold. -/
def ThresholdRefused (h : HealthSettings) : Prop :=
  ∃ reason, validateHealth h = .error (.invalid "health_check.idle_threshold" reason)

/-! ### Reading a threshold -/

/-- The numbers in a text of seconds are positive. -/
theorem NanosOf.pos {text : String} {num den : Nat} (h : NanosOf text num den) :
    0 < num ∧ 0 < den := by
  obtain ⟨significand, exponent, -, hpositive, rfl, rfl⟩ := h
  have hpower (n : Nat) : 0 < Nat.pow 2 n := Nat.pow_pos (by decide)
  exact ⟨Nat.mul_pos (Nat.mul_pos hpositive (by decide)) (hpower _), hpower _⟩

/-- A number of seconds that is not negative is rounded to nanoseconds. -/
theorem ofSeconds?_finite (significand : Nat) (exponent : Int) :
    Duration.ofSeconds? (.finite false significand exponent) =
      Duration.ofNanos? (Binary64.roundQuotient
        (significand * Nanos.perSecond * Nat.pow 2 exponent.toNat)
        (Nat.pow 2 (-exponent).toNat)) := by
  rw [Duration.ofSeconds?, Binary64.scaledRound?, Option.bind_some]

/-- A text is read as a threshold exactly if it is a positive number and the
nanoseconds nearest to it are not too many. The checks leave only a finite number
that is not negative. -/
theorem readIdle_eq_ok_iff {text : String} {d : Duration} :
    readIdle text = .ok d ↔
      (∃ num den, NanosOf text num den ∧ d.nanos = Binary64.roundQuotient num den) ∧
        d ≤ Duration.greatestSigned := by
  constructor
  · intro hread
    rw [readIdle] at hread
    split at hread
    · cases hread
    · next x hx =>
      split at hread
      · cases hread
      · next hsign =>
        split at hread
        · cases hread
        · next near hnear =>
          split at hread
          · next hfits =>
            cases hread
            refine ⟨?_, hfits⟩
            match x with
            | .finite false significand exponent =>
              have hpositive : 0 < significand := by
                simpa [Binary64.isFinite, Binary64.isPositive, Nat.pos_iff_ne_zero] using hsign
              rw [ofSeconds?_finite, Duration.ofNanos?_eq_some_iff] at hnear
              exact ⟨_, _, ⟨significand, exponent, hx, hpositive, rfl, rfl⟩, hnear⟩
            | .finite true _ _ | .infinite _ | .nan => cases hnear
          · cases hread
  · rintro ⟨⟨num, den, ⟨significand, exponent, hx, hpositive, rfl, rfl⟩, hnanos⟩, hfits⟩
    have hsign : (!Binary64.isFinite (.finite false significand exponent) ||
        !Binary64.isPositive (.finite false significand exponent)) = false := by
      simp [Binary64.isFinite, Binary64.isPositive, Nat.pos_iff_ne_zero.1 hpositive]
    have hnear : Duration.ofSeconds? (.finite false significand exponent) = some d := by
      rw [ofSeconds?_finite, Duration.ofNanos?_eq_some_iff, hnanos]
    simp only [readIdle, hx, hsign, hnear, hfits, Bool.false_eq_true, if_false, if_true]

/-- A text is read as a threshold with its faults as errors. -/
theorem readIdleSeconds_eq_ok_iff {text : String} {d : Duration} :
    readIdleSeconds text = .ok d ↔ readIdle text = .ok d := by
  rw [readIdleSeconds]
  cases readIdle text with
  | ok near => simp only [Except.ok.injEq]
  | error fault => simp only [reduceCtorEq]

/-! ### Checking a threshold -/

/-- Exactly a threshold of nothing, or one that is too long for the idle clock, is
refused. -/
theorem thresholdRefused_iff {h : HealthSettings} :
    ThresholdRefused h ↔
      h.idleThreshold.nanos = 0 ∨ Duration.greatestSigned < h.idleThreshold := by
  unfold ThresholdRefused validateHealth
  split
  · next hzero => simp [hzero]
  · next hpositive =>
    split
    · next hlong => simp [hlong]
    · next hfits =>
      refine iff_of_false ?_ (not_or.2 ⟨hpositive, hfits⟩)
      rintro ⟨reason, hrefused⟩
      split at hrefused
      · simp at hrefused
      · cases hrefused

/-- A threshold that was read is never too long. It is the rounded number of the text: it
is positive if the number is more than half a nanosecond, and settings with it are refused
for their threshold if it is not. -/
theorem idle_threshold_by_size {text : String} {d : Duration}
    (hread : readIdleSeconds text = .ok d) :
    d ≤ Duration.greatestSigned ∧
      ∃ num den, NanosOf text num den ∧ 0 < num ∧ (0 < d.nanos ↔ den < 2 * num) ∧
        ∀ h : HealthSettings,
          ThresholdRefused { h with idleThreshold := d } ↔ 2 * num ≤ den := by
  obtain ⟨⟨num, den, hnumber, hnanos⟩, hfits⟩ :=
    readIdle_eq_ok_iff.1 (readIdleSeconds_eq_ok_iff.1 hread)
  obtain ⟨hnum, hden⟩ := hnumber.pos
  have hzero : d.nanos = 0 ↔ 2 * num ≤ den := by
    rw [hnanos]
    exact Binary64.roundQuotient_eq_zero_iff hden
  refine ⟨hfits, num, den, hnumber, hnum, ?_, fun h => ?_⟩
  · rw [Nat.pos_iff_ne_zero, ne_eq, hzero, Nat.not_le]
  · have hnot : ¬Duration.greatestSigned < d := Nat.not_lt.2 hfits
    rw [thresholdRefused_iff, or_iff_left hnot, hzero]

/-- Two and a half seconds are a threshold with which no settings are refused, whatever
is wrong with their host. -/
theorem fractional_threshold_accepted :
    readIdleSeconds " 2.5 " = .ok ⟨2500000000, by decide⟩ ∧
      ∀ h : HealthSettings,
        ¬ThresholdRefused { h with idleThreshold := ⟨2500000000, by decide⟩ } := by
  have hread : readIdleSeconds " 2.5 " = .ok ⟨2500000000, by decide⟩ :=
    eq_ok_of_toOption (by decide +kernel)
  obtain ⟨-, num, den, -, -, hpositive, hrefused⟩ := idle_threshold_by_size hread
  refine ⟨hread, fun h hbad => ?_⟩
  have hsmall := (hrefused h).1 hbad
  have hlarge := hpositive.1 (by decide)
  omega

/-- A tenth of a nanosecond is positive and is read, but as a threshold of nothing, for
which the settings are refused. -/
theorem tiny_threshold_empty :
    ¬∀ text d, readIdleSeconds text = .ok d →
      (0 < d.nanos ∧ d ≤ Duration.greatestSigned) ∧
        ¬ThresholdRefused { HealthSettings.default with idleThreshold := d } := by
  intro hall
  have hread : readIdleSeconds "1e-10" = .ok Duration.zero := eq_ok_of_toOption (by decide +kernel)
  have hpositive := (hall _ _ hread).1.1
  exact absurd hpositive (by decide)

end FlowWatch.Config
