import FlowWatch.Proofs.Time.DateTimeText

/-!
# One instant in several timescales

A raw count names an instant, and the timescale says which one. The timestamp of
an instant does not depend on the timescale in which it was counted. It is the
exact atomic time of the instant as long as this is a positive count of 64 bits,
and the sentinel otherwise, so that no conversion wraps around or gives a negative
count. Valid conversions can be undone, and they keep the order of the counts.
-/

namespace FlowWatch

/-- The instant that a raw count names, in exact nanoseconds since the Unix
epoch. -/
def Timescale.instant : Timescale → Int → Int
  | .tai, raw => raw - leapSeconds * Nanos.perSecond
  | .ntp, raw => raw - ntpEpochSeconds * Nanos.perSecond
  | .unixUtc, raw => raw

/-- The exact atomic time of an instant. -/
def atomicTime (instant : Int) : Int := instant + leapSeconds * Nanos.perSecond

namespace Timestamp

/-- What a timescale adds to a count is what leads to the atomic time of the
instant. -/
theorem add_toTai (scale : Timescale) (raw : Int) :
    raw + scale.toTai = atomicTime (scale.instant raw) := by
  cases scale with
  | tai => exact (Int.add_zero raw).trans (Int.sub_add_cancel raw _).symm
  | ntp =>
    simp only [Timescale.toTai, Timescale.instant, atomicTime, Int.sub_mul]
    omega
  | unixUtc => rfl

/-- A conversion reads no more than the instant. -/
theorem ofRaw_eq_collapse (raw : Nanos) (scale : Timescale) :
    ofRaw raw scale = collapse (atomicTime (scale.instant raw.val)) :=
  congrArg collapse (add_toTai scale raw.val)

/-- Counts of one instant, in whatever timescales, have the same timestamp. -/
theorem ofRaw_eq_of_instant {a b : Nanos} {scale other : Timescale}
    (h : scale.instant a.val = other.instant b.val) : ofRaw a scale = ofRaw b other := by
  rw [ofRaw_eq_collapse, ofRaw_eq_collapse, h]

/-- A valid timestamp is not collapsed. -/
theorem collapse_of_valid {t : Timestamp} (h : t.isValid = true) : collapse t.ns.val = t := by
  simp only [collapse, Nanos.ofInt?_val, isValid_iff.1 h, if_true]

/-- A valid timestamp was collapsed from its own count. -/
theorem collapse_val_of_valid {count : Int} (h : (collapse count).isValid = true) :
    (collapse count).ns.val = count := by
  have hpos := isValid_iff.1 h
  rw [collapse_val] at hpos ⊢
  split at hpos
  · rename_i hfits
    rw [if_pos hfits]
  · exact absurd hpos (Int.lt_irrefl 0)

/-- A valid conversion is the exact atomic time. -/
theorem ofRaw_val_of_valid {raw : Nanos} {scale : Timescale}
    (h : (ofRaw raw scale).isValid = true) :
    (ofRaw raw scale).ns.val = atomicTime (scale.instant raw.val) := by
  rw [ofRaw_eq_collapse] at h ⊢
  exact collapse_val_of_valid h

/-- Nothing is collapsed to a negative count. -/
theorem collapse_nonneg (count : Int) : 0 ≤ (collapse count).ns.val := by
  rw [collapse_val]
  split <;> omega

/-- Exactly the positive counts of 64 bits are collapsed to valid timestamps. -/
theorem isValid_collapse_iff {count : Int} :
    (collapse count).isValid = true ↔ 0 < count ∧ count ≤ greatest.ns.val := by
  have hgreatest : greatest.ns.val = 9223372036854775807 := rfl
  rw [isValid_iff, collapse_val, hgreatest]
  split <;> omega

/-- Valid conversions from one timescale compare as the counts do. Both sides are
ahead of their counts by the same amount. -/
theorem order_ofRaw {a b : Nanos} {scale : Timescale} (ha : (ofRaw a scale).isValid = true)
    (hb : (ofRaw b scale).isValid = true) :
    (ofRaw a scale).order (ofRaw b scale) = compare a.val b.val := by
  have hlt : a.val + scale.toTai < b.val + scale.toTai ↔ a.val < b.val := by omega
  have heq : a.val + scale.toTai = b.val + scale.toTai ↔ a.val = b.val := by omega
  rw [order, ofRaw_val_of_valid ha, ofRaw_val_of_valid hb, ← add_toTai, ← add_toTai]
  show compareOfLessAndEq _ _ = compareOfLessAndEq _ _
  simp only [compareOfLessAndEq, hlt, heq]

/-- The Unix time of a valid conversion from Unix time is the count itself. -/
theorem unixNanos_ofUnix {raw : Nanos} (h : (ofUnix raw).isValid = true) :
    (ofUnix raw).unixNanos = raw := by
  apply Nanos.ext
  have hval : (ofUnix raw).ns.val = atomicTime raw.val := ofRaw_val_of_valid h
  rw [unixNanos_val h, hval]
  exact Int.add_sub_cancel _ _

/-- For every instant, the raw counts that name it in the three timescales have the
same timestamp, as far as they are counts of 64 bits. For every raw count in every
timescale the timestamp is the exact atomic time if this is between one nanosecond
and the greatest count, and zero otherwise. The Unix time of a timestamp that was
validly converted from Unix time is the raw count again, and the timestamps of two
valid conversions from one timescale compare as the raw counts do. -/
theorem conversions_exact :
    (∀ (instant : Int) (unix ntp tai : Nanos), unix.val = instant →
      ntp.val = instant + ntpEpochSeconds * Nanos.perSecond →
      tai.val = instant + leapSeconds * Nanos.perSecond →
        ofRaw ntp .ntp = ofRaw unix .unixUtc ∧ ofRaw tai .tai = ofRaw unix .unixUtc) ∧
      (∀ (raw : Nanos) (scale : Timescale),
        let time := atomicTime (scale.instant raw.val)
        (ofRaw raw scale).ns.val =
          if least.ns.val ≤ time ∧ time ≤ greatest.ns.val then time else 0) ∧
      (∀ raw : Nanos, (ofUnix raw).isValid = true → (ofUnix raw).unixNanos = raw) ∧
      ∀ (a b : Nanos) (scale : Timescale), (ofRaw a scale).isValid = true →
        (ofRaw b scale).isValid = true →
          (ofRaw a scale).order (ofRaw b scale) = compare a.val b.val := by
  refine ⟨fun instant unix ntp tai hunix hntp htai => ?_, fun raw scale => ?_,
    fun raw => unixNanos_ofUnix, fun a b scale => order_ofRaw⟩
  · have hnamed : Timescale.unixUtc.instant unix.val = instant := hunix
    have hfromNtp : Timescale.ntp.instant ntp.val = instant := by
      rw [hntp]
      exact Int.add_sub_cancel _ _
    have hfromTai : Timescale.tai.instant tai.val = instant := by
      rw [htai]
      exact Int.add_sub_cancel _ _
    exact ⟨ofRaw_eq_of_instant (hfromNtp.trans hnamed.symm),
      ofRaw_eq_of_instant (hfromTai.trans hnamed.symm)⟩
  · have hleast : least.ns.val = 1 := rfl
    have hgreatest : greatest.ns.val = 9223372036854775807 := rfl
    intro time
    rw [ofRaw_eq_collapse, collapse_val, hleast, hgreatest]
    by_cases hfits : 0 < time ∧ time < 9223372036854775808
    · rw [if_pos hfits, if_pos (by omega)]
    · rw [if_neg hfits, if_neg (by omega)]

/-- The first instant with a valid timestamp, which comes before 1970 in Unix time,
counted in the three timescales, against the last one. -/
theorem first_instant_conversions :
    let unix : Nanos := ⟨-36999999999, by decide, by decide⟩
    let ntp : Nanos := ⟨2208988763000000001, by decide, by decide⟩
    let last : Nanos := ⟨9223371999854775807, by decide, by decide⟩
    ofRaw ntp .ntp = ofRaw unix .unixUtc ∧ ofRaw least.ns .tai = ofRaw unix .unixUtc ∧
      (ofRaw unix .unixUtc).isValid = true ∧ (ofRaw last .unixUtc).isValid = true ∧
      (ofUnix unix).unixNanos = unix ∧
      (ofRaw unix .unixUtc).order (ofRaw last .unixUtc) = .lt := by
  intro unix ntp last
  have hfirst : (ofRaw unix .unixUtc).isValid = true := by decide
  have hlast : (ofRaw last .unixUtc).isValid = true := by decide
  obtain ⟨hsame, -, hback, horder⟩ := conversions_exact
  obtain ⟨hntp, htai⟩ := hsame (-36999999999) unix ntp least.ns rfl rfl rfl
  exact ⟨hntp, htai, hfirst, hlast, hback unix hfirst, horder unix last .unixUtc hfirst hlast⟩

end Timestamp

end FlowWatch
