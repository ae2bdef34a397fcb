import FlowWatch.Proofs.Time.Conversion

/-!
# Which date-times have a timestamp

A date-time that can be read names an instant of any size, and two ranges decide on what
becomes of it. Its Unix time has to be a count of 64 bits, and otherwise it is refused.
Its atomic time has to be a positive count of 64 bits, and this is not checked again: the
conversion gives the sentinel. The ranges differ by the leap seconds at the end, and by
all the negative counts at the beginning. So between them there are date-times which are
neither refused nor have a valid timestamp.
-/

namespace FlowWatch.Timestamp

/-- An instant that has a timestamp: its atomic time is a positive count of 64 bits. -/
def Representable (unix : Int) : Prop :=
  least.ns.val ≤ atomicTime unix ∧ atomicTime unix ≤ greatest.ns.val

/-- An instant whose Unix time is not a count of 64 bits. -/
def Beyond (unix : Int) : Prop := unix < -9223372036854775808 ∨ greatest.ns.val < unix

/-- An instant between the ranges: its Unix time is a count of 64 bits, but it lies before
the first timestamp, or less than the leap seconds before the last count. -/
def Stranded (unix : Int) : Prop :=
  (-9223372036854775808 ≤ unix ∧ unix ≤ -37 * 1000000000) ∨
    (greatest.ns.val - 37 * 1000000000 < unix ∧ unix ≤ greatest.ns.val)

/-- Whether an instant has a timestamp is decided on its count. -/
instance (unix : Int) : Decidable (Representable unix) := inferInstanceAs (Decidable (_ ∧ _))

/-- Whether the Unix time of an instant is beyond 64 bits is decided on its count. -/
instance (unix : Int) : Decidable (Beyond unix) := inferInstanceAs (Decidable (_ ∨ _))

/-- Whether an instant lies between the ranges is decided on its count. -/
instance (unix : Int) : Decidable (Stranded unix) := inferInstanceAs (Decidable (_ ∨ _))

/-- The instants between the ranges are those in the range of the Unix time only. -/
theorem stranded_iff {unix : Int} : Stranded unix ↔ ¬Beyond unix ∧ ¬Representable unix := by
  have hleast : least.ns.val = 1 := rfl
  have hgreatest : greatest.ns.val = 9223372036854775807 := rfl
  have htime : atomicTime unix = unix + 37000000000 := rfl
  unfold Stranded Beyond Representable
  omega

/-- An instant that has a timestamp is in the range of the Unix time as well. -/
theorem Representable.not_beyond {unix : Int} (h : Representable unix) : ¬Beyond unix := by
  have hleast : least.ns.val = 1 := rfl
  have htime : atomicTime unix = unix + 37000000000 := rfl
  unfold Representable at h
  unfold Beyond
  omega

/-- What becomes of a text that was read as a date-time, by the instant that it names. -/
inductive Converts (text : String) (unix : Int) : Except Fault Timestamp → Prop
  /-- The instant has a timestamp, which is the result. -/
  | valid {t : Timestamp} (hfits : Representable unix) (hvalid : t.isValid = true)
      (hunix : t.unixNanos.val = unix) : Converts text unix (.ok t)
  /-- The instant is between the ranges, and the result is the sentinel. -/
  | stranded (hstranded : Stranded unix) : Converts text unix (.ok invalid)
  /-- The Unix time is not a count of 64 bits. -/
  | refused (hbeyond : Beyond unix) : Converts text unix (.error (.outOfRange text))

/-- A text that is read converts in one of these ways. -/
theorem ofRfc3339_converts {text : String} {written : Rfc3339.Written}
    (h : Rfc3339.read text = .ok written) :
    Converts text written.unixNanos (ofRfc3339 text) := by
  have hgreatest : greatest.ns.val = 9223372036854775807 := rfl
  simp only [ofRfc3339, h]
  cases hraw : Nanos.ofInt? written.unixNanos with
  | none =>
    have hbeyond := Nanos.ofInt?_eq_none_iff.1 hraw
    refine .refused ?_
    unfold Beyond
    omega
  | some raw =>
    have hval := Nanos.val_of_ofInt? hraw
    have hcollapse : ofUnix raw = collapse (atomicTime raw.val) := ofRaw_eq_collapse raw .unixUtc
    rw [← hval]
    cases hvalid : (ofUnix raw).isValid with
    | true =>
      have hrange := hvalid
      rw [hcollapse, isValid_collapse_iff] at hrange
      exact .valid hrange hvalid (congrArg Nanos.val (unixNanos_ofUnix hvalid))
    | false =>
      have hrange : ¬(collapse (atomicTime raw.val)).isValid = true := by
        rw [← hcollapse, hvalid]
        exact Bool.false_ne_true
      have hinvalid : ofUnix raw = invalid :=
        hcollapse.trans ((collapse_eq_invalid_or (atomicTime raw.val)).resolve_right hrange)
      have hatLeast := raw.atLeast
      have hbelow := raw.below
      rw [isValid_collapse_iff] at hrange
      dsimp only
      rw [hinvalid]
      refine .stranded (stranded_iff.2 ⟨?_, hrange⟩)
      unfold Beyond
      omega

section Converts

variable {text : String} {unix : Int} {result : Except Fault Timestamp}

/-- Exactly the instants that have a timestamp are converted to a valid one, which is
theirs. -/
theorem Converts.valid_iff (h : Converts text unix result) :
    (∃ t, result = .ok t ∧ t.isValid = true ∧ t.unixNanos.val = unix) ↔ Representable unix := by
  cases h with
  | valid hfits hvalid hunix => exact iff_of_true ⟨_, rfl, hvalid, hunix⟩ hfits
  | stranded hstranded =>
    refine iff_of_false ?_ (stranded_iff.1 hstranded).2
    rintro ⟨t, hresult, hvalid, -⟩
    obtain rfl := Except.ok.inj hresult
    cases hvalid
  | refused hbeyond =>
    refine iff_of_false ?_ fun hfits => hfits.not_beyond hbeyond
    rintro ⟨t, hresult, -⟩
    cases hresult

/-- Exactly the instants between the ranges are converted to the sentinel. -/
theorem Converts.invalid_iff (h : Converts text unix result) :
    result = .ok invalid ↔ Stranded unix := by
  cases h with
  | valid hfits hvalid hunix =>
    refine iff_of_false ?_ fun hstranded => (stranded_iff.1 hstranded).2 hfits
    intro hresult
    obtain rfl := Except.ok.inj hresult
    cases hvalid
  | stranded hstranded => exact iff_of_true rfl hstranded
  | refused hbeyond =>
    refine iff_of_false ?_ fun hstranded => (stranded_iff.1 hstranded).1 hbeyond
    intro hresult
    cases hresult

/-- Exactly the instants whose Unix time is not a count of 64 bits are refused. -/
theorem Converts.outOfRange_iff (h : Converts text unix result) :
    result = .error (.outOfRange text) ↔ Beyond unix := by
  cases h with
  | valid hfits =>
    refine iff_of_false ?_ hfits.not_beyond
    intro hresult
    cases hresult
  | stranded hstranded =>
    refine iff_of_false ?_ (stranded_iff.1 hstranded).1
    intro hresult
    cases hresult
  | refused hbeyond => exact iff_of_true rfl hbeyond

end Converts

/-- The timestamp of a text is valid exactly if the date-time has a timestamp. -/
theorem isValid_ofRfc3339_iff {text : String} {t : Timestamp} (h : ofRfc3339 text = .ok t) :
    ∃ written, Rfc3339.read text = .ok written ∧
      (t.isValid = true ↔ Representable written.unixNanos) := by
  cases hread : Rfc3339.read text with
  | error reason => simp [ofRfc3339, hread] at h
  | ok written =>
    have hconverts := ofRfc3339_converts hread
    rw [h] at hconverts
    refine ⟨written, rfl, ?_⟩
    cases hconverts with
    | valid hfits hvalid => exact iff_of_true hvalid hfits
    | stranded hstranded => exact iff_of_false Bool.false_ne_true (stranded_iff.1 hstranded).2

/-- For every text: if it is not a date-time, the fault says why. Otherwise the instant
that it names decides. Exactly if its atomic time is a positive count of 64 bits, the
result is a valid timestamp, and the Unix time of this is that of the date-time. Exactly
if the Unix time is not a count of 64 bits, the text is refused. And exactly for what is
left, which comes no later than thirty-seven seconds before 1970 or less than
thirty-seven seconds before the last count, the result is the sentinel. -/
theorem ofRfc3339_by_instant (text : String) :
    (∀ reason, ofRfc3339 text = .error (.notDateTime text reason) ↔
        Rfc3339.read text = .error reason) ∧
      ∀ written, Rfc3339.read text = .ok written →
        ((∃ t, ofRfc3339 text = .ok t ∧ t.isValid = true ∧
            t.unixNanos.val = written.unixNanos) ↔ Representable written.unixNanos) ∧
          (ofRfc3339 text = .error (.outOfRange text) ↔ Beyond written.unixNanos) ∧
          (ofRfc3339 text = .ok invalid ↔ Stranded written.unixNanos) := by
  refine ⟨fun reason => ?_, fun written hread => ?_⟩
  · cases hread : Rfc3339.read text with
    | error other => simp [ofRfc3339, hread]
    | ok written =>
      refine iff_of_false ?_ (by simp)
      have hconverts := ofRfc3339_converts hread
      intro hresult
      rw [hresult] at hconverts
      cases hconverts
  · have hconverts := ofRfc3339_converts hread
    exact ⟨hconverts.valid_iff, hconverts.outOfRange_iff, hconverts.invalid_iff⟩

/-- The first date-time that has a timestamp, the one a nanosecond before it, and the
first one that is refused. -/
theorem dateTimes_at_bounds :
    (∃ t, ofRfc3339 "1969-12-31T23:59:23.000000001Z" = .ok t ∧ t.isValid = true ∧
        t.unixNanos.val = -36999999999) ∧
      ofRfc3339 "1969-12-31T23:59:23Z" = .ok invalid ∧
      ofRfc3339 "2262-04-11T23:47:16.854775808Z" =
        .error (.outOfRange "2262-04-11T23:47:16.854775808Z") := by
  have hfirst : Rfc3339.read "1969-12-31T23:59:23.000000001Z" =
      .ok ⟨⟨1969, 12, 31⟩, ⟨86363, 1⟩, 0⟩ := rfl
  have hbefore : Rfc3339.read "1969-12-31T23:59:23Z" =
      .ok ⟨⟨1969, 12, 31⟩, ⟨86363, 0⟩, 0⟩ := rfl
  have hlast : Rfc3339.read "2262-04-11T23:47:16.854775808Z" =
      .ok ⟨⟨2262, 4, 11⟩, ⟨85636, 854775808⟩, 0⟩ := rfl
  obtain ⟨hvalid, -, -⟩ := (ofRfc3339_by_instant _).2 _ hfirst
  obtain ⟨-, -, hinvalid⟩ := (ofRfc3339_by_instant _).2 _ hbefore
  obtain ⟨-, hrefused, -⟩ := (ofRfc3339_by_instant _).2 _ hlast
  exact ⟨hvalid.2 (by decide), hinvalid.2 (by decide), hrefused.2 (by decide)⟩

/-- Seventeen seconds before the last count the atomic time is beyond it, but the
date-time is not refused. The result is the sentinel, whose Unix time is another one. -/
theorem late_dateTime_collapses :
    ∃ written t, Rfc3339.read "2262-04-11T23:47:00Z" = .ok written ∧
      written.unixNanos = 9223372020000000000 ∧ ¬Representable written.unixNanos ∧
      ofRfc3339 "2262-04-11T23:47:00Z" = .ok t ∧ t.isValid = false ∧
      t.unixNanos.val = -37000000000 :=
  ⟨⟨⟨2262, 4, 11⟩, ⟨85620, 0⟩, 0⟩, invalid, rfl, by decide, by decide, rfl, by decide, by decide⟩

end FlowWatch.Timestamp
