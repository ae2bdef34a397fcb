import FlowWatch.Proofs.Time.Conversion

/-!
# Readings of the system clock

A valid timestamp stands for a reading of the system clock, which is behind it by the
leap seconds. So the first timestamps stand for readings before the Unix epoch. The way
back takes every reading before the epoch for no time at all, although as Unix times the
last of them have timestamps. From the epoch on a reading is converted like Unix time. So
what is lost on the way through the system clock are the first thirty-seven seconds of
atomic time, and nothing else.
-/

namespace FlowWatch.Timestamp

/-- A reading of the last seconds before the epoch, which as Unix times have timestamps. -/
def OnEve (reading : Int) : Prop := -37 * 1000000000 < reading ∧ reading < 0

/-- Whether a reading is one of the last seconds before the epoch is decided on it. -/
instance (reading : Int) : Decidable (OnEve reading) := inferInstanceAs (Decidable (_ ∧ _))

/-- A reading before the epoch is no time. -/
theorem ofSystemTime_of_neg {reading : Int} (h : reading < 0) : ofSystemTime reading = invalid :=
  if_pos h

/-- A reading that leaves 64 bits is no time. -/
theorem ofSystemTime_of_beyond {reading : Int} (h : Nanos.ofInt? reading = none) :
    ofSystemTime reading = invalid := by
  unfold ofSystemTime
  rw [h]
  exact ite_self _

/-- From the epoch on a reading is Unix time. -/
theorem ofSystemTime_of_nonneg {reading : Int} {raw : Nanos} (h : 0 ≤ reading)
    (hraw : Nanos.ofInt? reading = some raw) : ofSystemTime reading = ofUnix raw := by
  unfold ofSystemTime
  rw [if_neg (Int.not_lt.2 h), hraw]

/-- The Unix times with a timestamp are those behind the beginning of atomic time, up to
the leap seconds before the last count. -/
theorem isValid_ofUnix_iff {raw : Nanos} :
    (ofUnix raw).isValid = true ↔
      -37 * 1000000000 < raw.val ∧ raw.val ≤ greatest.ns.val - 37 * 1000000000 := by
  have htime : atomicTime (Timescale.unixUtc.instant raw.val) = raw.val + 37 * 1000000000 := rfl
  rw [ofUnix, ofRaw_eq_collapse, isValid_collapse_iff, htime]
  omega

/-- The Unix time of a valid timestamp is converted back to it. -/
theorem ofUnix_unixNanos {t : Timestamp} (h : t.isValid = true) : ofUnix t.unixNanos = t := by
  rw [ofUnix, ofRaw, toTai_unixUtc, unixNanos_val h, Int.sub_add_cancel, collapse_of_valid h]

/-- A reading of 64 bits is converted like Unix time, except on the eve of the epoch. -/
theorem ofSystemTime_eq {reading : Int} {raw : Nanos} (hraw : Nanos.ofInt? reading = some raw) :
    ofSystemTime reading = if OnEve reading then invalid else ofUnix raw := by
  have hval := Nanos.val_of_ofInt? hraw
  rcases Int.lt_or_le reading 0 with hbefore | hafter
  · rw [ofSystemTime_of_neg hbefore]
    split
    · rfl
    · rename_i hearly
      have hinvalid : ¬(ofUnix raw).isValid = true := by
        rw [isValid_ofUnix_iff, hval]
        exact fun hrange => hearly ⟨hrange.1, hbefore⟩
      exact ((collapse_eq_invalid_or _).resolve_right hinvalid).symm
  · rw [if_neg fun heve => absurd heve.2 (Int.not_lt.2 hafter)]
    exact ofSystemTime_of_nonneg hafter hraw

/-- A valid timestamp stands for the reading that is thirty-seven seconds behind it. That
reading gives the timestamp back from the epoch on, and otherwise the sentinel. A reading
of 64 bits is converted like Unix time, but on the eve of the epoch it is the sentinel
where Unix time has a timestamp. A reading that leaves 64 bits is the sentinel. -/
theorem systemTime_exact (t : Timestamp) (reading : Int) :
    (t.isValid = true →
        let instant := t.ns.val - 37 * 1000000000
        t.systemTime? = some instant ∧
          ofSystemTime instant = if 37 * 1000000000 ≤ t.ns.val then t else invalid) ∧
      (∀ raw : Nanos, Nanos.ofInt? reading = some raw →
        ofSystemTime reading = (if OnEve reading then invalid else ofUnix raw) ∧
          (OnEve reading → (ofUnix raw).isValid = true)) ∧
      (Nanos.ofInt? reading = none → ofSystemTime reading = invalid) := by
  refine ⟨fun hvalid => ?_, fun raw hraw => ⟨ofSystemTime_eq hraw, fun heve => ?_⟩,
    ofSystemTime_of_beyond⟩
  · have hunix : t.unixNanos.val = t.ns.val - 37 * 1000000000 := unixNanos_val hvalid
    have hreading : Nanos.ofInt? (t.ns.val - 37 * 1000000000) = some t.unixNanos := by
      rw [← hunix]
      exact Nanos.ofInt?_val t.unixNanos
    refine ⟨?_, ?_⟩
    · rw [systemTime?, if_pos hvalid, hunix]
    · rcases Int.lt_or_le t.ns.val (37 * 1000000000) with hfirst | hlater
      · rw [if_neg (Int.not_le.2 hfirst), ofSystemTime_of_neg (by omega)]
      · rw [if_pos hlater, ofSystemTime_of_nonneg (by omega) hreading, ofUnix_unixNanos hvalid]
  · have hval := Nanos.val_of_ofInt? hraw
    have hgreatest : greatest.ns.val = 9223372036854775807 := rfl
    unfold OnEve at heve
    rw [isValid_ofUnix_iff]
    omega

/-- The timestamp of the epoch is the first one to come back. The readings around the
beginning of atomic time are the sentinel, although the second of them has a timestamp as
Unix time, and so is a reading beyond 64 bits. -/
theorem epoch_comes_back :
    let epoch : Timestamp := ⟨Nanos.clamp 37000000000⟩
    let first : Nanos := ⟨-36999999999, by decide, by decide⟩
    epoch.systemTime? = some 0 ∧ ofSystemTime 0 = epoch ∧
      ofSystemTime (-37000000000) = ofUnix (Nanos.clamp (-37000000000)) ∧
      ofSystemTime (-36999999999) = invalid ∧ (ofUnix first).isValid = true ∧
      ofSystemTime 9223372036854775808 = invalid := by
  intro epoch first
  obtain ⟨htime, hbefore, -⟩ := systemTime_exact epoch (-37000000000)
  obtain ⟨-, heve, -⟩ := systemTime_exact epoch (-36999999999)
  obtain ⟨-, -, hbeyond⟩ := systemTime_exact epoch 9223372036854775808
  obtain ⟨hreading, hback⟩ := htime (by decide)
  obtain ⟨hearly, -⟩ := hbefore (Nanos.clamp (-37000000000)) (by decide)
  obtain ⟨hlost, hvalid⟩ := heve first (by decide)
  refine ⟨hreading, ?_, ?_, ?_, hvalid (by decide), hbeyond (by decide)⟩
  · exact hback.trans (if_pos (by decide))
  · exact hearly.trans (if_neg (by decide))
  · exact hlost.trans (if_pos (by decide))

/-- The timestamp a nanosecond before the epoch stands for the reading of that instant,
and is its Unix time, but the reading gives the sentinel. -/
theorem eve_lost :
    let eve : Timestamp := ⟨Nanos.clamp 36999999999⟩
    eve.isValid = true ∧ eve.systemTime? = some (-1) ∧
      ofUnix ⟨-1, by decide, by decide⟩ = eve ∧ ofSystemTime (-1) = invalid ∧ eve ≠ invalid := by
  decide

end FlowWatch.Timestamp
