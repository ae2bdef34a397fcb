import FlowWatch.Proofs.Monitor.Feeding

/-!
# What a tracker remembers

An account of a tracker says when it was made and at which readings it was fed.
A tracker keeps three words of it: the latest reading, or a reading one threshold
before it was made, and the number of feeds, which comes back to zero after every
2^64 of them. These words determine the idle time. It is below the threshold
exactly if some feed is that recent, unless the number stands at zero.
-/

namespace FlowWatch

/-- What can be known about a tracker from outside. -/
structure Account where
  /-- The reading of the clock at which the tracker was made. -/
  made : Duration
  /-- The readings at which it was fed. -/
  feeds : List Duration
  deriving DecidableEq

namespace Account

/-- The latest reading at which the tracker was fed, in nanoseconds. -/
def latest? (a : Account) : Option Nat := (a.feeds.map (·.nanos)).max?

/-- The number of feeds as one unsigned word holds it. -/
def counted (a : Account) : Nat := a.feeds.length % 18446744073709551616

/-- The time since the latest feed; before any feed, the time since one threshold
before the tracker was made, as far as a signed word holds it. -/
def gap (a : Account) (threshold now : Duration) : Nat :=
  match a.latest? with
  | some latest => now.nanos - latest
  | none => min Duration.greatestSigned.nanos (threshold.nanos + (now.nanos - a.made.nanos))

/-- The idle time: the gap, but at least the threshold where the number of feeds
stands at zero. -/
def idle (a : Account) (threshold now : Duration) : Nat :=
  if a.counted = 0 then max (a.gap threshold now) threshold.nanos else a.gap threshold now

/-- No latest feed means no feed. -/
theorem latest?_eq_none_iff (a : Account) : a.latest? = none ↔ a.feeds = [] := by
  rw [latest?, List.max?_eq_none_iff, List.map_eq_nil_iff]

/-- The latest feed is a feed that no other one is later than. -/
theorem latest?_eq_some_iff (a : Account) (n : Nat) :
    a.latest? = some n ↔ (∃ r ∈ a.feeds, r.nanos = n) ∧ ∀ r ∈ a.feeds, r.nanos ≤ n := by
  rw [latest?, List.max?_eq_some_iff, List.mem_map, List.forall_mem_map]

/-- One more feed, not earlier than the others, is the latest. -/
theorem latest?_cons {feeds : List Duration} {now : Duration} (hpast : ∀ r ∈ feeds, r ≤ now)
    (made : Duration) : (Account.mk made (now :: feeds)).latest? = some now.nanos := by
  rw [latest?_eq_some_iff]
  refine ⟨⟨now, List.mem_cons_self, rfl⟩, fun r hr => ?_⟩
  rcases List.mem_cons.1 hr with rfl | hr
  · exact Nat.le_refl _
  · exact hpast r hr

/-- The order of the feeds does not matter for the latest. -/
theorem latest?_perm {xs ys : List Duration} (h : xs.Perm ys) (made : Duration) :
    (Account.mk made xs).latest? = (Account.mk made ys).latest? := by
  cases hlatest : (Account.mk made ys).latest? with
  | none =>
    rw [latest?_eq_none_iff] at hlatest ⊢
    exact List.Perm.eq_nil (hlatest ▸ h)
  | some n =>
    rw [latest?_eq_some_iff] at hlatest ⊢
    simpa only [h.mem_iff] using hlatest

/-- An account is below its threshold exactly if the number of feeds does not
stand at zero and some feed is less than the threshold ago. -/
theorem idle_lt_iff (a : Account) {threshold now : Duration} :
    a.idle threshold now < threshold.nanos ↔
      a.counted ≠ 0 ∧ ∃ r ∈ a.feeds, now.nanos - r.nanos < threshold.nanos := by
  unfold idle
  by_cases hcounted : a.counted = 0
  · rw [if_pos hcounted]
    refine ⟨fun h => ?_, fun h => absurd hcounted h.1⟩
    have hle := Nat.le_max_right (a.gap threshold now) threshold.nanos
    omega
  · rw [if_neg hcounted, gap]
    cases hlatest : a.latest? with
    | none =>
      have hempty := (latest?_eq_none_iff a).1 hlatest
      rw [counted, hempty] at hcounted
      exact absurd rfl hcounted
    | some latest =>
      obtain ⟨⟨r, hr, hsame⟩, hgreatest⟩ := (latest?_eq_some_iff a latest).1 hlatest
      dsimp only
      constructor
      · intro hrecent
        exact ⟨hcounted, r, hr, by omega⟩
      · rintro ⟨-, other, hother, hrecent⟩
        have hle := hgreatest other hother
        omega

end Account

/-- The words of a tracker are those that its account leads to. -/
structure Tracker.Remembers (t : Tracker) (threshold : Duration) (a : Account) : Prop where
  /-- The threshold never changes. -/
  threshold_eq : t.threshold = threshold
  /-- The counter counts the feeds. -/
  updates_toNat : t.updates.toNat = a.counted
  /-- The last activity is the latest feed. -/
  fed : ∀ latest, a.latest? = some latest → t.lastActivity.val = latest
  /-- Before any feed it is one threshold before the tracker was made. -/
  unfed : a.latest? = none → t.lastActivity.val = (a.made.nanos : Int) - threshold.nanos

namespace Tracker

/-- A new tracker remembers when it was made. -/
theorem remembers_fresh {threshold now : Duration}
    (hthreshold : threshold ≤ Duration.greatestSigned) (hnow : now ≤ Duration.greatestSigned) :
    (fresh threshold now).Remembers threshold ⟨now, []⟩ := by
  have hthresholdWord : threshold.nanos ≤ 9223372036854775807 := hthreshold
  have hnowWord : now.nanos ≤ 9223372036854775807 := hnow
  constructor
  · rfl
  · rfl
  · intro latest h
    simp [Account.latest?] at h
  · intro _
    show (now.toSigned.subClamped threshold.toSigned).val = _
    rw [Nanos.subClamped, Duration.toSigned_val (by omega), Duration.toSigned_val (by omega),
      Nanos.clamp_val (by omega) (by omega)]

/-- A tracker that is fed remembers the feed. -/
theorem Remembers.update {t : Tracker} {threshold made now : Duration} {feeds : List Duration}
    (h : t.Remembers threshold ⟨made, feeds⟩) (hnow : now ≤ Duration.greatestSigned)
    (hpast : ∀ r ∈ feeds, r ≤ now) :
    (t.update now).Remembers threshold ⟨made, now :: feeds⟩ := by
  have hnowWord : now.nanos ≤ 9223372036854775807 := hnow
  have hlatest := Account.latest?_cons hpast made
  have hcounted := h.updates_toNat
  constructor
  · exact h.threshold_eq
  · show (t.updates + 1).toNat = (feeds.length + 1) % 18446744073709551616
    rw [UInt64.toNat_add, hcounted]
    exact Nat.mod_add_mod _ _ _
  · intro latest hsome
    obtain rfl := Option.some.inj (hlatest.symm.trans hsome)
    exact Duration.toSigned_val (by omega)
  · intro hnone
    rw [hlatest] at hnone
    simp at hnone

/-- A tracker that is fed several times at one reading remembers them all. The
readings so far include the present one, which the next update may repeat. -/
theorem Remembers.feed {t : Tracker} {threshold made now : Duration} {feeds : List Duration}
    (h : t.Remembers threshold ⟨made, feeds⟩) (hnow : now ≤ Duration.greatestSigned)
    (hpast : ∀ r ∈ feeds, r ≤ now) (n : Nat) :
    (t.feed (List.replicate n now)).Remembers threshold ⟨made, List.replicate n now ++ feeds⟩ := by
  induction n with
  | zero => exact h
  | succ n ih =>
    have hall : ∀ r ∈ List.replicate n now ++ feeds, r ≤ now := by
      intro r hr
      rcases List.mem_append.1 hr with hr | hr
      · rw [List.eq_of_mem_replicate hr]
        exact Nat.le_refl _
      · exact hpast r hr
    rw [List.replicate_succ', feed_append, ← List.replicate_succ', List.replicate_succ]
    exact ih.update hnow hall

/-- The order of the feeds does not matter. -/
theorem Remembers.perm {t : Tracker} {threshold made : Duration} {xs ys : List Duration}
    (h : t.Remembers threshold ⟨made, xs⟩) (hperm : xs.Perm ys) :
    t.Remembers threshold ⟨made, ys⟩ := by
  have hlatest := Account.latest?_perm hperm made
  constructor
  · exact h.threshold_eq
  · rw [h.updates_toNat, Account.counted, Account.counted, hperm.length_eq]
  · rw [← hlatest]
    exact h.fed
  · rw [← hlatest]
    exact h.unfed

/-- Recording an idle time forgets nothing. -/
theorem Remembers.recordIdle {t : Tracker} {threshold : Duration} {a : Account}
    (h : t.Remembers threshold a) (now : Duration) :
    (t.recordIdle now).Remembers threshold a :=
  ⟨h.threshold_eq, h.updates_toNat, h.fed, h.unfed⟩

/-- The gap is what is positive of the clamped difference. -/
theorem gap_nanos_eq_toNat (t : Tracker) (now : Duration) :
    (t.gap now).nanos = (now.toSigned.subClamped t.lastActivity).val.toNat := by
  unfold gap Duration.ofSigned?
  split
  · rfl
  · rename_i hnegative
    show 0 = _
    omega

/-- The gap is the distance from the last activity, as far as a signed word holds
it, and nothing if the reading is the earlier one. -/
theorem gap_nanos (t : Tracker) {now : Duration} (hnow : now ≤ Duration.greatestSigned) :
    (t.gap now).nanos =
      min Duration.greatestSigned.nanos ((now.nanos : Int) - t.lastActivity.val).toNat := by
  have hnowWord : now.nanos ≤ 9223372036854775807 := hnow
  have hgreatest : Duration.greatestSigned.nanos = 9223372036854775807 := rfl
  have hval : (now.toSigned.subClamped t.lastActivity).val =
      max (-9223372036854775808)
        (min ((now.nanos : Int) - t.lastActivity.val) 9223372036854775807) := by
    rw [Nanos.subClamped, Duration.toSigned_val (by omega)]
    rfl
  rw [t.gap_nanos_eq_toNat, hval]
  omega

/-- The gap of a tracker is that of its account. -/
theorem Remembers.gap_nanos {t : Tracker} {threshold now : Duration} {a : Account}
    (h : t.Remembers threshold a) (hnow : now ≤ Duration.greatestSigned)
    (hmade : a.made ≤ now) : (t.gap now).nanos = a.gap threshold now := by
  have hnowWord : now.nanos ≤ 9223372036854775807 := hnow
  have hmadeNanos : a.made.nanos ≤ now.nanos := hmade
  have hgreatest : Duration.greatestSigned.nanos = 9223372036854775807 := rfl
  rw [t.gap_nanos hnow, Account.gap]
  cases hlatest : a.latest? with
  | none =>
    rw [h.unfed hlatest]
    dsimp only
    omega
  | some latest =>
    rw [h.fed latest hlatest]
    dsimp only
    omega

/-- The idle time of a tracker is that of its account. -/
theorem Remembers.idle_nanos {t : Tracker} {threshold now : Duration} {a : Account}
    (h : t.Remembers threshold a) (hnow : now ≤ Duration.greatestSigned)
    (hmade : a.made ≤ now) : (t.idle now).nanos = a.idle threshold now := by
  have hcounter : t.updates = 0 ↔ a.counted = 0 := by
    rw [← h.updates_toNat]
    exact UInt64.toNat_inj.symm
  have hgap := h.gap_nanos hnow hmade
  unfold idle Account.idle
  by_cases hzero : t.updates = 0
  · rw [if_pos hzero, if_pos (hcounter.1 hzero), Duration.nanos_max, hgap, h.threshold_eq]
  · rw [if_neg hzero, if_neg (mt hcounter.2 hzero), hgap]

end Tracker

end FlowWatch
