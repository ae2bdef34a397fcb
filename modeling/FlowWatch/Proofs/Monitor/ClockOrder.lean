import FlowWatch.Proofs.Endpoint.Staleness
import Mathlib.Data.List.Chain

/-!
# When the readings of a clock are in order

A clock that is moved by hand holds one word. On a scale without an end an advance
adds its length and a setting takes the greater position, each with no more than a
word can hold, so nothing on this scale ever goes back. The clock agrees with the
scale until the position leaves the word, and the move that takes it out takes the
clock back. So the readings of a run are in order exactly if the position at its end
is within the word. As long as it is, moves of the clock alone leave a stale tracker
stale, and beyond the word a single advance is enough to make it healthy again.
-/

namespace FlowWatch

/-- A word holds a length up to the greatest word. -/
theorem Duration.toWord_toNat_eq_min (d : Duration) :
    d.toWord.toNat = min d.nanos 18446744073709551615 := by
  simp only [Duration.toWord, UInt64.toNat_ofNat']
  omega

namespace ManualClock

/-- Every reading is within the word. -/
theorem elapsed_nanos_lt (c : ManualClock) : c.elapsed.nanos < 18446744073709551616 :=
  c.position.toNat_lt

/-- The reading after a setting is the greater one of two. -/
theorem elapsed_set_nanos (c : ManualClock) (target : Duration) :
    (c.set target).elapsed.nanos =
      max c.elapsed.nanos (min target.nanos 18446744073709551615) := by
  rw [← target.toWord_toNat_eq_min]
  show (max c.position target.toWord).toNat = max c.position.toNat target.toWord.toNat
  simp only [Max.max, UInt64.le_iff_toNat_le]
  split <;> rfl

/-- Any reading within the word is one advance away. -/
theorem exists_advance (c : ManualClock) {reading : Duration}
    (h : reading.nanos < 18446744073709551616) : ∃ step, (c.advance step).elapsed = reading := by
  have hnow := c.elapsed_nanos_lt
  let distance :=
    (reading.nanos + (18446744073709551616 - c.elapsed.nanos)) % 18446744073709551616
  have hdistance : distance < 18446744073709551616 := Nat.mod_lt _ (by decide)
  let step : Duration := ⟨distance, by omega⟩
  have hafter : (c.advance step).elapsed.nanos =
      (c.elapsed.nanos + distance) % 18446744073709551616 := by
    rw [elapsed_advance_nanos, step.toWord_toNat_eq_min,
      Nat.min_eq_left (Nat.le_of_lt_succ hdistance)]
    rfl
  refine ⟨step, Duration.ext ?_⟩
  rw [hafter]
  omega

end ManualClock

namespace Monitor

/-! ### The scale without an end -/

/-- The position to which an operation moves a clock on a scale without an end. -/
def Operation.unrolled (position : Nat) : Operation → Nat
  | .advance step => position + min step.nanos 18446744073709551615
  | .set target => max position (min target.nanos 18446744073709551615)
  | _ => position

/-- Whether the operation moves the clock and does nothing else. -/
def Operation.movesClock : Operation → Bool
  | .advance _ | .set _ => true
  | _ => false

/-- On a scale without an end nothing goes back. -/
theorem Operation.le_unrolled (position : Nat) (operation : Operation) :
    position ≤ operation.unrolled position := by
  cases operation with
  | advance step => exact Nat.le_add_right _ _
  | set target => exact Nat.le_max_left _ _
  | _ => exact Nat.le_refl _

/-- Nor does a whole run. -/
theorem Operation.le_foldl_unrolled (position : Nat) (operations : List Operation) :
    position ≤ operations.foldl Operation.unrolled position := by
  induction operations generalizing position with
  | nil => exact Nat.le_refl _
  | cons operation rest ih => exact Nat.le_trans (operation.le_unrolled position) (ih _)

namespace Session

/-- The moves of the clock in a run, added up, stay within its word. -/
def WithinWord (s : Session) (operations : List Operation) : Prop :=
  operations.foldl Operation.unrolled s.now.nanos < 18446744073709551616

/-- Whether the moves stay within the word is decided by adding them up. -/
instance (s : Session) (operations : List Operation) : Decidable (s.WithinWord operations) :=
  inferInstanceAs (Decidable (_ < _))

variable {s : Session}

/-- An operation wraps the clock exactly if it takes the position out of the word. -/
theorem wraps_eq_false_iff {operation : Operation} :
    operation.wraps s.clock = false ↔
      operation.unrolled s.now.nanos < 18446744073709551616 := by
  have hnow : s.now.nanos < 18446744073709551616 := s.clock.elapsed_nanos_lt
  cases operation with
  | advance step =>
    have hposition : s.clock.position.toNat = s.now.nanos := rfl
    rw [Operation.wraps, ManualClock.wraps, decide_eq_false_iff_not, hposition,
      step.toWord_toNat_eq_min, Nat.not_le]
    rfl
  | set target =>
    refine iff_of_true rfl ?_
    rw [Operation.unrolled]
    omega
  | _ => exact iff_of_true rfl hnow

/-- An operation that does not wrap the clock moves it as on the scale without an end. -/
theorem now_nanos_step {operation : Operation} (h : operation.wraps s.clock = false) :
    (s.step operation).session.now.nanos = operation.unrolled s.now.nanos := by
  cases operation with
  | register text tracker =>
    show (s.register text tracker).session.clock.elapsed.nanos = s.now.nanos
    rw [register_clock]
    rfl
  | attach point tracker =>
    show (s.attach point tracker).session.clock.elapsed.nanos = s.now.nanos
    rw [attach_clock]
    rfl
  | advance step =>
    have hfits := wraps_eq_false_iff.1 h
    rw [Operation.unrolled] at hfits ⊢
    have hafter := s.clock.elapsed_advance_nanos step
    rw [step.toWord_toNat_eq_min] at hafter
    exact hafter.trans (Nat.mod_eq_of_lt hfits)
  | set target => exact s.clock.elapsed_set_nanos target
  | _ => rfl

/-- An operation takes the clock back exactly if it wraps. -/
theorem now_le_step_iff {operation : Operation} :
    s.now ≤ (s.step operation).session.now ↔ operation.wraps s.clock = false := by
  refine ⟨fun hle => ?_, now_le_step⟩
  cases operation with
  | advance step => exact (s.clock.elapsed_le_advance_iff step).1 hle
  | _ => rfl

/-- No advance of a run wraps exactly if its moves stay within the word. Behind the
end of the word the scale does not come back to it. -/
theorem unwrapped_iff_withinWord {operations : List Operation} :
    s.Unwrapped operations ↔ s.WithinWord operations := by
  induction operations generalizing s with
  | nil => exact iff_of_true trivial s.clock.elapsed_nanos_lt
  | cons operation rest ih =>
    cases hwraps : operation.wraps s.clock with
    | false =>
      have hrest : (s.step operation).session.WithinWord rest ↔
          s.WithinWord (operation :: rest) := by
        rw [WithinWord, now_nanos_step hwraps]
        rfl
      exact (and_iff_right hwraps).trans (ih.trans hrest)
    | true =>
      have hbeyond : ¬operation.unrolled s.now.nanos < 18446744073709551616 := fun hfits =>
        Bool.false_ne_true ((wraps_eq_false_iff.2 hfits).symm.trans hwraps)
      have hgrows := Operation.le_foldl_unrolled (operation.unrolled s.now.nanos) rest
      refine iff_of_false (fun h => Bool.false_ne_true (h.1.symm.trans hwraps)) fun hwithin => ?_
      exact hbeyond (Nat.lt_of_le_of_lt hgrows hwithin)

/-! ### Readings -/

/-- The readings of the clock before, between and behind the operations of a run. -/
def readings (s : Session) : List Operation → List Duration
  | [] => [s.now]
  | operation :: rest => s.now :: (s.step operation).session.readings rest

/-- The first reading is that of the session. -/
theorem exists_readings_eq_cons (s : Session) (operations : List Operation) :
    ∃ later, s.readings operations = s.now :: later := by
  cases operations with
  | nil => exact ⟨[], rfl⟩
  | cons operation rest => exact ⟨_, rfl⟩

/-- The readings of a run are in order exactly if no advance of it wraps. -/
theorem isChain_readings_iff {operations : List Operation} :
    (s.readings operations).IsChain (· ≤ ·) ↔ s.Unwrapped operations := by
  induction operations generalizing s with
  | nil => exact iff_of_true (List.isChain_singleton _) trivial
  | cons operation rest ih =>
    obtain ⟨later, hlater⟩ := (s.step operation).session.exists_readings_eq_cons rest
    have hrest := @ih (s.step operation).session
    rw [hlater] at hrest
    rw [readings, hlater, List.isChain_cons_cons, hrest, now_le_step_iff]
    rfl

/-! ### Stale trackers -/

/-- What neither moves data nor attaches a probe leaves nothing to write down. -/
theorem occurrence?_eq_none {operation : Operation}
    (h : operation.movesClock = true ∨ operation.isRead = true) :
    s.occurrence? operation = none := by
  rcases h with h | h <;> cases operation <;> first | rfl | exact absurd h Bool.false_ne_true

/-- Moves of the clock and reads feed no tracker. -/
theorem feeds_eq_nil {operations : List Operation}
    (h : ∀ operation ∈ operations, operation.movesClock = true ∨ operation.isRead = true)
    (k : Nat) : s.feeds k operations = [] := by
  induction operations generalizing s with
  | nil => rfl
  | cons operation rest ih =>
    have hnone := @occurrence?_eq_none s operation (h operation List.mem_cons_self)
    rw [feeds, hnone, ih fun other hother => h other (List.mem_cons_of_mem _ hother)]
    rfl

/-- An answer that is no complaint about the number is that of a tracker. -/
theorem exists_of_ofTracker {k : Nat} {view : Tracker → Answer} {answer : Answer}
    (h : s.ofTracker k view = answer) (hknown : answer ≠ .unknownTracker) :
    ∃ t, s.monitor.trackers[k]? = some t ∧ view t = answer := by
  unfold ofTracker at h
  split at h
  · next t ht => exact ⟨t, ht, h⟩
  · exact absurd h.symm hknown

/-- A tracker that was reported stale by a limit is so again after moves of the clock
within its word, with any reads among them. -/
theorem run_stale_by {operations : List Operation} {k : Nat} {limit : Duration}
    (hwithin : s.WithinWord operations)
    (honly : ∀ operation ∈ operations,
      operation.movesClock = true ∨ operation.isRead = true)
    (hstale : (s.step (.isHealthy k limit)).answer = .truth false) :
    ((s.run operations).1.step (.isHealthy k limit)).answer = .truth false := by
  obtain ⟨t, ht, hanswer⟩ := exists_of_ofTracker hstale Answer.noConfusion
  obtain ⟨t', ht', -, hidle⟩ :=
    run_spared ht (unwrapped_iff_withinWord.2 hwithin) (feeds_eq_nil honly k)
  have hnot : ¬t.idle s.now < limit := of_decide_eq_false (Answer.truth.inj hanswer)
  have hstale' : t'.isHealthy (s.run operations).1.now limit = false :=
    decide_eq_false fun hlt => hnot (Nat.lt_of_le_of_lt hidle hlt)
  exact (ofTracker_eq ht' _).trans (congrArg Answer.truth hstale')

/-- Where the clock reads again what it read at the last update, a tracker is healthy as
it was then, and every such reading is one advance away. -/
theorem exists_advance_healthy {k : Nat} {t : Tracker} {last limit : Duration}
    (ht : s.monitor.trackers[k]? = some t) (hlast : t.lastUpdate? = some last)
    (hlimit : Duration.zero < limit) :
    ∃ step, ((s.run [.advance step]).1.step (.isHealthy k limit)).answer = .truth true := by
  obtain ⟨hupdates, hactivity, hsigned⟩ := Tracker.fed_of_lastUpdate? hlast
  have hword : last.nanos < 18446744073709551616 := Nat.lt_of_le_of_lt hsigned (by decide)
  obtain ⟨step, hstep⟩ := s.clock.exists_advance hword
  have hidle : (t.idle last).nanos = 0 := by
    rw [Tracker.idle_nanos_of_fed hupdates hactivity (Nat.le_refl _) hsigned, Nat.sub_self]
  have hbelow : t.idle last < limit := by
    show (t.idle last).nanos < limit.nanos
    rw [hidle]
    exact hlimit
  have hhealthy : t.isHealthy last limit = true := decide_eq_true hbelow
  have hnow : (s.run [.advance step]).1.now = last := hstep
  refine ⟨step, (ofTracker_eq (s := (s.run [.advance step]).1) ht _).trans ?_⟩
  rw [hnow, hhealthy]

/-- For any session and any operations on it: the readings of the clock never decrease
from one operation to the next exactly if its moves, added up without wrapping, stay
within its word. As long as they do, a tracker that was reported stale is reported stale
again after moves of the clock alone, with any reads among them: by every limit, and by
its own threshold with an idle time that is no shorter. Beyond the word this fails for
every tracker with a known update: some advance that leaves the word makes it healthy
again, by any limit that is positive. -/
theorem clock_ordered_iff_within_word (s : Session) (operations : List Operation) :
    let later := (s.run operations).1
    ((s.readings operations).IsChain (· ≤ ·) ↔ s.WithinWord operations) ∧
      (s.WithinWord operations →
        (∀ operation ∈ operations, operation.movesClock = true ∨ operation.isRead = true) →
        ∀ k,
          (∀ limit, (s.step (.isHealthy k limit)).answer = .truth false →
            (later.step (.isHealthy k limit)).answer = .truth false) ∧
          ∀ report, (s.step (.check k)).answer = .report report → report.isHealthy = false →
            ∃ again, (later.step (.check k)).answer = .report again ∧
              again.isHealthy = false ∧ report.idle ≤ again.idle) ∧
      ∀ k t last limit, s.monitor.trackers[k]? = some t → t.lastUpdate? = some last →
        Duration.zero < limit → (s.step (.isHealthy k limit)).answer = .truth false →
          ∃ step, ¬s.WithinWord [.advance step] ∧
            ((s.run [.advance step]).1.step (.isHealthy k limit)).answer = .truth true := by
  intro later
  refine ⟨isChain_readings_iff.trans unwrapped_iff_withinWord, fun hwithin honly k => ⟨?_, ?_⟩,
    ?_⟩
  · exact fun limit => run_stale_by hwithin honly
  · intro report hreport hstale
    obtain ⟨t, ht, hanswer⟩ := exists_of_ofTracker hreport Answer.noConfusion
    obtain rfl := Answer.report.inj hanswer
    obtain ⟨t', ht', hstale', hidle⟩ :=
      run_stale ht hstale (unwrapped_iff_withinWord.2 hwithin) (feeds_eq_nil honly k)
    exact ⟨_, ofTracker_eq ht' _, hstale', hidle⟩
  · intro k t last limit ht hlast hlimit hstale
    obtain ⟨step, hhealthy⟩ := exists_advance_healthy ht hlast hlimit
    refine ⟨step, fun hwithin => ?_, hhealthy⟩
    have honly : ∀ operation ∈ [Operation.advance step],
        operation.movesClock = true ∨ operation.isRead = true :=
      List.forall_mem_singleton.2 (.inl rfl)
    have hagain := run_stale_by hwithin honly hstale
    exact Bool.false_ne_true (Answer.truth.inj (hagain.symm.trans hhealthy))

/-- A tracker with a threshold of five seconds, seven seconds after its only update. -/
def drained : Session :=
  (empty.run [.addTracker (.ofWord 5000000000), .update 0, .advance (.ofWord 7000000000)]).1

/-- Settings in both directions, with a look at the tracker, and an advance to the last
reading of the word. -/
def toTheEnd : List Operation :=
  [.set (.ofWord 9000000000), .check 0, .set (.ofWord 1),
    .advance (.ofWord 18446744064709551615)]

/-- Up to the last reading of the word the tracker stays stale, and some advance beyond
it makes the tracker healthy by a single nanosecond. -/
theorem drained_stays_stale :
    drained.WithinWord toTheEnd ∧ (drained.readings toTheEnd).IsChain (· ≤ ·) ∧
      (drained.step (.isHealthy 0 (.ofWord 1))).answer = .truth false ∧
      ((drained.run toTheEnd).1.step (.isHealthy 0 (.ofWord 1))).answer = .truth false ∧
      (∃ again, ((drained.run toTheEnd).1.step (.check 0)).answer = .report again ∧
        again.isHealthy = false ∧ Duration.ofWord 7000000000 ≤ again.idle) ∧
      ∃ step, ¬drained.WithinWord [.advance step] ∧
        ((drained.run [.advance step]).1.step (.isHealthy 0 (.ofWord 1))).answer =
          .truth true := by
  have hwithin : drained.WithinWord toTheEnd := by decide +kernel
  have honly : ∀ operation ∈ toTheEnd,
      operation.movesClock = true ∨ operation.isRead = true := by decide
  have hstale : (drained.step (.isHealthy 0 (.ofWord 1))).answer = .truth false := by
    decide +kernel
  have hreport : (drained.step (.check 0)).answer =
      .report ⟨.ofWord 7000000000, .ofWord 5000000000⟩ := by decide +kernel
  have hlast : drained.monitor.trackers[0]?.bind Tracker.lastUpdate? = some Duration.zero := by
    decide +kernel
  obtain ⟨t, ht, hlast⟩ := Option.bind_eq_some_iff.1 hlast
  obtain ⟨hordered, hstays, hwakes⟩ := clock_ordered_iff_within_word drained toTheEnd
  obtain ⟨hlimits, hreports⟩ := hstays hwithin honly 0
  exact ⟨hwithin, hordered.2 hwithin, hstale, hlimits _ hstale, hreports _ hreport (by decide),
    hwakes 0 t Duration.zero (.ofWord 1) ht hlast (by decide) hstale⟩

/-- One nanosecond behind the last reading of the word the clock reads zero, and a tracker
that was stale at the last reading is healthy again, though nothing has fed it. -/
theorem clock_turns_back :
    ¬((drained.run toTheEnd).1.readings [.advance (.ofWord 1)]).IsChain (· ≤ ·) ∧
      ((drained.run toTheEnd).1.step (.isHealthy 0 (.ofWord 5000000000))).answer =
        .truth false ∧
      (((drained.run toTheEnd).1.run [.advance (.ofWord 1)]).1.step
        (.isHealthy 0 (.ofWord 5000000000))).answer = .truth true := by
  decide +kernel

end Session

end Monitor

end FlowWatch
