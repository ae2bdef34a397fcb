import FlowWatch.Proofs.Normalizer.FixedStart
import FlowWatch.Proofs.Pipeline.Recovery

/-!
# The schedule of a stream with a fixed start

The first unit decides on the offset, which is the start itself, since the stream begins
at zero. From then on the place of a unit among the units produced decides on its
timestamp: it is as far behind the start as so many intervals reach. The time of the
stream stops at the greatest count, where the timestamps of the units behind a valid
start have left the range already. So no output ever repeats or falls behind another one
in a way that would have to be corrected.
-/

namespace FlowWatch.Pipeline

/-- The time of a unit since the start of the stream, by its place among the units:
so many intervals, stopped at the greatest count. -/
def unitTime (interval : Duration) (place : Nat) : Int :=
  min ((place * interval.nanos : Nat) : Int) Nanos.greatest.val

/-- Stopping one factor does not show once the product is stopped. -/
theorem min_mul_min (a b bound : Nat) : min (a * min b bound) bound = min (a * b) bound := by
  rcases Nat.eq_zero_or_pos a with rfl | hpos
  · simp only [Nat.zero_mul]
  · have hstopped : bound ≤ a * bound := Nat.le_mul_of_pos_left bound hpos
    rw [← Nat.mul_min_mul_left, Nat.min_assoc, Nat.min_eq_right hstopped]

/-- The time of the stream is that of the next unit. -/
theorem streamTime_val (p : Pipeline) : p.streamTime.val = unitTime p.unitInterval p.emitted := by
  have hgreatest : Nanos.greatest.val = 9223372036854775807 := rfl
  have hclamp : ∀ n : Nat, (Nanos.clamp n).val = (min n 9223372036854775807 : Nat) := by
    intro n
    simp only [Nanos.clamp]
    omega
  rw [streamTime, Duration.toSigned, hclamp, hclamp, ← Int.natCast_mul, hclamp, min_mul_min,
    Nat.mul_comm, min_mul_min, unitTime, hgreatest]
  omega

/-- No unit comes before the start of the stream, nor behind the greatest count. -/
theorem unitTime_bounds (interval : Duration) (place : Nat) :
    0 ≤ unitTime interval place ∧ unitTime interval place ≤ Nanos.greatest.val := by
  have hgreatest : Nanos.greatest.val = 9223372036854775807 := rfl
  unfold unitTime
  omega

/-- No unit comes before those produced earlier. -/
theorem unitTime_mono (interval : Duration) {place later : Nat} (h : place ≤ later) :
    unitTime interval place ≤ unitTime interval later := by
  have hproduct := Int.ofNat_le.2 (Nat.mul_le_mul_right interval.nanos h)
  unfold unitTime
  omega

/-- Below the greatest count the time of a unit does not show that it stops there. -/
theorem unitTime_le_iff {interval : Duration} {place : Nat} {bound : Int}
    (h : bound < Nanos.greatest.val) :
    unitTime interval place ≤ bound ↔ ((place * interval.nanos : Nat) : Int) ≤ bound := by
  unfold unitTime
  generalize ((place * interval.nanos : Nat) : Int) = time
  omega

/-- Whether an operation produces a unit: it is a step, and the source has not stalled. -/
def produces (p : Pipeline) : Operation → Bool
  | .step moment => !p.isStalled moment.elapsed
  | _ => false

/-- The same settings stall at the same times. -/
theorem SameSetup.produces_eq {p p' : Pipeline} (h : p.SameSetup p') :
    p'.produces = p.produces := by
  funext operation
  cases operation with
  | step moment => simp only [produces, h.isStalled_eq]
  | probe | attach | push | interval | stalled => rfl

/-- An operation produces one unit or none. -/
theorem perform_emitted (p : Pipeline) (operation : Operation) :
    (p.perform operation).next.emitted =
      p.emitted + if p.produces operation = true then 1 else 0 := by
  have hkept : (∀ moment, operation ≠ .step moment) →
      (p.perform operation).next.emitted = p.emitted := by
    intro hother
    obtain ⟨monitor, hnext⟩ := p.perform_withMonitor hother
    rw [hnext]
    rfl
  cases operation with
  | step moment =>
    cases hstalled : p.isStalled moment.elapsed with
    | true => simp [perform, produces, step_of_isStalled hstalled, hstalled]
    | false => simp [perform, produces, step_emitted hstalled, hstalled]
  | probe | attach | push | interval | stalled =>
    simp only [hkept (by simp), produces, Bool.false_eq_true, if_false, Nat.add_zero]

/-- A run produces as many units as there are operations in it that produce one. -/
theorem performAll_emitted (p : Pipeline) (operations : List Operation) :
    (p.performAll operations).1.emitted = p.emitted + operations.countP p.produces := by
  induction operations generalizing p with
  | nil => rfl
  | cons operation rest ih =>
    have hsetup := (p.perform_moves operation).sameSetup
    have hlast : (p.performAll (operation :: rest)).1 =
        ((p.perform operation).next.performAll rest).1 := rfl
    rw [hlast, ih, perform_emitted, hsetup.produces_eq, List.countP_cons]
    omega

/-- What a run of any operations keeps where the start is fixed. The offset is the start
itself, once there was a unit, and no output differs from its input, which the stream has
not come behind since. -/
structure OnSchedule (p : Pipeline) (start : Timestamp) : Prop where
  /-- The mode is that of a fixed start. -/
  mode : p.normalizer.mode = .startAtFixedTime
  /-- The configured start is kept. -/
  start_eq : p.normalizer.start = start
  /-- Without a decision there was no unit. -/
  undecided : p.normalizer.offset = none → p.emitted = 0
  /-- The decision is the start. -/
  decided : ∀ offset, p.normalizer.offset = some offset → offset = start.ns
  /-- No output was moved. -/
  uncorrected : p.normalizer.corrected = 0
  /-- The last output is the last input, and its time was not behind that of the next. -/
  remembered : ∀ input, p.normalizer.previousInput = some input →
    p.normalizer.previousOutput = input ∧ input.ns.val ≤ start.ns.val + p.streamTime.val

/-- A new pipeline with a fixed start is on its schedule, whatever trackers there are. -/
theorem OnSchedule.of_make {settings : PipelineSettings} {p : Pipeline} {start : Timestamp}
    (hmake : make settings = .ok p) (hmode : settings.timestampMode = .startAtFixedTime)
    (hstart : settings.startTimestamp = .ok start) (trackers : List Tracker) :
    (p.withTrackers trackers).OnSchedule start := by
  obtain ⟨other, hother, rfl⟩ := make_eq_ok hmake
  obtain rfl : start = other := Except.ok.inj (hstart.symm.trans hother)
  constructor
  · exact hmode
  · rfl
  · intro _
    rfl
  · intro offset hoffset
    cases hoffset
  · rfl
  · intro input hinput
    cases hinput

/-- The outcome of a unit by its time since the start of the stream. -/
inductive Scheduled (start : Timestamp) (time : Int) : Outcome → Prop
  /-- In the range of timestamps it is delivered, that far behind the start. -/
  | delivered {t : Timestamp}
      (hrange : 0 < start.ns.val + time ∧ start.ns.val + time ≤ Nanos.greatest.val)
      (htime : t.ns.val = start.ns.val + time) : Scheduled start time (.delivered t)
  /-- Out of range it is dropped in the first seconds of a stream. -/
  | dropped (hout : ¬(0 < start.ns.val + time ∧ start.ns.val + time ≤ Nanos.greatest.val))
      (hearly : time ≤ Normalizer.grace.val) : Scheduled start time .dropped
  /-- Behind them the stream fails with the time of the unit. -/
  | failed {raw : Nanos}
      (hout : ¬(0 < start.ns.val + time ∧ start.ns.val + time ≤ Nanos.greatest.val))
      (hlate : Normalizer.grace.val < time) (hraw : raw.val = time) :
      Scheduled start time (.failed (.unconvertible raw InputMode.startAtFixedTime.name))

section OnSchedule

variable {p p' next : Pipeline} {start : Timestamp} {operation : Operation} {moment : Moment}
  {outcome : Outcome}

/-- The mode shifts timestamps. -/
theorem OnSchedule.shifting (h : p.OnSchedule start) : p.normalizer.mode.scale? = none := by
  rw [h.mode]
  rfl

/-- The offset for every unit is the start. The first unit is at the start of the
stream, and so the anchor is the offset. -/
theorem OnSchedule.offsetFor_eq (h : p.OnSchedule start) (moment : Moment) :
    p.normalizer.offsetFor (p.arrival moment) = start.ns := by
  unfold Normalizer.offsetFor
  cases hoffset : p.normalizer.offset with
  | some offset => exact h.decided offset hoffset
  | none =>
    have hraw : (p.arrival moment).raw.val = 0 :=
      stamp_of_first h.shifting (h.undecided hoffset) moment.wall
    have hanchor : p.normalizer.anchor (p.arrival moment).now = start := by
      simp only [Normalizer.anchor, h.mode, h.start_eq]
    apply Nanos.ext
    rw [Option.getD_none, hanchor, Nanos.subClamped, hraw, Int.sub_zero]
    exact Nanos.clamp_val start.ns.atLeast start.ns.below

/-- A unit is converted to the start and its time since then. -/
theorem OnSchedule.converted_eq (h : p.OnSchedule start) (moment : Moment) :
    p.converted moment = Timestamp.collapse (start.ns.val + p.streamTime.val) := by
  rw [converted_of_shifting h.shifting, h.offsetFor_eq, Int.add_comm]

/-- A valid conversion is exact. -/
theorem OnSchedule.converted_val (h : p.OnSchedule start)
    (hvalid : (p.converted moment).isValid = true) :
    (p.converted moment).ns.val = start.ns.val + p.streamTime.val := by
  rw [h.converted_eq] at hvalid ⊢
  exact Timestamp.collapse_val_of_valid hvalid

/-- A conversion is valid in the range of timestamps. -/
theorem OnSchedule.converted_isValid_iff (h : p.OnSchedule start) (moment : Moment) :
    (p.converted moment).isValid = true ↔
      0 < start.ns.val + p.streamTime.val ∧
        start.ns.val + p.streamTime.val ≤ Nanos.greatest.val := by
  rw [h.converted_eq]
  exact Timestamp.isValid_collapse_iff

/-- A valid conversion is the output, and it is not corrected. -/
theorem OnSchedule.output_eq (h : p.OnSchedule start)
    (hvalid : (p.converted moment).isValid = true) :
    p.normalizer.output (p.converted moment) = p.converted moment ∧
      p.normalizer.placement (p.converted moment) ≠ .corrected := by
  have hval := h.converted_val hvalid
  exact Normalizer.Trails.output_eq (hval.symm ▸ h.remembered)

/-- A unit leaves the start behind as the offset. -/
theorem OnSchedule.step_offset (h : p.OnSchedule start) (moment : Moment) :
    (p.normalizer.step (p.arrival moment)).next.offset = some start.ns := by
  rw [Normalizer.step_offset_of_shifting h.shifting, h.offsetFor_eq]

/-- No unit is corrected, and what is remembered of it is at its time at most. -/
theorem OnSchedule.step_memory (h : p.OnSchedule start) (moment : Moment) :
    let n := (p.normalizer.step (p.arrival moment)).next
    n.corrected = 0 ∧ ∀ input, n.previousInput = some input →
      n.previousOutput = input ∧ input.ns.val ≤ start.ns.val + p.streamTime.val := by
  intro n
  obtain ⟨hremembered, hcorrected⟩ := Normalizer.Trails.step h.remembered h.converted_val
  exact ⟨hcorrected.trans h.uncorrected, hremembered⟩

/-- A step keeps the pipeline on its schedule. -/
theorem OnSchedule.steps (h : p.OnSchedule start) (hstep : p.Steps moment outcome next) :
    next.OnSchedule start := by
  rcases hstep.next_cases with ⟨-, rfl⟩ | ⟨delivered, hnext⟩
  · exact h
  · have hnormalizer : next.normalizer = (p.normalizer.step (p.arrival moment)).next :=
      congrArg normalizer hnext
    have htime : p.streamTime.val ≤ next.streamTime.val := by
      rw [hnext]
      exact streamTime_mono rfl (Nat.le_succ _)
    obtain ⟨huncorrected, hremembered⟩ := h.step_memory moment
    have hoffset := h.step_offset moment
    rw [← hnormalizer] at huncorrected hremembered hoffset
    constructor
    · rw [hnormalizer, Normalizer.step_mode, h.mode]
    · rw [hnormalizer, Normalizer.step_start, h.start_eq]
    · intro hnone
      cases hoffset.symm.trans hnone
    · intro offset hsome
      exact (Option.some.inj (hoffset.symm.trans hsome)).symm
    · exact huncorrected
    · intro input hinput
      obtain ⟨hsame, hbefore⟩ := hremembered input hinput
      exact ⟨hsame, by omega⟩

/-- So does every operation. -/
theorem OnSchedule.moves (h : p.OnSchedule start) (hmoves : p.Moves operation p') :
    p'.OnSchedule start := by
  rcases hmoves.withMonitor_or_steps with ⟨monitor, rfl⟩ | ⟨moment, outcome, -, hstep⟩
  · exact ⟨h.mode, h.start_eq, h.undecided, h.decided, h.uncorrected, h.remembered⟩
  · exact h.steps hstep

/-- The outcome of a step that is not stalled is the one of its time. -/
theorem OnSchedule.scheduled (h : p.OnSchedule start)
    (hruns : p.isStalled moment.elapsed = false) :
    Scheduled start p.streamTime.val (p.step moment).outcome := by
  have hstamp := stamp_of_shifting h.shifting moment.wall
  have hrange := h.converted_isValid_iff moment
  have hstep := p.step_steps moment
  generalize (p.step moment).outcome = outcome at hstep ⊢
  generalize (p.step moment).next = next at hstep
  cases hstep with
  | stalled hstalled =>
    rw [hruns] at hstalled
    cases hstalled
  | delivered _ hvalid =>
    rw [(h.output_eq hvalid).1]
    exact .delivered (hrange.1 hvalid) (h.converted_val hvalid)
  | dropped _ hinvalid hearly =>
    rw [hstamp] at hearly
    rw [hinvalid] at hrange
    exact .dropped (fun hin => Bool.false_ne_true (hrange.2 hin)) hearly
  | failed _ hinvalid hlate =>
    rw [h.mode]
    rw [hstamp] at hlate ⊢
    rw [hinvalid] at hrange
    exact .failed (fun hin => Bool.false_ne_true (hrange.2 hin)) hlate rfl

end OnSchedule

section Reached

variable {settings : PipelineSettings} {p : Pipeline} {start : Timestamp}

/-- After any operations a pipeline with a fixed start is on its schedule. -/
theorem OnSchedule.reached (hmake : make settings = .ok p)
    (hmode : settings.timestampMode = .startAtFixedTime)
    (hstart : settings.startTimestamp = .ok start) (trackers : List Tracker)
    (before : List Operation) :
    ((p.withTrackers trackers).performAll before).1.OnSchedule start := by
  have hfirst := OnSchedule.of_make hmake hmode hstart trackers
  exact performAll_of_moves (P := (OnSchedule · start)) hfirst before fun _ hq hmoves =>
    hq.moves hmoves

/-- The place of the next unit after any operations. -/
theorem emitted_reached (hmake : make settings = .ok p) (trackers : List Tracker)
    (before : List Operation) :
    ((p.withTrackers trackers).performAll before).1.emitted = before.countP p.produces := by
  obtain ⟨start, -, rfl⟩ := make_eq_ok hmake
  rw [performAll_emitted]
  exact Nat.zero_add _

/-- No counter exceeds the number of operations. So words of 64 bits hold all four as long
as there were fewer than 2^64 operations. -/
theorem counts_reached_le (hmake : make settings = .ok p) (trackers : List Tracker)
    (before : List Operation) :
    let counts := ((p.withTrackers trackers).performAll before).1.counts
    ∀ count ∈ [counts.emitted, counts.delivered, counts.dropped, counts.corrected],
      count ≤ before.length := by
  intro counts count hmem
  have hbalanced := Balanced.reached hmake trackers before
  have hemitted : counts.emitted = counts.delivered + counts.dropped := hbalanced.emitted_eq
  have hcorrected : counts.corrected ≤ counts.delivered := hbalanced.corrected_le
  have hlength : counts.emitted ≤ before.length := by
    show ((p.withTrackers trackers).performAll before).1.emitted ≤ before.length
    rw [emitted_reached hmake]
    exact List.countP_le_length
  simp only [List.mem_cons, List.not_mem_nil, or_false] at hmem
  rcases hmem with rfl | rfl | rfl | rfl <;> omega

/-- The time of the next unit after any operations. -/
theorem streamTime_reached (hmake : make settings = .ok p) (trackers : List Tracker)
    (before : List Operation) :
    ((p.withTrackers trackers).performAll before).1.streamTime.val =
      unitTime settings.unitInterval (before.countP p.produces) := by
  rw [streamTime_val, emitted_reached hmake, (performAll_sameSetup _ before).unitInterval]
  obtain ⟨start, -, rfl⟩ := make_eq_ok hmake
  rfl

/-- No operation changes when the source stalls. -/
theorem isStalled_reached (p : Pipeline) (trackers : List Tracker) (before : List Operation)
    (elapsed : Duration) :
    ((p.withTrackers trackers).performAll before).1.isStalled elapsed = p.isStalled elapsed := by
  rw [(performAll_sameSetup _ before).isStalled_eq]
  rfl

end Reached

/-- A pipeline is made of settings whose start can be read. -/
theorem make_of_startTimestamp {settings : PipelineSettings} {start : Timestamp}
    (h : settings.startTimestamp = .ok start) : ∃ p, make settings = .ok p := by
  unfold make
  rw [h]
  exact ⟨_, rfl⟩

/-- From settings with a fixed start that is valid a pipeline is made. After any
operations of it, with any trackers, the number of steps among them that were not stalled
gives the time of the next unit: so many intervals, stopped at the greatest count. A step
that is not stalled delivers the start and this time if their sum is a count of 64 bits.
Otherwise it drops the unit in the first fifteen seconds, and behind them it fails with
the time of the unit. A stalled step changes nothing, so that the schedule goes on where
it was. No output is ever corrected. -/
theorem fixed_start_schedule {settings : PipelineSettings} {start : Timestamp}
    (hmode : settings.timestampMode = .startAtFixedTime)
    (hstart : settings.startTimestamp = .ok start) (hvalid : start.isValid = true) :
    ∃ p, make settings = .ok p ∧
      ∀ (trackers : List Tracker) (before : List Operation) (moment : Moment),
        let reached := ((p.withTrackers trackers).performAll before).1
        let time := unitTime settings.unitInterval (before.countP p.produces)
        let stepped := reached.step moment
        reached.counts.corrected = 0 ∧
          (p.isStalled moment.elapsed = true →
            stepped.outcome = .stalled ∧ stepped.next = reached) ∧
          (p.isStalled moment.elapsed = false →
            (start.ns.val + time ≤ Nanos.greatest.val →
              ∃ t, stepped.outcome = .delivered t ∧ t.ns.val = start.ns.val + time) ∧
            (Nanos.greatest.val < start.ns.val + time → time ≤ 15 * 1000000000 →
              stepped.outcome = .dropped) ∧
            (Nanos.greatest.val < start.ns.val + time → 15 * 1000000000 < time →
              ∃ raw, raw.val = time ∧
                stepped.outcome = .failed (.unconvertible raw "start_at_fixed_time"))) := by
  obtain ⟨p, hmake⟩ := make_of_startTimestamp hstart
  refine ⟨p, hmake, fun trackers before moment => ?_⟩
  intro reached time stepped
  have hgrace : Normalizer.grace.val = 15 * 1000000000 := rfl
  have hreached := OnSchedule.reached hmake hmode hstart trackers before
  have hpos := Timestamp.isValid_iff.1 hvalid
  have hbounds : 0 ≤ time ∧ time ≤ Nanos.greatest.val := unitTime_bounds ..
  have hsame := isStalled_reached p trackers before moment.elapsed
  refine ⟨hreached.uncorrected, fun hstalled => ?_, fun hruns => ?_⟩
  · have hstep := step_of_isStalled (hsame.trans hstalled)
    exact ⟨congrArg Stepped.outcome hstep, congrArg Stepped.next hstep⟩
  · have hscheduled := hreached.scheduled (hsame.trans hruns)
    rw [streamTime_reached hmake trackers before] at hscheduled
    change Scheduled start time stepped.outcome at hscheduled
    generalize stepped.outcome = outcome at hscheduled ⊢
    cases hscheduled with
    | delivered hrange htime =>
      exact ⟨fun _ => ⟨_, rfl, htime⟩, fun hbeyond => by omega, fun hbeyond => by omega⟩
    | dropped hout hearly =>
      exact ⟨fun hwithin => by omega, fun _ _ => rfl, fun _ hlate => by omega⟩
    | failed hout hlate hraw =>
      exact ⟨fun hwithin => by omega, fun _ hearly => by omega, fun _ _ => ⟨_, hraw, rfl⟩⟩

/-- Units every ten seconds for a minute, of which the first one is in the last second
that has timestamps. -/
def lastSecond : PipelineSettings :=
  { PipelineSettings.default with
    unitInterval := ⟨10000000000, by decide⟩
    timestampMode := .startAtFixedTime
    startUtc := some "2262-04-11T23:46:39Z"
    stallAfter := some minute }

/-- The pipeline of these units before the first of them. -/
def lastSecondStart : Pipeline :=
  ⟨⟨topology, []⟩, Normalizer.fresh .startAtFixedTime ⟨Nanos.clamp 9223372036000000000⟩,
    lastSecond.unitInterval, lastSecond.stallAfter, 0, 0, 0⟩

/-- The first unit is delivered, the second one is early enough to be dropped, and the
third one fails, although the source stalls in between. -/
theorem lastSecond_schedule :
    make lastSecond = .ok lastSecondStart ∧
      let unit := daylight Duration.zero
      let outcome := fun before : List Operation =>
        (((lastSecondStart.withTrackers []).performAll before).1.step unit).outcome
      (∃ t, outcome [] = .delivered t ∧ t.ns.val = 9223372036000000000) ∧
        outcome [.step unit, .step (daylight minute)] = .dropped ∧
        ∃ raw, raw.val = 20000000000 ∧
          outcome [.step unit, .step (daylight minute), .step unit] =
            .failed (.unconvertible raw "start_at_fixed_time") := by
  have hmade : make lastSecond = .ok lastSecondStart := rfl
  have hstart : lastSecond.startTimestamp = .ok ⟨Nanos.clamp 9223372036000000000⟩ := rfl
  obtain ⟨p, hmake, hschedule⟩ := fixed_start_schedule rfl hstart (by decide)
  obtain rfl : lastSecondStart = p := Except.ok.inj (hmade.symm.trans hmake)
  have hruns : lastSecondStart.isStalled Duration.zero = false := by decide
  have hfirst := (hschedule [] [] (daylight Duration.zero)).2.2 hruns
  have hsecond := (hschedule [] [.step (daylight Duration.zero), .step (daylight minute)]
    (daylight Duration.zero)).2.2 hruns
  have hthird := (hschedule [] [.step (daylight Duration.zero), .step (daylight minute),
    .step (daylight Duration.zero)] (daylight Duration.zero)).2.2 hruns
  exact ⟨hmade, hfirst.1 (by decide +kernel), hsecond.2.1 (by decide +kernel) (by decide +kernel),
    hthird.2.2 (by decide +kernel) (by decide +kernel)⟩

end FlowWatch.Pipeline
