import FlowWatch.Proofs.Normalizer.Memory

/-!
# Dropped units leave no trace

A run is compared with the run on what is left of its arrivals when the units without a
valid timestamp are taken out. The first unit of a shifting mode stays in any case, since
it decides on the offset by which the others are shifted. Both runs hand on the same
outputs, correct as many of them and end with the same offset. They differ in the units
that are counted as dropped, by exactly those that were taken out. The clock may show
other times in the second run, except where the first unit is put at the current time.
-/

namespace FlowWatch.Normalizer

/-- The arrivals that bear on the outputs of a run: those with a valid timestamp by the
offset that the first one decides, and the first one itself in a shifting mode. -/
def bearing (n : Normalizer) : List Arrival → List Arrival
  | [] => []
  | a :: rest =>
    let later := rest.filter fun b => ((n.latch a).convert b).isValid
    if (n.convert a).isValid = true ∨ n.mode.scale? = none then a :: later else later

/-- Deciding on the offset and taking the step lead to the same conversions. -/
theorem convert_latch (n : Normalizer) (a b : Arrival) :
    (n.latch a).convert b = (n.step a).next.convert b := by
  apply convert_congr
  · rw [latch_mode, step_mode]
  · rw [step_start, latch_eq]
  · rw [step_offset]

/-- With a timescale the first unit stays by the same rule as the others. -/
theorem bearing_of_scale {n : Normalizer} {scale : Timescale} (h : n.mode.scale? = some scale)
    (arrivals : List Arrival) :
    n.bearing arrivals = arrivals.filter fun a => (n.convert a).isValid := by
  cases arrivals with
  | nil => rfl
  | cons a rest =>
    simp only [bearing, latch_of_scale h, h, reduceCtorEq, or_false, List.filter_cons]

/-- In a shifting mode the first unit stays. -/
theorem bearing_of_shifting {n : Normalizer} (h : n.mode.scale? = none) (a : Arrival)
    (rest : List Arrival) :
    n.bearing (a :: rest) =
      a :: rest.filter fun b => ((n.step a).next.convert b).isValid := by
  simp only [bearing, h, or_true, if_true, convert_latch]

/-- A step reads the clock only for the offset that it decides on. -/
theorem step_congr {n : Normalizer} {a b : Arrival} (hraw : a.raw = b.raw)
    (hoffset : n.offsetFor a = n.offsetFor b) : n.step a = n.step b := by
  have hconvert : n.convert a = n.convert b := by simp only [convert, hraw, hoffset]
  have hlatch : n.latch a = n.latch b := by simp only [latch, hoffset]
  have hevents : n.latchEvents a = n.latchEvents b := by simp only [latchEvents, hoffset]
  simp only [step, hconvert, hlatch, hevents, hraw]

/-- The outputs of a run are those of its first step and of the rest. -/
theorem outputs_run_cons (n : Normalizer) (a : Arrival) (rest : List Arrival) :
    outputs (n.run (a :: rest)).2 =
      (n.step a).outcome.output?.toList ++ outputs ((n.step a).next.run rest).2 := by
  simp only [outputs, run, List.filterMap_cons]
  cases (n.step a).outcome.output? <;> rfl

/-- A run that keeps up with a longer one: what is missing was dropped there. -/
structure Condenses (m n : Normalizer) (thinned arrivals : List Arrival) : Prop where
  /-- The same outputs go on. -/
  outputs_eq : outputs (m.run thinned).2 = outputs (n.run arrivals).2
  /-- The same is remembered at the end. -/
  memory : SameMemory (m.run thinned).1 (n.run arrivals).1
  /-- The missing units are those that are not counted as dropped. -/
  balance : (n.run arrivals).1.dropped + m.dropped + thinned.length =
    (m.run thinned).1.dropped + n.dropped + arrivals.length

section Condenses

variable {m n : Normalizer} {a b : Arrival} {thinned arrivals : List Arrival}

/-- Both runs start with units that they convert alike. -/
theorem Condenses.cons (hmemory : SameMemory m n) (hsame : m.convert b = n.convert a)
    (h : Condenses (m.step b).next (n.step a).next thinned arrivals) :
    Condenses m n (b :: thinned) (a :: arrivals) := by
  refine ⟨?_, h.memory, ?_⟩
  · rw [outputs_run_cons, outputs_run_cons, (hmemory.step hsame).1, h.outputs_eq]
  · have hbalance := h.balance
    rw [step_dropped, step_dropped, hsame] at hbalance
    simp only [run, List.length_cons]
    omega

/-- The longer run starts with a unit that it drops. -/
theorem Condenses.cons_right (hinvalid : (n.convert a).isValid = false)
    (h : Condenses m (n.step a).next thinned arrivals) :
    Condenses m n thinned (a :: arrivals) := by
  refine ⟨?_, h.memory, ?_⟩
  · rw [outputs_cons_of_invalid hinvalid, h.outputs_eq]
  · have hbalance := h.balance
    rw [step_dropped, hinvalid, if_neg Bool.false_ne_true] at hbalance
    simp only [run, List.length_cons]
    omega

/-- Once the conversions are settled, a run without its invalid units, at any times
of the clock, keeps up with it. What is invalid does not change along the run. -/
theorem condenses_of_settled (hm : m.Settled) (hn : n.Settled)
    (hconvert : ∀ a, m.convert a = n.convert a) (hmemory : SameMemory m n)
    (hraws : thinned.map (·.raw) =
      (arrivals.filter fun a => (n.convert a).isValid).map (·.raw)) :
    Condenses m n thinned arrivals := by
  induction arrivals generalizing m n thinned with
  | nil =>
    obtain rfl : thinned = [] := List.map_eq_nil_iff.1 hraws
    exact ⟨rfl, hmemory, Nat.add_right_cancel_iff.2 (Nat.add_comm _ _)⟩
  | cons a rest ih =>
    have hfilter : (rest.filter fun b => (n.convert b).isValid) =
        rest.filter fun b => ((n.step a).next.convert b).isValid :=
      List.filter_congr fun b _ => by rw [hn.convert_step]
    cases hvalid : (n.convert a).isValid with
    | false =>
      rw [List.filter_cons, hvalid, if_neg Bool.false_ne_true, hfilter] at hraws
      exact .cons_right hvalid <| ih hm (settled_step n a)
        (fun c => (hconvert c).trans (hn.convert_step a c).symm)
        (hmemory.step_of_invalid hvalid) hraws
    | true =>
      rw [List.filter_cons, hvalid, if_pos rfl, hfilter, List.map_cons] at hraws
      obtain ⟨b, more, rfl, hraw, hmore⟩ := List.map_eq_cons_iff.1 hraws
      have hsame : m.convert b = n.convert a :=
        (hconvert b).trans (hn.convert_eq_of_raw hraw)
      exact .cons hmemory hsame <| ih (settled_step m b) (settled_step n a)
        (fun c => (hm.convert_step b c).trans ((hconvert c).trans (hn.convert_step a c).symm))
        (hmemory.step hsame).2 hmore

end Condenses

/-- For every mode, start and arrivals: without the units that have no valid timestamp,
of which the first unit of a shifting mode is kept, a run has the same outputs, as many
corrections and the same offset, and the units that are missing make up the difference
of the dropped ones. The raw timestamps may arrive at any times of the clock, as long as
the first one does so at the same time in the mode that puts it there. -/
theorem drops_leave_no_trace (mode : InputMode) (start : Timestamp)
    (arrivals thinned : List Arrival)
    (hraws : thinned.map (·.raw) = ((fresh mode start).bearing arrivals).map (·.raw))
    (hclock : mode = .startAtCurrentTime →
      thinned.head?.map (·.now) = arrivals.head?.map (·.now)) :
    let whole := (fresh mode start).run arrivals
    let short := (fresh mode start).run thinned
    outputs short.2 = outputs whole.2 ∧ short.1.corrected = whole.1.corrected ∧
      short.1.offset = whole.1.offset ∧
      whole.1.dropped + thinned.length = short.1.dropped + arrivals.length := by
  intro whole short
  have hfresh := sameMemory_fresh mode mode start start
  cases hscale : mode.scale? with
  | some scale =>
    have hsettled : (fresh mode start).Settled := settled_of_scale hscale
    rw [bearing_of_scale hscale] at hraws
    have h := condenses_of_settled hsettled hsettled (fun _ => rfl) hfresh hraws
    exact ⟨h.outputs_eq, h.memory.corrected,
      (hsettled.run_offset thinned).trans (hsettled.run_offset arrivals).symm, h.balance⟩
  | none =>
    cases arrivals with
    | nil =>
      obtain rfl : thinned = [] := List.map_eq_nil_iff.1 hraws
      exact ⟨rfl, rfl, rfl, rfl⟩
    | cons a rest =>
      rw [bearing_of_shifting hscale, List.map_cons] at hraws
      obtain ⟨b, more, rfl, hraw, hmore⟩ := List.map_eq_cons_iff.1 hraws
      have hoffset : (fresh mode start).offsetFor b = (fresh mode start).offsetFor a := by
        have hanchor : (fresh mode start).anchor b.now = (fresh mode start).anchor a.now := by
          cases mode with
          | startAtCurrentTime => exact Option.some.inj (hclock rfl)
          | ntp | tai | unixUtc | startAtFixedTime => rfl
        simp only [offsetFor, hanchor, hraw]
      have hstep := step_congr hraw hoffset
      have hsettled := settled_step (fresh mode start) a
      have hrest : Condenses ((fresh mode start).step b).next ((fresh mode start).step a).next
          more rest := by
        rw [hstep]
        exact condenses_of_settled hsettled hsettled (fun _ => rfl) ⟨rfl, rfl, rfl⟩ hmore
      have hconvert : (fresh mode start).convert b = (fresh mode start).convert a := by
        simp only [convert, hraw, hoffset]
      have h := Condenses.cons hfresh hconvert hrest
      refine ⟨h.outputs_eq, h.memory.corrected, ?_, h.balance⟩
      calc short.1.offset = ((fresh mode start).step b).next.offset :=
            (settled_step _ b).run_offset more
        _ = ((fresh mode start).step a).next.offset := by rw [hstep]
        _ = whole.1.offset := (hsettled.run_offset rest).symm

/-- The first unit cannot be taken out in a shifting mode, even if it is dropped. -/
example :
    let first : Arrival := ⟨Timestamp.invalid, Nanos.clamp 1000⟩
    let second : Arrival := ⟨Timestamp.invalid, Nanos.clamp 3000⟩
    let n := fresh .startAtFixedTime Timestamp.invalid
    outputs (n.run [first, second]).2 = [⟨Nanos.clamp 2000⟩] ∧ outputs (n.run [second]).2 = [] := by
  decide

/-- Units that start at twenty seconds of the clock: two of them before the first
timestamp, one beyond the last, and one that falls behind and is repeated. -/
def withInvalid : List Arrival :=
  [(20, 0), (21, -30), (22, 5), (23, 4), (24, -25), (25, 9223372036), (26, 4)].map
    fun (now, raw) => ⟨⟨Nanos.clamp (now * 1000000000)⟩, Nanos.clamp (raw * 1000000000)⟩

/-- The others, with the clock at zero after the first of them. -/
def withoutInvalid : List Arrival :=
  [(20, 0), (0, 5), (0, 4), (0, 4)].map
    fun (now, raw) => ⟨⟨Nanos.clamp (now * 1000000000)⟩, Nanos.clamp (raw * 1000000000)⟩

/-- Both runs correct one output, and the repeated unit repeats it across the gap. -/
theorem outputs_withoutInvalid_eq :
    let whole := (fresh .startAtCurrentTime Timestamp.invalid).run withInvalid
    let short := (fresh .startAtCurrentTime Timestamp.invalid).run withoutInvalid
    withoutInvalid.map (·.raw) =
        ((fresh .startAtCurrentTime Timestamp.invalid).bearing withInvalid).map (·.raw) ∧
      withoutInvalid.head?.map (·.now) = withInvalid.head?.map (·.now) ∧
      outputs short.2 = outputs whole.2 ∧ short.1.corrected = whole.1.corrected ∧
      whole.1.dropped + 4 = short.1.dropped + 7 := by
  intro whole short
  have hraws : withoutInvalid.map (·.raw) =
      ((fresh .startAtCurrentTime Timestamp.invalid).bearing withInvalid).map (·.raw) := by decide
  have hclock : withoutInvalid.head?.map (·.now) = withInvalid.head?.map (·.now) := by decide
  obtain ⟨houtputs, hcorrected, -, hdropped⟩ :=
    drops_leave_no_trace .startAtCurrentTime Timestamp.invalid withInvalid withoutInvalid hraws
      fun _ => hclock
  exact ⟨hraws, hclock, houtputs, hcorrected, hdropped⟩

end FlowWatch.Normalizer
