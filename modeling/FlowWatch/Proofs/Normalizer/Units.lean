import FlowWatch.Normalizer

/-!
# Inputs and outputs of a normalizer

A run is seen from two sides. The inputs are the valid conversions in the order
of their arrival; only the offset of the shifting modes bears on them. The
outputs are the timestamps that are handed on. The laws of one step say what it
does to the memory of the normalizer, so that no later proof opens it. Moving an
output forward is the one operation that can leave the range of timestamps, and
a run that fits never does so.
-/

namespace FlowWatch.Normalizer

/-- The timestamp that goes on, if there is one. -/
def Outcome.output? : Outcome → Option Timestamp
  | .delivered t => some t
  | _ => none

/-- The timestamps that go on, in order. -/
def outputs (outcomes : List Outcome) : List Timestamp := outcomes.filterMap Outcome.output?

/-- The valid conversions of some arrivals, in order. -/
def inputs (n : Normalizer) : List Arrival → List Timestamp
  | [] => []
  | a :: rest =>
    if (n.convert a).isValid then n.convert a :: (n.latch a).inputs rest
    else (n.latch a).inputs rest

/-- An arrival whose output would be moved beyond the greatest timestamp. -/
def Overflows (n : Normalizer) (a : Arrival) : Prop :=
  (n.convert a).isValid = true ∧ n.placement (n.convert a) = .corrected ∧
    Nanos.greatest.val < n.previousOutput.ns.val + correctionStep.val

/-- Arrivals of which none overflows where it stands in the run. -/
def Fits (n : Normalizer) : List Arrival → Prop
  | [] => True
  | a :: rest => ¬n.Overflows a ∧ (n.step a).next.Fits rest

/-- Whether an arrival overflows is decided by its conversion. -/
instance (n : Normalizer) (a : Arrival) : Decidable (n.Overflows a) :=
  inferInstanceAs (Decidable (_ ∧ _ ∧ _))

/-- Whether a run fits is decided along it. -/
instance decidableFits : (n : Normalizer) → (arrivals : List Arrival) → Decidable (n.Fits arrivals)
  | _, [] => inferInstanceAs (Decidable True)
  | n, a :: rest =>
    have := decidableFits (n.step a).next rest
    inferInstanceAs (Decidable (_ ∧ _))

/-- Deciding the offset leaves the rest of the memory alone. -/
theorem latch_eq (n : Normalizer) (a : Arrival) :
    n.latch a = { n with offset := (n.latch a).offset } := by
  unfold latch
  split <;> rfl

/-- The placement of an input does not depend on the offset. -/
theorem placement_latch (n : Normalizer) (a : Arrival) (input : Timestamp) :
    (n.latch a).placement input = n.placement input := by
  rw [latch_eq]
  rfl

/-- The output of an input does not depend on the offset. -/
theorem output_latch (n : Normalizer) (a : Arrival) (input : Timestamp) :
    (n.latch a).output input = n.output input := by
  rw [latch_eq]
  rfl

/-- A valid input is remembered together with its output, which goes on. -/
theorem step_of_valid {n : Normalizer} {a : Arrival} (h : (n.convert a).isValid = true) :
    (n.step a).outcome = .delivered (n.output (n.convert a)) ∧
      (n.step a).next.previousInput = some (n.convert a) ∧
      (n.step a).next.previousOutput = n.output (n.convert a) ∧
      (n.step a).next.corrected =
        n.corrected + if n.placement (n.convert a) = .corrected then 1 else 0 := by
  have hcount : (n.latch a).corrected = n.corrected := by rw [latch_eq]
  simp only [step, h, if_true, accept, output_latch, placement_latch, hcount, true_and]
  split <;> rfl

/-- A unit without a valid timestamp changes no memory of the units before it. -/
theorem step_of_invalid {n : Normalizer} {a : Arrival} (h : (n.convert a).isValid = false) :
    (n.step a).outcome.output? = none ∧
      (n.step a).next.previousInput = n.previousInput ∧
      (n.step a).next.previousOutput = n.previousOutput ∧
      (n.step a).next.corrected = n.corrected := by
  have hlatch := latch_eq n a
  simp only [step, h, Bool.false_eq_true, if_false, discard]
  split <;> rw [hlatch] <;> exact ⟨rfl, rfl, rfl, rfl⟩

/-- A unit without a valid timestamp fails the stream exactly if its raw timestamp is
past the first seconds. -/
theorem outcome_of_invalid {n : Normalizer} {a : Arrival} (h : (n.convert a).isValid = false) :
    (n.step a).outcome = if grace.val < a.raw.val then .failed a.raw else .dropped := by
  simp only [step, h, Bool.false_eq_true, if_false, discard]
  split <;> rfl

/-- Exactly the units without a valid timestamp are counted as dropped. -/
theorem step_dropped (n : Normalizer) (a : Arrival) :
    (n.step a).next.dropped = n.dropped + if (n.convert a).isValid then 0 else 1 := by
  have hcount : (n.latch a).dropped = n.dropped := by rw [latch_eq]
  simp only [step]
  split
  · exact hcount
  · simp only [discard]
    split <;> exact congrArg (· + 1) hcount

/-- A step counts its unit once at most, as dropped or as corrected. -/
theorem step_counters_le (n : Normalizer) (a : Arrival) :
    (n.step a).next.dropped + (n.step a).next.corrected ≤ n.dropped + n.corrected + 1 := by
  rw [step_dropped]
  cases hvalid : (n.convert a).isValid with
  | true =>
    obtain ⟨-, -, -, hcorrected⟩ := step_of_valid hvalid
    rw [hcorrected, if_pos rfl]
    split <;> omega
  | false =>
    obtain ⟨-, -, -, hcorrected⟩ := step_of_invalid hvalid
    rw [hcorrected, if_neg Bool.false_ne_true]
    omega

/-- A run counts no more units than arrive. So words of 64 bits hold both counters of a
new normalizer as long as fewer than 2^64 units have arrived. -/
theorem counters_run_le (n : Normalizer) (arrivals : List Arrival) :
    (n.run arrivals).1.dropped + (n.run arrivals).1.corrected ≤
      n.dropped + n.corrected + arrivals.length := by
  induction arrivals generalizing n with
  | nil => exact Nat.le_refl _
  | cons a rest ih =>
    have hfirst := n.step_counters_le a
    have hrest := ih (n.step a).next
    simp only [run, List.length_cons]
    omega

/-- All that the output of a valid input can be, with what decides it. -/
inductive Placed (n : Normalizer) (input : Timestamp) : Placement → Timestamp → Prop
  /-- There was no input before. -/
  | first (hnone : n.previousInput = none) : Placed n input .kept input
  /-- The input repeats the last one. -/
  | again (hsome : n.previousInput = some input) : Placed n input .repeated n.previousOutput
  /-- The input is beyond the last output. -/
  | beyond {previous : Timestamp} (hsome : n.previousInput = some previous)
      (hne : previous ≠ input) (hlt : n.previousOutput.ns.val < input.ns.val) :
      Placed n input .kept input
  /-- The input is not beyond the last output, which is moved forward. -/
  | behind {previous : Timestamp} (hsome : n.previousInput = some previous)
      (hne : previous ≠ input) (hle : input.ns.val ≤ n.previousOutput.ns.val) :
      Placed n input .corrected (n.previousOutput.shift correctionStep)

/-- The placement and the output of every input are one of these. -/
theorem placed (n : Normalizer) (input : Timestamp) :
    n.Placed input (n.placement input) (n.output input) := by
  cases hprev : n.previousInput with
  | none =>
    have hplace : n.placement input = .kept := by simp only [placement, hprev]
    rw [output, hplace]
    exact .first hprev
  | some previous =>
    by_cases hsame : previous = input
    · have hplace : n.placement input = .repeated := by
        simp only [placement, hprev, hsame, if_true]
      rw [output, hplace]
      exact .again (hsame ▸ hprev)
    · by_cases hlt : n.previousOutput.ns.val < input.ns.val
      · have hplace : n.placement input = .kept := by
          simp only [placement, hprev, hsame, hlt, if_true, if_false]
        rw [output, hplace]
        exact .beyond hprev hsame hlt
      · have hplace : n.placement input = .corrected := by
          simp only [placement, hprev, hsame, hlt, if_false]
        rw [output, hplace]
        exact .behind hprev hsame (by omega)

/-- What is remembered was not moved, and is not beyond some count. -/
def Trails (n : Normalizer) (count : Int) : Prop :=
  ∀ input, n.previousInput = some input → n.previousOutput = input ∧ input.ns.val ≤ count

/-- An input that is not behind the memory is its own output, and is not corrected.
Where the last output is not before it, the two are the same. -/
theorem Trails.output_eq {n : Normalizer} {input : Timestamp} (h : n.Trails input.ns.val) :
    n.output input = input ∧ n.placement input ≠ .corrected := by
  have hplaced := n.placed input
  generalize n.placement input = placement at hplaced ⊢
  generalize n.output input = output at hplaced ⊢
  cases hplaced with
  | first => exact ⟨rfl, by decide⟩
  | again hsome => exact ⟨(h _ hsome).1, by decide⟩
  | beyond => exact ⟨rfl, by decide⟩
  | @behind previous hsome hne hle =>
    obtain ⟨houtput, hbefore⟩ := h previous hsome
    rw [houtput] at hle
    have hsame : previous.ns = input.ns := Nanos.ext (by omega)
    exact absurd (congrArg Timestamp.mk hsame) hne

/-- A step whose valid input would be that count corrects nothing, and what is remembered
of it is not beyond the count either. -/
theorem Trails.step {n : Normalizer} {a : Arrival} {count : Int} (h : n.Trails count)
    (hexact : (n.convert a).isValid = true → (n.convert a).ns.val = count) :
    (n.step a).next.Trails count ∧ (n.step a).next.corrected = n.corrected := by
  cases hvalid : (n.convert a).isValid with
  | false =>
    obtain ⟨-, hprevious, houtput, hcorrected⟩ := step_of_invalid hvalid
    refine ⟨?_, hcorrected⟩
    unfold Trails
    rw [hprevious, houtput]
    exact h
  | true =>
    obtain ⟨-, hprevious, houtput, hcorrected⟩ := step_of_valid hvalid
    have hval := hexact hvalid
    obtain ⟨hsame, hplaced⟩ := Trails.output_eq (hval.symm ▸ h)
    rw [if_neg hplaced] at hcorrected
    refine ⟨fun input hinput => ?_, hcorrected⟩
    obtain rfl : n.convert a = input := Option.some.inj (hprevious.symm.trans hinput)
    exact ⟨houtput.trans hsame, Int.le_of_eq hval⟩

/-- The offset after a step is the one decided by the arrival. -/
theorem step_offset (n : Normalizer) (a : Arrival) :
    (n.step a).next.offset = (n.latch a).offset := by
  simp only [step]
  split
  · rfl
  · simp only [discard]
    split <;> rfl

/-- In the shifting modes every step decides on the offset. -/
theorem step_offset_of_shifting {n : Normalizer} (h : n.mode.scale? = none) (a : Arrival) :
    (n.step a).next.offset = some (n.offsetFor a) := by
  simp only [step_offset, latch, h]

/-- No step decides on an offset in a mode with a timescale. -/
theorem step_offset_of_scale {n : Normalizer} {scale : Timescale} (h : n.mode.scale? = some scale)
    (a : Arrival) : (n.step a).next.offset = n.offset := by
  simp only [step_offset, latch, h]

/-- An offset that was decided stays. -/
theorem step_offset_of_some {n : Normalizer} {offset : Nanos} (h : n.offset = some offset)
    (a : Arrival) : (n.step a).next.offset = some offset := by
  cases hscale : n.mode.scale? with
  | some scale => rw [step_offset_of_scale hscale, h]
  | none => rw [step_offset_of_shifting hscale, offsetFor, h, Option.getD_some]

/-- Conversions read the mode, the start and the offset only. -/
theorem convert_congr {m n : Normalizer} (hmode : m.mode = n.mode) (hstart : m.start = n.start)
    (hoffset : m.offset = n.offset) (a : Arrival) : m.convert a = n.convert a := by
  simp only [convert, offsetFor, anchor, hmode, hstart, hoffset]

/-- The decision on the offset reads the mode, the start and the offset only. -/
theorem latch_offset_congr {m n : Normalizer} (hmode : m.mode = n.mode)
    (hstart : m.start = n.start) (hoffset : m.offset = n.offset) (a : Arrival) :
    (m.latch a).offset = (n.latch a).offset := by
  simp only [latch, offsetFor, anchor, hmode, hstart, hoffset]
  split <;> simp only [hoffset]

/-- A step keeps the configured start. -/
theorem step_start (n : Normalizer) (a : Arrival) : (n.step a).next.start = n.start := by
  have hlatch : (n.latch a).start = n.start := by rw [latch_eq]
  simp only [step]
  split
  · exact hlatch
  · simp only [discard]
    split <;> exact hlatch

/-- The inputs of a run read the mode, the start and the offset only. -/
theorem inputs_congr {m n : Normalizer} (hmode : m.mode = n.mode) (hstart : m.start = n.start)
    (hoffset : m.offset = n.offset) (arrivals : List Arrival) :
    m.inputs arrivals = n.inputs arrivals := by
  induction arrivals generalizing m n with
  | nil => rfl
  | cons a rest ih =>
    have hrest : (m.latch a).inputs rest = (n.latch a).inputs rest := by
      apply ih
      · rw [latch_mode, latch_mode, hmode]
      · rw [latch_eq, latch_eq n, hstart]
      · exact latch_offset_congr hmode hstart hoffset a
    simp only [inputs, convert_congr hmode hstart hoffset, hrest]

/-- The inputs behind an arrival are those of the normalizer after its step. -/
theorem inputs_latch (n : Normalizer) (a : Arrival) (rest : List Arrival) :
    (n.latch a).inputs rest = (n.step a).next.inputs rest := by
  apply inputs_congr
  · rw [latch_mode, step_mode]
  · rw [step_start, latch_eq]
  · rw [step_offset]

/-- The inputs of a run that starts with a valid one. -/
theorem inputs_cons_of_valid {n : Normalizer} {a : Arrival} (h : (n.convert a).isValid = true)
    (rest : List Arrival) :
    n.inputs (a :: rest) = n.convert a :: (n.step a).next.inputs rest := by
  simp only [inputs, h, if_true, inputs_latch]

/-- The inputs of a run that starts with a unit to drop. -/
theorem inputs_cons_of_invalid {n : Normalizer} {a : Arrival}
    (h : (n.convert a).isValid = false) (rest : List Arrival) :
    n.inputs (a :: rest) = (n.step a).next.inputs rest := by
  simp only [inputs, h, Bool.false_eq_true, if_false, inputs_latch]

/-- The outputs of a run that starts with a valid input. -/
theorem outputs_cons_of_valid {n : Normalizer} {a : Arrival} (h : (n.convert a).isValid = true)
    (rest : List Arrival) :
    outputs (n.run (a :: rest)).2 =
      n.output (n.convert a) :: outputs ((n.step a).next.run rest).2 := by
  have hout := (step_of_valid h).1
  simp only [outputs, run, List.filterMap_cons, hout, Outcome.output?]

/-- The outputs of a run that starts with a unit to drop. -/
theorem outputs_cons_of_invalid {n : Normalizer} {a : Arrival}
    (h : (n.convert a).isValid = false) (rest : List Arrival) :
    outputs (n.run (a :: rest)).2 = outputs ((n.step a).next.run rest).2 := by
  have hout := (step_of_invalid h).1
  simp only [outputs, run, List.filterMap_cons, hout]

/-- Outputs are moved by fifteen milliseconds. -/
theorem correctionStep_val : correctionStep.val = 15000000 := rfl

/-- The greatest count is the greatest signed word. -/
theorem greatest_val : Nanos.greatest.val = 9223372036854775807 := rfl

/-- Room for one more correction where an arrival does not overflow. -/
theorem room_of_not_overflows {n : Normalizer} {a : Arrival}
    (hvalid : (n.convert a).isValid = true) (hplace : n.placement (n.convert a) = .corrected)
    (hfits : ¬n.Overflows a) :
    n.previousOutput.ns.val + correctionStep.val ≤ Nanos.greatest.val :=
  Int.not_lt.1 fun hover => hfits ⟨hvalid, hplace, hover⟩

/-- Without an overflow a moved output is exactly one step behind the last one. -/
theorem shift_correctionStep_val {t : Timestamp} (hvalid : t.isValid = true)
    (hfits : t.ns.val + correctionStep.val ≤ Nanos.greatest.val) :
    (t.shift correctionStep).ns.val = t.ns.val + correctionStep.val := by
  have hpos := Timestamp.isValid_iff.1 hvalid
  rw [correctionStep_val, greatest_val] at hfits
  rw [Timestamp.shift, Timestamp.collapse_val, correctionStep_val]
  exact if_pos ⟨by omega, by omega⟩

/-- With an overflow a moved output is the sentinel. -/
theorem shift_correctionStep_of_overflow {t : Timestamp}
    (hover : Nanos.greatest.val < t.ns.val + correctionStep.val) :
    (t.shift correctionStep).isValid = false := by
  rw [correctionStep_val, greatest_val] at hover
  have hzero : (t.shift correctionStep).ns.val = 0 := by
    rw [Timestamp.shift, Timestamp.collapse_val, correctionStep_val]
    exact if_neg (by omega)
  simp only [Timestamp.isValid, hzero, Int.lt_irrefl, decide_false]

end FlowWatch.Normalizer
