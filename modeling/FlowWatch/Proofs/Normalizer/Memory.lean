import FlowWatch.Proofs.Normalizer.Units

/-!
# What a normalizer goes by

What becomes of a unit depends on its conversion and on what the normalizer remembers
of the units before it: the last input, the last output and the corrections so far.
Two normalizers with the same memory therefore treat units alike that they convert
alike, also in different modes, and a unit without a valid timestamp leaves no trace in
the memory. Once the offset is decided, or in a mode that needs none, a conversion
depends on the raw timestamp alone, and no later unit changes this.
-/

namespace FlowWatch.Normalizer

/-- Two normalizers that remember the same of the units before. -/
structure SameMemory (m n : Normalizer) : Prop where
  /-- The last input is the same. -/
  previousInput : m.previousInput = n.previousInput
  /-- The last output is the same. -/
  previousOutput : m.previousOutput = n.previousOutput
  /-- There were as many corrections. -/
  corrected : m.corrected = n.corrected

/-- Nothing is left to decide on: the mode has a timescale, or the offset is known. -/
def Settled (n : Normalizer) : Prop := n.mode.scale? = none → n.offset ≠ none

section Memory

variable {m n : Normalizer} {a b : Arrival}

/-- Before their first units all normalizers remember the same. -/
theorem sameMemory_fresh (mode other : InputMode) (start origin : Timestamp) :
    SameMemory (fresh mode start) (fresh other origin) := ⟨rfl, rfl, rfl⟩

/-- The same memory places an input alike. -/
theorem SameMemory.placement_eq (h : SameMemory m n) (input : Timestamp) :
    m.placement input = n.placement input := by
  simp only [placement, h.previousInput, h.previousOutput]

/-- The same memory gives an input the same output. -/
theorem SameMemory.output_eq (h : SameMemory m n) (input : Timestamp) :
    m.output input = n.output input := by
  simp only [output, h.placement_eq, h.previousOutput]

/-- Units that are converted alike have the same output, or none, and are remembered
alike. -/
theorem SameMemory.step (h : SameMemory m n) (hsame : m.convert a = n.convert b) :
    (m.step a).outcome.output? = (n.step b).outcome.output? ∧
      SameMemory (m.step a).next (n.step b).next := by
  cases hvalid : (n.convert b).isValid with
  | false =>
    obtain ⟨houtcome, hinput, houtput, hcount⟩ := step_of_invalid hvalid
    obtain ⟨houtcome', hinput', houtput', hcount'⟩ := step_of_invalid (hsame ▸ hvalid)
    refine ⟨houtcome'.trans houtcome.symm, ?_, ?_, ?_⟩
    · rw [hinput, hinput', h.previousInput]
    · rw [houtput, houtput', h.previousOutput]
    · rw [hcount, hcount', h.corrected]
  | true =>
    obtain ⟨houtcome, hinput, houtput, hcount⟩ := step_of_valid hvalid
    obtain ⟨houtcome', hinput', houtput', hcount'⟩ := step_of_valid (hsame ▸ hvalid)
    refine ⟨?_, ?_, ?_, ?_⟩
    · rw [houtcome, houtcome', hsame, h.output_eq]
    · rw [hinput, hinput', hsame]
    · rw [houtput, houtput', hsame, h.output_eq]
    · rw [hcount, hcount', hsame, h.placement_eq, h.corrected]

/-- A unit without a valid timestamp is not remembered. -/
theorem SameMemory.step_of_invalid (h : SameMemory m n) (hinvalid : (n.convert b).isValid = false) :
    SameMemory m (n.step b).next := by
  obtain ⟨-, hinput, houtput, hcount⟩ := Normalizer.step_of_invalid hinvalid
  exact ⟨h.previousInput.trans hinput.symm, h.previousOutput.trans houtput.symm,
    h.corrected.trans hcount.symm⟩

end Memory

/-- A run keeps the mode. -/
theorem run_mode (n : Normalizer) (arrivals : List Arrival) : (n.run arrivals).1.mode = n.mode := by
  induction arrivals generalizing n with
  | nil => rfl
  | cons a rest ih => exact (ih _).trans (step_mode n a)

/-- With a timescale there is no offset to decide on. -/
theorem latch_of_scale {n : Normalizer} {scale : Timescale} (h : n.mode.scale? = some scale)
    (a : Arrival) : n.latch a = n := by
  simp only [latch, h]

section Settled

variable {n : Normalizer}

/-- With a timescale a normalizer is settled from the beginning. -/
theorem settled_of_scale {scale : Timescale} (h : n.mode.scale? = some scale) : n.Settled :=
  fun hnone => absurd (h.symm.trans hnone) (Option.some_ne_none _)

/-- A settled normalizer keeps its offset. -/
theorem Settled.step_offset (h : n.Settled) (a : Arrival) : (n.step a).next.offset = n.offset := by
  cases hscale : n.mode.scale? with
  | some scale => exact step_offset_of_scale hscale a
  | none =>
    obtain ⟨offset, hoffset⟩ := Option.ne_none_iff_exists'.1 (h hscale)
    rw [step_offset_of_some hoffset, hoffset]

/-- After every unit a normalizer is settled. -/
theorem settled_step (n : Normalizer) (a : Arrival) : (n.step a).next.Settled := by
  intro hscale
  rw [step_mode] at hscale
  rw [step_offset_of_shifting hscale]
  exact Option.some_ne_none _

/-- A settled normalizer converts after a step as before. -/
theorem Settled.convert_step (h : n.Settled) (a b : Arrival) :
    (n.step a).next.convert b = n.convert b :=
  convert_congr (step_mode n a) (step_start n a) (h.step_offset a) b

/-- A settled normalizer does not read the clock. -/
theorem Settled.convert_eq_of_raw (h : n.Settled) {a b : Arrival} (hraw : a.raw = b.raw) :
    n.convert a = n.convert b := by
  unfold convert
  cases hscale : n.mode.scale? with
  | some scale => dsimp only; rw [hraw]
  | none =>
    obtain ⟨offset, hoffset⟩ := Option.ne_none_iff_exists'.1 (h hscale)
    simp only [offsetFor, hoffset, Option.getD_some, hraw]

/-- A settled normalizer keeps its offset to the end of a run. -/
theorem Settled.run_offset (h : n.Settled) (arrivals : List Arrival) :
    (n.run arrivals).1.offset = n.offset := by
  induction arrivals generalizing n with
  | nil => rfl
  | cons a rest ih => exact (ih (settled_step n a)).trans (h.step_offset a)

end Settled

end FlowWatch.Normalizer
