import FlowWatch.Proofs.Normalizer.Units

/-!
# When outputs are valid and never decrease

Outputs are in order exactly as long as no output is moved beyond the greatest
timestamp. Where that happens the sentinel goes on in its place, and the memory
of the outputs before it is lost, so a later output may also be smaller.
-/

namespace FlowWatch.Normalizer

/-- Outputs that are all valid and of which none is smaller than an earlier one. -/
def Ordered (timestamps : List Timestamp) : Prop :=
  (∀ t ∈ timestamps, t.isValid = true) ∧
    timestamps.Pairwise fun earlier later => earlier.ns.val ≤ later.ns.val

/-- A memory that a run without overflow can have: the last output is valid
once there was an input, and the sentinel before. -/
def Sound (n : Normalizer) : Prop :=
  match n.previousInput with
  | none => n.previousOutput = Timestamp.invalid
  | some _ => n.previousOutput.isValid = true

/-- Before its first unit a normalizer is sound. -/
theorem sound_fresh (mode : InputMode) (start : Timestamp) : (fresh mode start).Sound := rfl

/-- A sound normalizer has not moved its output below zero. -/
theorem Sound.previousOutput_nonneg {n : Normalizer} (h : n.Sound) :
    0 ≤ n.previousOutput.ns.val := by
  unfold Sound at h
  split at h
  · rw [h]
    exact Int.le_refl 0
  · exact Int.le_of_lt (Timestamp.isValid_iff.1 h)

/-- The memory of a sound normalizer behind an input is valid. -/
theorem Sound.previousOutput_valid {n : Normalizer} (h : n.Sound) {previous : Timestamp}
    (hsome : n.previousInput = some previous) : n.previousOutput.isValid = true := by
  unfold Sound at h
  rw [hsome] at h
  exact h

/-- Without an overflow the output of a valid input is valid and not smaller
than the last one. -/
theorem Sound.output_valid {n : Normalizer} (h : n.Sound) {a : Arrival}
    (hvalid : (n.convert a).isValid = true) (hfits : ¬n.Overflows a) :
    (n.output (n.convert a)).isValid = true ∧
      n.previousOutput.ns.val ≤ (n.output (n.convert a)).ns.val := by
  have hpos := Timestamp.isValid_iff.1 hvalid
  have hnonneg := h.previousOutput_nonneg
  have hplaced := n.placed (n.convert a)
  generalize hplace : n.placement (n.convert a) = place at hplaced
  generalize n.output (n.convert a) = out at hplaced ⊢
  cases hplaced with
  | first hnone =>
    have hzero : n.previousOutput = Timestamp.invalid := by
      unfold Sound at h
      rw [hnone] at h
      exact h
    rw [hzero]
    exact ⟨hvalid, Int.le_of_lt hpos⟩
  | again hsome => exact ⟨h.previousOutput_valid hsome, Int.le_refl _⟩
  | beyond hsome hne hlt => exact ⟨hvalid, Int.le_of_lt hlt⟩
  | behind hsome hne hle =>
    have hprev := h.previousOutput_valid hsome
    have hroom := room_of_not_overflows hvalid hplace hfits
    have hval := shift_correctionStep_val hprev hroom
    rw [correctionStep_val] at hval
    exact ⟨Timestamp.isValid_iff.2 (by omega), by omega⟩

/-- A step without an overflow keeps a normalizer sound. -/
theorem Sound.step {n : Normalizer} (h : n.Sound) {a : Arrival} (hfits : ¬n.Overflows a) :
    (n.step a).next.Sound := by
  cases hvalid : (n.convert a).isValid with
  | true =>
    obtain ⟨-, hinput, houtput, -⟩ := step_of_valid hvalid
    unfold Sound
    rw [hinput, houtput]
    exact (h.output_valid hvalid hfits).1
  | false =>
    obtain ⟨-, hinput, houtput, -⟩ := step_of_invalid hvalid
    unfold Sound
    rw [hinput, houtput]
    exact h

/-- The outputs of a run that fits are in order and not smaller than the last
output before it. -/
theorem Sound.ordered {n : Normalizer} (h : n.Sound) {arrivals : List Arrival}
    (hfits : n.Fits arrivals) :
    Ordered (outputs (n.run arrivals).2) ∧
      ∀ t ∈ outputs (n.run arrivals).2, n.previousOutput.ns.val ≤ t.ns.val := by
  induction arrivals generalizing n with
  | nil => exact ⟨⟨by simp [run, outputs], .nil⟩, by simp [run, outputs]⟩
  | cons a rest ih =>
    obtain ⟨hhead, hrest⟩ := hfits
    obtain ⟨⟨hvalids, hpairs⟩, hleast⟩ := ih (h.step hhead) hrest
    cases hvalid : (n.convert a).isValid with
    | false =>
      obtain ⟨-, -, houtput, -⟩ := step_of_invalid hvalid
      rw [outputs_cons_of_invalid hvalid]
      rw [houtput] at hleast
      exact ⟨⟨hvalids, hpairs⟩, hleast⟩
    | true =>
      obtain ⟨-, -, houtput, -⟩ := step_of_valid hvalid
      obtain ⟨hout, hge⟩ := h.output_valid hvalid hhead
      rw [houtput] at hleast
      rw [outputs_cons_of_valid hvalid]
      refine ⟨⟨?_, ?_⟩, ?_⟩
      · exact List.forall_mem_cons.2 ⟨hout, hvalids⟩
      · exact List.pairwise_cons.2 ⟨hleast, hpairs⟩
      · exact List.forall_mem_cons.2 ⟨hge, fun t ht => Int.le_trans hge (hleast t ht)⟩

/-- A run whose outputs are all valid fits: an overflow would hand on the
sentinel. -/
theorem fits_of_valid_outputs {n : Normalizer} {arrivals : List Arrival}
    (h : ∀ t ∈ outputs (n.run arrivals).2, t.isValid = true) : n.Fits arrivals := by
  induction arrivals generalizing n with
  | nil => trivial
  | cons a rest ih =>
    cases hvalid : (n.convert a).isValid with
    | false =>
      rw [outputs_cons_of_invalid hvalid] at h
      exact ⟨fun hover => Bool.false_ne_true (hvalid.symm.trans hover.1), ih h⟩
    | true =>
      rw [outputs_cons_of_valid hvalid] at h
      obtain ⟨hhead, hrest⟩ := List.forall_mem_cons.1 h
      refine ⟨?_, ih hrest⟩
      rintro ⟨-, hplace, hover⟩
      rw [output, hplace, shift_correctionStep_of_overflow hover] at hhead
      exact Bool.false_ne_true hhead

/-- For every mode, start, clock and sequence of raw timestamps: what goes on
is valid and never decreases exactly if no output had to be moved beyond the
greatest timestamp. -/
theorem outputs_ordered_iff_fits (mode : InputMode) (start : Timestamp)
    (arrivals : List Arrival) :
    Ordered (outputs ((fresh mode start).run arrivals).2) ↔ (fresh mode start).Fits arrivals :=
  ⟨fun h => fits_of_valid_outputs h.1, fun h => ((sound_fresh mode start).ordered h).1⟩

/-- Two units at the upper end of atomic time: the second one repeats an
earlier moment and goes on with the sentinel. -/
theorem outputs_not_always_ordered :
    ¬∀ (mode : InputMode) (start : Timestamp) (arrivals : List Arrival),
      Ordered (outputs ((fresh mode start).run arrivals).2) := by
  intro h
  have hrun := (h .tai Timestamp.invalid
    [⟨Timestamp.invalid, Nanos.greatest⟩, ⟨Timestamp.invalid, Timestamp.least.ns⟩]).1
  exact absurd (hrun Timestamp.invalid (by decide)) (by decide)

end FlowWatch.Normalizer
