import FlowWatch.Proofs.Normalizer.Order
import Mathlib.Data.List.Chain

/-!
# How far outputs are ahead of their inputs

As long as a run fits, its last output is between the greatest input so far and
that input moved by one step for each correction. An output repeats with its
input and increases with every other one, and it is the input itself as soon as
the input is beyond the last output. The invariant relates the memory of the
normalizer to all inputs so far.
-/

namespace FlowWatch.Normalizer

/-- The memory of a normalizer behind some inputs: the last of them, and an
output that is not below any of them and ahead of some by no more than the
corrections allow. -/
structure Tracks (n : Normalizer) (taken : List Timestamp) : Prop where
  /-- The last input is remembered. -/
  last : taken.getLast? = n.previousInput
  /-- No output was lost to an overflow. -/
  sound : n.Sound
  /-- The last output is not below any input. -/
  above : ∀ c ∈ taken, c.ns.val ≤ n.previousOutput.ns.val
  /-- Some input is behind the last output by the corrections at most. -/
  near : n.previousInput ≠ none →
    ∃ c ∈ taken, n.previousOutput.ns.val ≤ c.ns.val + n.corrected * correctionStep.val

/-- How an input and its output come after those before them. -/
structure Follows (earlier later : Timestamp × Timestamp) : Prop where
  /-- A repeated input repeats its output. -/
  repeats : later.1 = earlier.1 → later.2 = earlier.2
  /-- Any other input increases the output. -/
  increases : later.1 ≠ earlier.1 → earlier.2.ns.val < later.2.ns.val
  /-- An input beyond the last output is the output. -/
  recovers : earlier.2.ns.val < later.1.ns.val → later.2 = later.1

/-- Before its first unit a normalizer has no inputs to track. -/
theorem tracks_fresh (mode : InputMode) (start : Timestamp) : (fresh mode start).Tracks [] where
  last := rfl
  sound := sound_fresh mode start
  above := by simp
  near := by simp [fresh]

/-- A normalizer that remembers no input has none behind it. -/
theorem Tracks.eq_nil {n : Normalizer} {taken : List Timestamp} (h : n.Tracks taken)
    (hnone : n.previousInput = none) : taken = [] :=
  List.getLast?_eq_none_iff.1 (h.last.trans hnone)

/-- A remembered input is one of the inputs. -/
theorem Tracks.mem {n : Normalizer} {taken : List Timestamp} (h : n.Tracks taken)
    {previous : Timestamp} (hsome : n.previousInput = some previous) : previous ∈ taken :=
  List.mem_of_getLast? (h.last.trans hsome)

/-- The output of a valid input against all inputs up to it. -/
theorem Tracks.output_bounds {n : Normalizer} {taken : List Timestamp} (h : n.Tracks taken)
    {a : Arrival} (hvalid : (n.convert a).isValid = true) (hfits : ¬n.Overflows a) :
    (∀ c ∈ taken ++ [n.convert a], c.ns.val ≤ (n.output (n.convert a)).ns.val) ∧
      ∃ c ∈ taken ++ [n.convert a], (n.output (n.convert a)).ns.val ≤
        c.ns.val + (n.step a).next.corrected * correctionStep.val := by
  have hcount := (step_of_valid hvalid).2.2.2
  have hself : n.convert a ∈ taken ++ [n.convert a] := List.mem_append_right _ (.head _)
  have hstep := correctionStep_val
  have hplaced := n.placed (n.convert a)
  rw [hcount, hstep, List.forall_mem_append, List.forall_mem_singleton]
  generalize hplace : n.placement (n.convert a) = place at hplaced ⊢
  generalize n.output (n.convert a) = out at hplaced ⊢
  cases hplaced with
  | first hnone =>
    rw [h.eq_nil hnone]
    exact ⟨⟨by simp, Int.le_refl _⟩, n.convert a, by simp, by omega⟩
  | again hsome =>
    obtain ⟨c, hc, hle⟩ := h.near (by simp [hsome])
    rw [hstep] at hle
    exact ⟨⟨h.above, h.above _ (h.mem hsome)⟩, c, List.mem_append_left _ hc, by omega⟩
  | beyond hsome hne hlt =>
    refine ⟨⟨fun c hc => ?_, Int.le_refl _⟩, n.convert a, hself, by omega⟩
    have hle := h.above c hc
    omega
  | behind hsome hne hle =>
    have hroom := room_of_not_overflows hvalid hplace hfits
    have hval := shift_correctionStep_val (h.sound.previousOutput_valid hsome) hroom
    obtain ⟨c, hc, hnear⟩ := h.near (by simp [hsome])
    rw [hstep] at hval hnear
    refine ⟨⟨fun d hd => ?_, by omega⟩, c, List.mem_append_left _ hc, ?_⟩
    · have habove := h.above d hd
      omega
    · rw [if_pos rfl, hval]
      omega

/-- A valid input and its output come rightly after the remembered ones. -/
theorem Tracks.follows {n : Normalizer} {taken : List Timestamp} (h : n.Tracks taken)
    {a : Arrival} (hvalid : (n.convert a).isValid = true) (hfits : ¬n.Overflows a)
    {previous : Timestamp} (hprevious : n.previousInput = some previous) :
    Follows (previous, n.previousOutput) (n.convert a, n.output (n.convert a)) := by
  have hplaced := n.placed (n.convert a)
  have hstep := correctionStep_val
  generalize hplace : n.placement (n.convert a) = place at hplaced
  generalize n.output (n.convert a) = out at hplaced ⊢
  cases hplaced with
  | first hnone => exact absurd (hnone.symm.trans hprevious) (by simp)
  | again hsome =>
    have hsame : n.convert a = previous := Option.some.inj (hsome.symm.trans hprevious)
    have habove := h.above _ (h.mem hsome)
    exact ⟨fun _ => rfl, fun hne => absurd hsame hne, fun hlt => absurd habove (Int.not_le.2 hlt)⟩
  | beyond hsome hne hlt =>
    have hother : n.convert a ≠ previous := fun heq =>
      hne (Option.some.inj (hsome.symm.trans (hprevious.trans (heq ▸ rfl))))
    exact ⟨fun heq => absurd heq hother, fun _ => hlt, fun _ => rfl⟩
  | behind hsome hne hle =>
    have hother : n.convert a ≠ previous := fun heq =>
      hne (Option.some.inj (hsome.symm.trans (hprevious.trans (heq ▸ rfl))))
    have hroom := room_of_not_overflows hvalid hplace hfits
    have hval := shift_correctionStep_val (h.sound.previousOutput_valid hsome) hroom
    refine ⟨fun heq => absurd heq hother, fun _ => ?_, fun hlt => absurd hle (Int.not_le.2 hlt)⟩
    dsimp only
    omega

/-- A step on a valid input tracks one more input. -/
theorem Tracks.step_of_valid {n : Normalizer} {taken : List Timestamp} (h : n.Tracks taken)
    {a : Arrival} (hvalid : (n.convert a).isValid = true) (hfits : ¬n.Overflows a) :
    (n.step a).next.Tracks (taken ++ [n.convert a]) := by
  obtain ⟨-, hinput, houtput, -⟩ := Normalizer.step_of_valid hvalid
  obtain ⟨habove, hnear⟩ := h.output_bounds hvalid hfits
  constructor
  · rw [hinput, List.getLast?_concat]
  · exact h.sound.step hfits
  · rwa [houtput]
  · intro _
    rwa [houtput]

/-- A unit without a valid timestamp leaves the tracked inputs as they are. -/
theorem Tracks.step_of_invalid {n : Normalizer} {taken : List Timestamp} (h : n.Tracks taken)
    {a : Arrival} (hvalid : (n.convert a).isValid = false) (hfits : ¬n.Overflows a) :
    (n.step a).next.Tracks taken := by
  obtain ⟨-, hinput, houtput, hcount⟩ := Normalizer.step_of_invalid hvalid
  constructor
  · rw [hinput, h.last]
  · exact h.sound.step hfits
  · rw [houtput]
    exact h.above
  · rw [hinput, houtput, hcount]
    exact h.near

/-- A run that fits tracks all its inputs behind those before it. -/
theorem Tracks.run {n : Normalizer} {taken : List Timestamp} (h : n.Tracks taken)
    {arrivals : List Arrival} (hfits : n.Fits arrivals) :
    (n.run arrivals).1.Tracks (taken ++ n.inputs arrivals) := by
  induction arrivals generalizing n taken with
  | nil => simpa [Normalizer.run, inputs] using h
  | cons a rest ih =>
    obtain ⟨hhead, hrest⟩ := hfits
    cases hvalid : (n.convert a).isValid with
    | false =>
      rw [inputs_cons_of_invalid hvalid]
      exact ih (h.step_of_invalid hvalid hhead) hrest
    | true =>
      rw [inputs_cons_of_valid hvalid, List.append_cons]
      exact ih (h.step_of_valid hvalid hhead) hrest

/-- There is one output for every input. -/
theorem length_outputs (n : Normalizer) (arrivals : List Arrival) :
    (outputs (n.run arrivals).2).length = (n.inputs arrivals).length := by
  induction arrivals generalizing n with
  | nil => rfl
  | cons a rest ih =>
    cases hvalid : (n.convert a).isValid with
    | false => rw [inputs_cons_of_invalid hvalid, outputs_cons_of_invalid hvalid, ih]
    | true =>
      rw [inputs_cons_of_valid hvalid, outputs_cons_of_valid hvalid, List.length_cons,
        List.length_cons, ih]

/-- The last output is remembered. -/
theorem previousOutput_run (n : Normalizer) (arrivals : List Arrival) :
    (n.run arrivals).1.previousOutput =
      (outputs (n.run arrivals).2).getLast?.getD n.previousOutput := by
  induction arrivals generalizing n with
  | nil => rfl
  | cons a rest ih =>
    have hrun : (n.run (a :: rest)).1 = ((n.step a).next.run rest).1 := rfl
    cases hvalid : (n.convert a).isValid with
    | false =>
      rw [hrun, ih, outputs_cons_of_invalid hvalid, (Normalizer.step_of_invalid hvalid).2.2.1]
    | true =>
      rw [hrun, ih, outputs_cons_of_valid hvalid, List.getLast?_cons, Option.getD_some,
        (Normalizer.step_of_valid hvalid).2.2.1]

/-- The inputs of a run that fits, each with its output, follow each other
rightly, the first of them behind the remembered one. -/
theorem Tracks.isChain {n : Normalizer} {taken : List Timestamp} (h : n.Tracks taken)
    {arrivals : List Arrival} (hfits : n.Fits arrivals) :
    ((n.previousInput.toList.map (·, n.previousOutput)) ++
      (n.inputs arrivals).zip (outputs (n.run arrivals).2)).IsChain Follows := by
  induction arrivals generalizing n taken with
  | nil =>
    cases n.previousInput with
    | none => exact .nil
    | some previous => exact .singleton _
  | cons a rest ih =>
    obtain ⟨hhead, hrest⟩ := hfits
    cases hvalid : (n.convert a).isValid with
    | false =>
      obtain ⟨-, hinput, houtput, -⟩ := Normalizer.step_of_invalid hvalid
      have hchain := ih (h.step_of_invalid hvalid hhead) hrest
      rw [hinput, houtput] at hchain
      rwa [inputs_cons_of_invalid hvalid, outputs_cons_of_invalid hvalid]
    | true =>
      obtain ⟨-, hinput, houtput, -⟩ := Normalizer.step_of_valid hvalid
      have hchain := ih (h.step_of_valid hvalid hhead) hrest
      rw [hinput, houtput] at hchain
      rw [inputs_cons_of_valid hvalid, outputs_cons_of_valid hvalid, List.zip_cons_cons]
      cases hprevious : n.previousInput with
      | none => exact hchain
      | some previous =>
        exact List.isChain_cons_cons.2 ⟨h.follows hvalid hhead hprevious, hchain⟩

/-- At the end of every run that fits, and so at every moment of it: outputs
follow their inputs one by one, and the last output lies between the greatest
input and that input moved by one step for each correction. -/
theorem outputs_track_inputs (mode : InputMode) (start : Timestamp) (arrivals : List Arrival)
    (hfits : (fresh mode start).Fits arrivals) :
    let ended := (fresh mode start).run arrivals
    let converted := (fresh mode start).inputs arrivals
    (outputs ended.2).length = converted.length ∧
      (converted.zip (outputs ended.2)).IsChain Follows ∧
      ∀ out, (outputs ended.2).getLast? = some out →
        ∃ peak, (converted.map (·.ns.val)).max? = some peak ∧ peak ≤ out.ns.val ∧
          out.ns.val ≤ peak + ended.1.corrected * correctionStep.val := by
  intro ended converted
  have htracks : ended.1.Tracks converted := (tracks_fresh mode start).run hfits
  refine ⟨length_outputs _ arrivals, (tracks_fresh mode start).isChain hfits, ?_⟩
  intro out hlast
  have hout : ended.1.previousOutput = out := by
    rw [previousOutput_run, hlast, Option.getD_some]
  have hsome : ended.1.previousInput ≠ none := by
    intro hnone
    have hempty : converted = [] := htracks.eq_nil hnone
    have hlength : (outputs ended.2).length = 0 :=
      (length_outputs _ arrivals).trans (List.length_eq_zero_iff.2 hempty)
    rw [List.length_eq_zero_iff.1 hlength] at hlast
    simp at hlast
  obtain ⟨c, hc, hnear⟩ := htracks.near hsome
  have habove := htracks.above
  rw [hout] at hnear habove
  obtain ⟨peak, hpeak⟩ : ∃ peak, (converted.map (·.ns.val)).max? = some peak := by
    rw [← Option.isSome_iff_exists, List.isSome_max?_iff, Ne, List.map_eq_nil_iff]
    exact List.ne_nil_of_mem hc
  obtain ⟨hmem, hmax⟩ := List.max?_eq_some_iff.1 hpeak
  obtain ⟨top, htop, rfl⟩ := List.mem_map.1 hmem
  have hle := hmax c.ns.val (List.mem_map_of_mem hc)
  exact ⟨_, hpeak, habove top htop, by omega⟩

/-- Raw timestamps of atomic time with a unit to drop, a repeated one and two
that fall behind. -/
def sawtooth : List Arrival :=
  [-5, 1000, 1000, 500, 400].map fun raw => ⟨Timestamp.invalid, Nanos.clamp raw⟩

/-- The last output of the sawtooth is ahead of the greatest input by exactly
two corrections. -/
theorem sawtooth_output_bounds :
    (fresh .tai Timestamp.invalid).Fits sawtooth ∧
      ∃ peak, (((fresh .tai Timestamp.invalid).inputs sawtooth).map (·.ns.val)).max? = some peak ∧
        peak ≤ 30001000 ∧
        30001000 ≤ peak +
          ((fresh .tai Timestamp.invalid).run sawtooth).1.corrected * correctionStep.val := by
  have hfits : (fresh .tai Timestamp.invalid).Fits sawtooth := by decide
  have htracks := outputs_track_inputs .tai Timestamp.invalid sawtooth hfits
  exact ⟨hfits, htracks.2.2 ⟨Nanos.clamp 30001000⟩ (by decide)⟩

end FlowWatch.Normalizer
