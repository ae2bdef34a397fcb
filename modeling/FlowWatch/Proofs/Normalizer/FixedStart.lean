import FlowWatch.Proofs.Normalizer.Outcomes
import Mathlib.Data.List.Forall2

/-!
# A fixed start as atomic time

The mode with a fixed start shifts every raw timestamp by the offset that puts the first
one at the start. Where this offset fits, the shift is exact, so the run is that of a
normalizer of atomic time on the shifted counts, unit by unit, including the drops and
the corrections. What is left to the raw timestamps themselves is which of the dropped
units fail: atomic time has no failures, but here a raw timestamp can be past the first
seconds of a stream while the shifted one has left the range of timestamps.
-/

namespace FlowWatch.Normalizer

/-- The raw timestamp of atomic time for an exact count: the count itself if it fits, and
otherwise zero, which is no time. -/
def tally (count : Int) : Nanos := (Nanos.ofInt? count).getD Nanos.zero

/-- A tallied count is converted like the exact one. -/
theorem ofRaw_tally (count : Int) :
    Timestamp.ofRaw (tally count) .tai = Timestamp.collapse count := by
  have htoTai : (tally count).val + Timescale.tai.toTai = (tally count).val := Int.add_zero _
  rw [Timestamp.ofRaw, htoTai]
  unfold tally
  cases hfits : Nanos.ofInt? count with
  | some ns => rw [Option.getD_some, Nanos.val_of_ofInt? hfits]
  | none =>
    simp only [Timestamp.collapse, hfits]
    rfl

/-- A difference that fits is not stopped at the bounds. -/
theorem subClamped_of_fits {a b difference : Nanos}
    (h : Nanos.ofInt? (a.val - b.val) = some difference) : a.subClamped b = difference := by
  have hval := Nanos.val_of_ofInt? h
  have hatLeast := difference.atLeast
  have hbelow := difference.below
  apply Nanos.ext
  rw [hval]
  exact Nanos.clamp_val (by omega) (by omega)

/-- In a shifting mode the exact sum with the offset is what counts. -/
theorem convert_of_shifting {n : Normalizer} (h : n.mode.scale? = none) (a : Arrival) :
    n.convert a = Timestamp.collapse (a.raw.val + (n.offsetFor a).val) := by
  simp only [convert, h]
  rfl

/-- Two runs, of as many units, with the same outputs at the same units. -/
structure Mirrors (m n : Normalizer) (arrivals others : List Arrival) : Prop where
  /-- Each unit has the same output in both, or in none. -/
  outputs_eq : (m.run arrivals).2.map Outcome.output? = (n.run others).2.map Outcome.output?
  /-- The same is remembered at the end. -/
  memory : SameMemory (m.run arrivals).1 (n.run others).1
  /-- As many units are dropped. -/
  balance : (m.run arrivals).1.dropped + n.dropped = (n.run others).1.dropped + m.dropped

section Mirrors

variable {m n : Normalizer} {a b : Arrival} {arrivals others : List Arrival}

/-- Both runs start with units that they convert alike. -/
theorem Mirrors.cons (hmemory : SameMemory m n) (hsame : m.convert a = n.convert b)
    (h : Mirrors (m.step a).next (n.step b).next arrivals others) :
    Mirrors m n (a :: arrivals) (b :: others) := by
  refine ⟨?_, h.memory, ?_⟩
  · simp only [run, List.map_cons, (hmemory.step hsame).1, h.outputs_eq]
  · have hbalance := h.balance
    rw [step_dropped, step_dropped, hsame] at hbalance
    simp only [run]
    omega

/-- Once the conversions are settled, a run mirrors another one on units that are
converted alike. -/
theorem mirrors_of_settled {f : Arrival → Arrival} (hm : m.Settled) (hn : n.Settled)
    (hsame : ∀ a, m.convert a = n.convert (f a)) (hmemory : SameMemory m n)
    (arrivals : List Arrival) : Mirrors m n arrivals (arrivals.map f) := by
  induction arrivals generalizing m n with
  | nil => exact ⟨rfl, hmemory, Nat.add_comm _ _⟩
  | cons a rest ih =>
    exact .cons hmemory (hsame a) <| ih (settled_step m a) (settled_step n (f a))
      (fun b => (hm.convert_step a b).trans ((hsame b).trans (hn.convert_step (f a) (f b)).symm))
      (hmemory.step (hsame a)).2

/-- Once the conversions are settled, each unit of a run is judged by its own. -/
theorem Settled.run_judged (h : n.Settled) (arrivals : List Arrival) :
    List.Forall₂ (fun a outcome => Judged (n.convert a) a.raw outcome) arrivals
      (n.run arrivals).2 := by
  induction arrivals generalizing n with
  | nil => exact .nil
  | cons a rest ih =>
    have hrest := ih (settled_step n a)
    simp only [h.convert_step] at hrest
    exact .cons (judged n a) hrest

end Mirrors

section FixedStart

variable {start : Timestamp} {first : Arrival} {offset : Nanos}

/-- The first unit decides on the exact offset. -/
theorem offsetFor_first (h : Nanos.ofInt? (start.ns.val - first.raw.val) = some offset) :
    (fresh .startAtFixedTime start).offsetFor first = offset :=
  subClamped_of_fits h

/-- The first unit is put at the start. -/
theorem convert_first (h : Nanos.ofInt? (start.ns.val - first.raw.val) = some offset) :
    (fresh .startAtFixedTime start).convert first =
      Timestamp.collapse (start.ns.val + (first.raw.val - first.raw.val)) := by
  have hval := Nanos.val_of_ofInt? h
  rw [convert_of_shifting rfl, offsetFor_first h]
  congr 1
  omega

/-- A valid start is the output of the first unit. -/
theorem outcome_first (h : Nanos.ofInt? (start.ns.val - first.raw.val) = some offset)
    (hvalid : start.isValid = true) :
    ((fresh .startAtFixedTime start).step first).outcome = .delivered start := by
  have hstart : (fresh .startAtFixedTime start).convert first = start := by
    rw [convert_first h, Int.sub_self, Int.add_zero, Timestamp.collapse_of_valid hvalid]
  have hgoesOn : ((fresh .startAtFixedTime start).convert first).isValid = true := by
    rw [hstart, hvalid]
  rw [(step_of_valid hgoesOn).1, hstart]
  rfl

/-- Later units are as far behind the start as they are behind the first one. -/
theorem convert_later (h : Nanos.ofInt? (start.ns.val - first.raw.val) = some offset)
    (a : Arrival) :
    ((fresh .startAtFixedTime start).step first).next.convert a =
      Timestamp.collapse (start.ns.val + (a.raw.val - first.raw.val)) := by
  have hval := Nanos.val_of_ofInt? h
  have hshifting : ((fresh .startAtFixedTime start).step first).next.mode.scale? = none := by
    rw [step_mode]
    rfl
  have hoffset : ((fresh .startAtFixedTime start).step first).next.offset = some offset := by
    rw [step_offset_of_shifting rfl, offsetFor_first h]
  rw [convert_of_shifting hshifting, offsetFor, hoffset, Option.getD_some]
  congr 1
  omega

end FixedStart

/-- For every start and every stream whose first raw timestamp can be put there exactly:
the outputs are those of atomic time on the exact times of the units, unit by unit, with
as many units dropped and as many outputs corrected, whatever start that normalizer has.
The offset is the exact difference, from the first unit on. A valid start is the first
output. A unit goes on exactly if its time is from one nanosecond up to the greatest
count, and among the others exactly those fail whose own raw timestamps are past fifteen
seconds. -/
theorem fixed_start_mirrors_tai (start origin : Timestamp) (first : Arrival)
    (rest : List Arrival) (hfits : Nanos.ofInt? (start.ns.val - first.raw.val) ≠ none) :
    let time := fun a : Arrival => start.ns.val + (a.raw.val - first.raw.val)
    let fixed := (fresh .startAtFixedTime start).run (first :: rest)
    let tai := (fresh .tai origin).run ((first :: rest).map fun a => ⟨a.now, tally (time a)⟩)
    fixed.2.map Outcome.output? = tai.2.map Outcome.output? ∧
      fixed.1.dropped = tai.1.dropped ∧ fixed.1.corrected = tai.1.corrected ∧
      fixed.1.offset = Nanos.ofInt? (start.ns.val - first.raw.val) ∧
      (start.isValid = true → fixed.2.head? = some (.delivered start)) ∧
      List.Forall₂ (fun a outcome =>
        let convertible := 1 ≤ time a ∧ time a ≤ Nanos.greatest.val
        ((∃ t, outcome = .delivered t) ↔ convertible) ∧
          (outcome = .dropped ↔ ¬convertible ∧ a.raw.val ≤ 15 * 1000000000) ∧
          (outcome = .failed a.raw ↔ ¬convertible ∧ 15 * 1000000000 < a.raw.val))
        (first :: rest) fixed.2 := by
  intro time fixed tai
  obtain ⟨offset, hoffset⟩ := Option.ne_none_iff_exists'.1 hfits
  have hfirst : (fresh .startAtFixedTime start).convert first =
      Timestamp.collapse (time first) := convert_first hoffset
  have hsettled := settled_step (fresh .startAtFixedTime start) first
  have hmirrors : Mirrors (fresh .startAtFixedTime start) (fresh .tai origin) (first :: rest)
      ((first :: rest).map fun a => ⟨a.now, tally (time a)⟩) := by
    have hconvert : ∀ a, (fresh .tai origin).convert ⟨a.now, tally (time a)⟩ =
        Timestamp.collapse (time a) := fun a => ofRaw_tally (time a)
    have htai : (fresh .tai origin).Settled := settled_of_scale rfl
    have hmemory := sameMemory_fresh .startAtFixedTime .tai start origin
    have hsame := hfirst.trans (hconvert first).symm
    refine .cons hmemory hsame <| mirrors_of_settled hsettled (settled_step _ _) (fun a => ?_)
      (hmemory.step hsame).2 rest
    rw [convert_later hoffset, htai.convert_step, hconvert]
  have hjudged : List.Forall₂ (fun a outcome => Judged (Timestamp.collapse (time a)) a.raw outcome)
      (first :: rest) fixed.2 := by
    have hhead := judged (fresh .startAtFixedTime start) first
    have hrest := hsettled.run_judged rest
    rw [hfirst] at hhead
    simp only [convert_later hoffset] at hrest
    exact .cons hhead hrest
  refine ⟨hmirrors.outputs_eq, hmirrors.balance, hmirrors.memory.corrected, ?_, fun hvalid => ?_,
    hjudged.imp fun a outcome h => ?_⟩
  · calc fixed.1.offset = ((fresh .startAtFixedTime start).step first).next.offset :=
          hsettled.run_offset rest
      _ = some offset := by rw [step_offset_of_shifting rfl, offsetFor_first hoffset]
      _ = Nanos.ofInt? (start.ns.val - first.raw.val) := hoffset.symm
  · exact congrArg some (outcome_first hoffset hvalid)
  · have hgrace : grace.val = 15 * 1000000000 := rfl
    rw [h.delivered_iff, h.dropped_iff, h.failed_iff, Timestamp.isValid_collapse_iff, hgrace]
    refine ⟨Iff.rfl, Iff.rfl, ?_⟩
    exact ⟨fun hfailed => hfailed.2, fun hlate => ⟨rfl, hlate⟩⟩

/-- A stream that starts at a thousand nanoseconds: it goes on, falls behind, comes from
before the first timestamp and from beyond the last one, and goes on. -/
def unsteady : List Arrival :=
  [2000000000, 1500000000, -6000000000, 9223372036854775807, 3000000000].map
    fun raw => ⟨Timestamp.invalid, Nanos.clamp raw⟩

/-- Put at five seconds, it is handed on like atomic time, with one correction and two
drops, of which only that of the last raw timestamp is a failure. -/
theorem five_second_start_mirrors_tai :
    let start : Timestamp := ⟨Nanos.clamp 5000000000⟩
    let first : Arrival := ⟨Timestamp.invalid, Nanos.clamp 1000⟩
    let fixed := (fresh .startAtFixedTime start).run (first :: unsteady)
    let tai := (fresh .tai Timestamp.invalid).run ((first :: unsteady).map fun a =>
      ⟨a.now, tally (start.ns.val + (a.raw.val - first.raw.val))⟩)
    Nanos.ofInt? (start.ns.val - first.raw.val) ≠ none ∧ start.isValid = true ∧
      fixed.2.map Outcome.output? = tai.2.map Outcome.output? ∧
      fixed.1.dropped = tai.1.dropped ∧ fixed.1.corrected = tai.1.corrected ∧
      fixed.2.head? = some (.delivered start) := by
  intro start first fixed tai
  have hfits : Nanos.ofInt? (start.ns.val - first.raw.val) ≠ none := by decide
  have hvalid : start.isValid = true := by decide
  obtain ⟨houtputs, hdropped, hcorrected, -, hhead, -⟩ :=
    fixed_start_mirrors_tai start Timestamp.invalid first unsteady hfits
  refine ⟨hfits, hvalid, houtputs, ?_, ?_, hhead hvalid⟩
  · rw [hdropped]
  · rw [hcorrected]

end FlowWatch.Normalizer
