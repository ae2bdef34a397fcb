import FlowWatch.Text.Blank
import Mathlib.Data.List.DropRight

/-!
# What trimming leaves

Trimming takes blanks away and no other character, so whatever is not blank is still
there. What is left has no blank at either end, and trimming it again changes
nothing.
-/

namespace FlowWatch.Text

/-- What is taken away at the start is blank. -/
theorem exists_trimStart (cs : List Char) :
    ∃ front, cs = front ++ trimStart cs ∧ ∀ c ∈ front, isBlank c = true :=
  ⟨cs.takeWhile isBlank, List.takeWhile_append_dropWhile.symm,
    fun _ hc => List.mem_takeWhile_imp hc⟩

/-- What is taken away at the end is blank. -/
theorem exists_trimEnd (cs : List Char) :
    ∃ back, cs = trimEnd cs ++ back ∧ ∀ c ∈ back, isBlank c = true :=
  ⟨cs.rtakeWhile isBlank, List.rdropWhile_append_rtakeWhile.symm,
    fun _ hc => List.mem_rtakeWhile_imp hc⟩

/-- A character that is not blank is not taken away, and none comes in. -/
theorem mem_trimBlanks_iff {c : Char} {cs : List Char} (h : isBlank c = false) :
    c ∈ trimBlanks cs ↔ c ∈ cs := by
  obtain ⟨front, hcs, hfront⟩ := exists_trimStart cs
  obtain ⟨back, hstart, hback⟩ := exists_trimEnd (trimStart cs)
  have hkept : ∀ blanks : List Char, (∀ c ∈ blanks, isBlank c = true) → c ∉ blanks := by
    intro blanks hblanks hc
    rw [hblanks c hc] at h
    cases h
  have hmem : c ∈ cs ↔ c ∈ trimStart cs := by
    conv_lhs => rw [hcs]
    rw [List.mem_append, or_iff_right (hkept front hfront)]
  have hmem' : c ∈ trimStart cs ↔ c ∈ trimBlanks cs := by
    conv_lhs => rw [hstart]
    rw [List.mem_append, or_iff_left (hkept back hback)]
    rfl
  exact (hmem.trans hmem').symm

/-- A trimmed text does not start with a blank. -/
theorem trimStart_trimBlanks (cs : List Char) : trimStart (trimBlanks cs) = trimBlanks cs := by
  obtain ⟨back, hstart, -⟩ := exists_trimEnd (trimStart cs)
  cases hleft : trimBlanks cs with
  | nil => rfl
  | cons c rest =>
    have hfirst : trimStart cs = c :: (rest ++ back) := by
      rw [hstart, ← trimBlanks, hleft]
      rfl
    have hblank := isBlank_of_trimStart_cons hfirst
    rw [trimStart, List.dropWhile_cons, hblank]
    rfl

/-- Trimming again changes nothing. -/
theorem trimBlanks_trimBlanks (cs : List Char) :
    trimBlanks (trimBlanks cs) = trimBlanks cs := by
  rw [trimBlanks, trimStart_trimBlanks]
  exact List.rdropWhile_idempotent isBlank (trimStart cs)

/-- Trimming a string again changes nothing. -/
theorem trim_trim (s : String) : trim (trim s) = trim s := by
  rw [trim, trim, String.toList_ofList, trimBlanks_trimBlanks]

/-- A character that is not blank is not taken away from a string. -/
theorem mem_trim_iff {c : Char} {s : String} (h : isBlank c = false) :
    c ∈ (trim s).toList ↔ c ∈ s.toList := by
  rw [trim, String.toList_ofList, mem_trimBlanks_iff h]

end FlowWatch.Text
