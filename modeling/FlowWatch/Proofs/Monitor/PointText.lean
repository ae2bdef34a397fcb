import FlowWatch.Monitor.Point
import FlowWatch.Proofs.Text.Trimming

/-!
# The texts of points

A text names a point if it is an element alone or an element and a pad with one colon
between them, and if none of these parts is blank. Reading finds the point that is
named and refuses every other text with the text itself. The text of a point that was
read names that point, so it is told apart from the texts of all others.
-/

namespace FlowWatch.Point

open FlowWatch.Text

/-- A text names a point. -/
inductive Names : String → Point → Prop
  /-- An element alone stands for its default pad. -/
  | alone {element : String} (hcolon : ':' ∉ element.toList) (helement : trim element ≠ "") :
      Names element ⟨trim element, defaultPad⟩
  /-- An element and a pad are joined by the only colon. -/
  | pair {element pad : String} (hcolon : ':' ∉ element.toList) (hcolon' : ':' ∉ pad.toList)
      (helement : trim element ≠ "") (hpad : trim pad ≠ "") :
      Names (element ++ ":" ++ pad) ⟨trim element, trim pad⟩

/-- The parts of a text, which are what its colons stand between. -/
def parts (s : String) : List String := (s.toList.splitOn ':').map String.ofList

/-! ### Colons -/

section Colons

variable {element : String} (pad : String)

/-- The characters of two parts with a colon between them. -/
theorem toList_joined (element pad : String) :
    (element ++ ":" ++ pad).toList = element.toList ++ ':' :: pad.toList := by
  rw [String.toList_append, String.toList_append, List.append_assoc]
  rfl

/-- A text is one part, or its first part ends at a colon. -/
theorem alone_or_joined (s : String) :
    ':' ∉ s.toList ∨ ∃ element pad, s = element ++ ":" ++ pad ∧ ':' ∉ element.toList := by
  by_cases hcolon : ':' ∈ s.toList
  · obtain ⟨before, after, hs, hbefore⟩ := List.eq_append_cons_of_mem hcolon
    refine .inr ⟨String.ofList before, String.ofList after, ?_, by rwa [String.toList_ofList]⟩
    apply String.toList_inj.1
    rw [toList_joined, String.toList_ofList, String.toList_ofList, hs]
  · exact .inl hcolon

/-- A text without a colon is its only part. -/
theorem parts_alone (hcolon : ':' ∉ element.toList) : parts element = [element] := by
  rw [parts, List.splitOn_eq_singleton hcolon, List.map_singleton, String.ofList_toList]

/-- The first part ends at the first colon. -/
theorem parts_joined (hcolon : ':' ∉ element.toList) :
    parts (element ++ ":" ++ pad) = element :: parts pad := by
  rw [parts, toList_joined, List.splitOn_append_cons_self_of_not_mem hcolon, List.map_cons,
    String.ofList_toList, parts]

/-- The colon between two parts is counted. -/
theorem count_joined (hcolon : ':' ∉ element.toList) :
    (element ++ ":" ++ pad).toList.count ':' = pad.toList.count ':' + 1 := by
  rw [toList_joined, List.count_append, List.count_eq_zero.2 hcolon, Nat.zero_add,
    List.count_cons_self]

/-- A text without a colon is not split. -/
theorem splitColon_alone {cs : List Char} (hcolon : ':' ∉ cs) : splitColon cs = (cs, none) := by
  have hdrop : cs.dropWhile (· != ':') = [] :=
    List.dropWhile_eq_nil_iff.2 fun c hc => bne_iff_ne.2 (ne_of_mem_of_not_mem hc hcolon)
  rw [splitColon, hdrop]

/-- A text is split at its first colon. -/
theorem splitColon_joined {before : List Char} (hcolon : ':' ∉ before) (after : List Char) :
    splitColon (before ++ ':' :: after) = (before, some after) := by
  have hbefore : ∀ c ∈ before, (c != ':') = true :=
    fun c hc => bne_iff_ne.2 (ne_of_mem_of_not_mem hc hcolon)
  rw [splitColon, List.dropWhile_append_of_pos hbefore, List.takeWhile_append_of_pos hbefore]
  simp

end Colons

/-! ### Reading -/

section Reading

variable {element pad s : String} {p : Point}

/-- A trimmed text is empty as a string if it is empty as a list. -/
theorem isEmpty_trimBlanks (s : String) :
    (trimBlanks s.toList).isEmpty = decide (trim s = "") := by
  simp only [trim, String.ofList_eq_empty_iff]
  cases trimBlanks s.toList <;> rfl

/-- Reading an element alone. -/
theorem ofText?_alone (hcolon : ':' ∉ element.toList) :
    ofText? element = if trim element = "" then none else some ⟨trim element, defaultPad⟩ := by
  have hpad : defaultPad.toList.isEmpty = false ∧ defaultPad.toList.contains ':' = false := by
    decide
  rw [ofText?, splitColon_alone hcolon]
  simp only [isEmpty_trimBlanks, hpad, Bool.or_false, decide_eq_true_eq]
  rfl

/-- Reading an element and what follows its colon. -/
theorem ofText?_joined (hcolon : ':' ∉ element.toList) :
    ofText? (element ++ ":" ++ pad) =
      if trim element = "" ∨ trim pad = "" ∨ ':' ∈ pad.toList then none
      else some ⟨trim element, trim pad⟩ := by
  have hkept : (trimBlanks pad.toList).contains ':' = decide (':' ∈ pad.toList) := by
    rw [List.contains_eq_mem]
    exact decide_eq_decide.2 (mem_trimBlanks_iff (by decide))
  rw [ofText?, toList_joined, splitColon_joined hcolon]
  simp only [isEmpty_trimBlanks, hkept, Bool.or_eq_true, decide_eq_true_eq, or_assoc]
  rfl

/-- Reading finds what is named and nothing else. -/
theorem ofText?_eq_some_iff : ofText? s = some p ↔ Names s p := by
  constructor
  · intro h
    obtain hcolon | ⟨element, pad, rfl, hcolon⟩ := alone_or_joined s
    · rw [ofText?_alone hcolon] at h
      split at h
      · cases h
      · cases h
        exact .alone hcolon ‹_›
    · rw [ofText?_joined hcolon] at h
      split at h
      · cases h
      · rename_i hnone
        simp only [not_or] at hnone
        obtain ⟨helement, hpad, hcolon'⟩ := hnone
        cases h
        exact .pair hcolon hcolon' helement hpad
  · intro h
    cases h with
    | alone hcolon helement => rw [ofText?_alone hcolon, if_neg helement]
    | pair hcolon hcolon' helement hpad =>
      rw [ofText?_joined hcolon, if_neg]
      simp only [not_or]
      exact ⟨helement, hpad, hcolon'⟩

/-- Reading gives the point that is named. -/
theorem ofText_eq_ok_iff : ofText s = .ok p ↔ Names s p := by
  rw [← ofText?_eq_some_iff, ofText]
  cases ofText? s <;> simp

/-- A text that names no point is given back. -/
theorem ofText_eq_error {failure : Failure} (h : ofText s = .error failure) :
    failure = .invalidPoint s := by
  unfold ofText at h
  split at h
  · cases h
  · cases h
    rfl

end Reading

/-! ### Naming -/

section Naming

variable {s : String} {p : Point}

/-- Some point is named exactly if there is at most one colon and no blank part. -/
theorem exists_names_iff (s : String) :
    (∃ p, Names s p) ↔ s.toList.count ':' ≤ 1 ∧ ∀ part ∈ parts s, trim part ≠ "" := by
  constructor
  · rintro ⟨p, h⟩
    cases h with
    | alone hcolon helement =>
      rw [parts_alone hcolon, List.count_eq_zero.2 hcolon]
      exact ⟨Nat.zero_le 1, List.forall_mem_singleton.2 helement⟩
    | pair hcolon hcolon' helement hpad =>
      rw [parts_joined _ hcolon, parts_alone hcolon', count_joined _ hcolon,
        List.count_eq_zero.2 hcolon']
      exact ⟨Nat.le_refl 1, List.forall_mem_cons.2 ⟨helement, List.forall_mem_singleton.2 hpad⟩⟩
  · rintro ⟨hcount, hparts⟩
    obtain hcolon | ⟨element, pad, rfl, hcolon⟩ := alone_or_joined s
    · rw [parts_alone hcolon] at hparts
      exact ⟨_, .alone hcolon (hparts s List.mem_cons_self)⟩
    · rw [count_joined _ hcolon] at hcount
      have hcolon' : ':' ∉ pad.toList := List.count_eq_zero.1 (by omega)
      rw [parts_joined _ hcolon, parts_alone hcolon'] at hparts
      obtain ⟨helement, hpad⟩ := List.forall_mem_cons.1 hparts
      exact ⟨_, .pair hcolon hcolon' helement (hpad pad List.mem_cons_self)⟩

/-- A named point consists of the trimmed parts, and of the default pad if there is but
one. -/
theorem Names.parts_eq (h : Names s p) :
    (parts s).map trim = (if ':' ∈ s.toList then [p.element, p.pad] else [p.element]) ∧
      (':' ∉ s.toList → p.pad = defaultPad) := by
  cases h with
  | alone hcolon helement =>
    rw [parts_alone hcolon, if_neg hcolon]
    exact ⟨rfl, fun _ => rfl⟩
  | @pair element pad hcolon hcolon' helement hpad =>
    have hmem : ':' ∈ (element ++ ":" ++ pad).toList := by
      rw [toList_joined]
      exact List.mem_append_right _ List.mem_cons_self
    rw [parts_joined _ hcolon, parts_alone hcolon', if_pos hmem]
    exact ⟨rfl, fun hnone => absurd hmem hnone⟩

/-- The text of a named point names it. Trimmed parts are parts of the text, and
trimming leaves them as they are. -/
theorem Names.of_text (h : Names s p) : Names p.text p := by
  have hkept : ∀ {part : String}, ':' ∉ part.toList → ':' ∉ (trim part).toList :=
    fun hcolon hmem => hcolon ((mem_trim_iff (by decide)).1 hmem)
  have hagain : ∀ {element : String} (pad : String), ':' ∉ element.toList →
      trim element ≠ "" → ':' ∉ pad.toList → trim pad = pad → pad ≠ "" →
      Names (trim element ++ ":" ++ pad) ⟨trim element, pad⟩ := by
    intro element pad hcolon helement hcolon' htrim hpad
    have hnames := Names.pair (hkept hcolon) hcolon' (by rwa [trim_trim]) (by rwa [htrim])
    rwa [trim_trim, htrim] at hnames
  cases h with
  | alone hcolon helement =>
    have hdefault : trim defaultPad = defaultPad := by decide
    exact hagain defaultPad hcolon helement (by decide) hdefault (by decide)
  | pair hcolon hcolon' helement hpad =>
    exact hagain _ hcolon helement (hkept hcolon') (trim_trim _) hpad

end Naming

/-- Reading a text succeeds exactly if the text has at most one colon and none of its
parts is empty after trimming. The point consists of the trimmed parts, and of the
default pad if there is no colon. Its text is read as the same point, and no other
point that is read from anywhere has that text. A text that is refused is named by the
failure. -/
theorem ofText_reads (s : String) :
    ((∃ p, ofText s = .ok p) ↔
        s.toList.count ':' ≤ 1 ∧ ∀ part ∈ parts s, trim part ≠ "") ∧
      (∀ p, ofText s = .ok p →
        (parts s).map trim = (if ':' ∈ s.toList then [p.element, p.pad] else [p.element]) ∧
        (':' ∉ s.toList → p.pad = "sink") ∧
        ofText p.text = .ok p ∧
        ∀ t q, ofText t = .ok q → q.text = p.text → q = p) ∧
      ∀ failure, ofText s = .error failure → failure = .invalidPoint s := by
  refine ⟨?_, fun p hp => ?_, fun failure => ofText_eq_error⟩
  · simp only [ofText_eq_ok_iff]
    exact exists_names_iff s
  · have hnames : Names s p := ofText_eq_ok_iff.1 hp
    have hback : ofText p.text = .ok p := ofText_eq_ok_iff.2 hnames.of_text
    obtain ⟨hparts, hpad⟩ := hnames.parts_eq
    refine ⟨hparts, hpad, hback, fun t q hq htext => ?_⟩
    have hback' : ofText q.text = .ok q := ofText_eq_ok_iff.2 (ofText_eq_ok_iff.1 hq).of_text
    rw [htext, hback] at hback'
    exact (Except.ok.inj hback').symm

end FlowWatch.Point
