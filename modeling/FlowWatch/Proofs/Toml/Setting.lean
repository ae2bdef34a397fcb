import FlowWatch.Proofs.Toml.Scalar

/-!
# Settings read back

A list of texts is an array, on one line if it has one member at most, and else
with a line for each. Between members only blanks and line ends are skipped, and
a value that does not begin ends the members without a fault.
-/

namespace FlowWatch.Toml

open FlowWatch.Text

/-- A character that is skipped nowhere. -/
def Solid (c : Char) : Prop := isSpace c = false ∧ c ≠ '\n' ∧ c ≠ '\r' ∧ c ≠ '#'

/-- Blanks are skipped up to a character that is none. -/
theorem skipSpace_cons {c : Char} (h : isSpace c = false) (rest : List Char) :
    skipSpace (c :: rest) = c :: rest := List.dropWhile_cons_of_neg (by simp [h])

/-- Nothing is skipped in front of a solid character. -/
theorem skipLines_solid {c : Char} (h : Solid c) (bound : Nat) (rest : List Char) :
    skipLines bound (c :: rest) = .ok (c :: rest) := by
  obtain ⟨hspace, hfeed, hreturn, hcomment⟩ := h
  cases bound with
  | zero => rfl
  | succ bound =>
    unfold skipLines
    rw [skipSpace_cons hspace]
    split
    · next heq => exact absurd (List.cons.inj heq).1 hfeed
    · next heq => exact absurd (List.cons.inj heq).1 hreturn
    · next heq => exact absurd (List.cons.inj heq).1 hreturn
    · next heq => exact absurd (List.cons.inj heq).1 hcomment
    · rfl

/-- Nothing is skipped in front of a solid character. -/
theorem skipBetween_solid {c : Char} (h : Solid c) (rest : List Char) :
    skipBetween (c :: rest) = .ok (c :: rest) := skipLines_solid h _ rest

/-- A line end and the blanks behind it are skipped. -/
theorem skipBetween_line {c : Char} (h : Solid c) {blanks : List Char}
    (hblanks : ∀ b ∈ blanks, isSpace b = true) (rest : List Char) :
    skipBetween ('\n' :: (blanks ++ c :: rest)) = .ok (c :: rest) := by
  have hspace : skipSpace (blanks ++ c :: rest) = c :: rest := by
    rw [skipSpace, List.dropWhile_append_of_pos hblanks]
    exact skipSpace_cons h.1 rest
  have hlines : ∀ bound, skipLines (bound + 1) (blanks ++ c :: rest) = .ok (c :: rest) := by
    intro bound
    have hsolid := skipLines_solid h (bound + 1) rest
    unfold skipLines at hsolid ⊢
    rw [skipSpace_cons h.1] at hsolid
    rw [hspace]
    exact hsolid
  have hlength : (blanks ++ c :: rest).length = blanks.length + rest.length + 1 := by
    rw [List.length_append, List.length_cons]
    omega
  rw [skipBetween, List.length_cons, hlength]
  exact hlines _

/-- A single value stands wherever a value may stand. -/
theorem readValue_scalar (depth : Nat) {c : Char} (hbracket : c ≠ '[') (hbrace : c ≠ '\x7b')
    (rest : List Char) : readValue depth (c :: rest) = readScalar (c :: rest) := by
  unfold readValue
  split
  · next heq => exact absurd (List.cons.inj heq).1 hbracket
  · next heq => exact absurd (List.cons.inj heq).1 hbrace
  · next heq => exact absurd (List.cons.inj heq).1 hbracket
  · next heq => exact absurd (List.cons.inj heq).1 hbrace
  · rfl

/-- A delimiter is solid. -/
theorem solid_of_delimiter {c : Char} (h : c = '"' ∨ c = '\x27') : Solid c := by
  rcases h with rfl | rfl <;> exact ⟨by decide, by decide, by decide, by decide⟩

/-- A text is read wherever a value may stand. -/
theorem readValue_text (depth : Nat) (s : String) {rest : List Char} (hrest : NoDelimiter rest) :
    readValue depth (writeText s.toList ++ rest) = .ok (.text s, rest) := by
  have hread := readScalar_text s hrest
  obtain ⟨c, tail, htail, hc⟩ := writeText_eq_cons s.toList
  rw [htail, List.cons_append] at hread ⊢
  rw [readValue_scalar depth _ _, hread]
  · rcases hc with rfl | rfl <;> decide
  · rcases hc with rfl | rfl <;> decide

/-! ### Lists of texts -/

/-- A text is read as a member, with what may be skipped around it. -/
theorem readMember_text (depth : Nat) (s : String) {cs rest : List Char} {c : Char} (hc : Solid c)
    (hrest : NoDelimiter (c :: rest))
    (hskip : skipBetween cs = .ok (writeText s.toList ++ c :: rest)) :
    readMember (readValue depth) cs = .ok (.text s, c :: rest) := by
  unfold readMember
  rw [hskip, ok_bind, readValue_text depth s hrest, ok_bind]
  simp only
  rw [skipBetween_solid hc, ok_bind]
  rfl

/-- The closing bracket begins no member. -/
theorem attempt_bracket (depth : Nat) {cs rest : List Char}
    (hskip : skipBetween cs = .ok (']' :: rest)) :
    attempt (readMember (readValue depth) cs) = .ok none := by
  unfold readMember
  rw [hskip, ok_bind, readValue_scalar depth (by decide) (by decide)]
  rfl

/-- The bracket that closes an array is solid. -/
theorem solid_bracket : Solid ']' := ⟨by decide, by decide, by decide, by decide⟩

/-- The comma behind a member is solid. -/
theorem solid_comma : Solid ',' := ⟨by decide, by decide, by decide, by decide⟩

/-- A line of an array with several members. -/
def memberLine (item : String) : List Char := "    ".toList ++ writeText item.toList ++ [',', '\n']

/-- The line of a member is skipped up to its text. -/
theorem skipBetween_memberLine (item : String) (rest : List Char) :
    skipBetween ('\n' :: (memberLine item ++ rest)) =
      .ok (writeText item.toList ++ ',' :: '\n' :: rest) := by
  have hblanks : ∀ b ∈ "    ".toList, isSpace b = true := by
    intro b hb
    rw [show "    ".toList = List.replicate 4 ' ' from rfl] at hb
    rw [List.eq_of_mem_replicate hb]
    rfl
  obtain ⟨c, tail, htail, hc⟩ := writeText_eq_cons item.toList
  have hskip := skipBetween_line (solid_of_delimiter hc) hblanks (tail ++ ',' :: '\n' :: rest)
  rw [memberLine, htail]
  simp only [List.append_assoc, List.cons_append, List.nil_append] at hskip ⊢
  exact hskip

/-- The lines of members are read one after the other. -/
theorem readMembers_lines (depth : Nat) (items : List String) {bound : Nat}
    (hbound : items.length < bound) (rest : List Char) :
    readMembers (readValue depth) bound ('\n' :: (items.flatMap memberLine ++ ']' :: rest)) =
      .ok (items.map .text, '\n' :: ']' :: rest) := by
  induction items generalizing bound with
  | nil =>
    obtain ⟨bound, rfl⟩ := Nat.exists_eq_add_of_lt hbound
    have hskip : skipBetween ('\n' :: ']' :: rest) = .ok (']' :: rest) :=
      skipBetween_line solid_bracket (List.forall_mem_nil _) rest
    rw [List.flatMap_nil, List.nil_append, readMembers, attempt_bracket depth hskip]
    rfl
  | cons item items ih =>
    obtain ⟨more, rfl⟩ := Nat.exists_eq_add_of_lt hbound
    have hrest : NoDelimiter (',' :: '\n' :: (items.flatMap memberLine ++ ']' :: rest)) :=
      ⟨by simp, by simp⟩
    have hmember := readMember_text depth item solid_comma hrest (skipBetween_memberLine item _)
    have hmore := ih (show items.length < (item :: items).length + more by simp; omega)
    rw [List.flatMap_cons, List.append_assoc, readMembers, hmember, attempt_ok, ok_bind]
    simp only [hmore, ok_bind]
    rfl

/-- There are no more lines of members than characters in them. -/
theorem length_le_memberLines (items : List String) :
    items.length ≤ (items.flatMap memberLine).length := by
  induction items with
  | nil => exact Nat.le_refl _
  | cons item items ih =>
    have hline : 0 < (memberLine item).length := by simp [memberLine]
    rw [List.flatMap_cons, List.length_append, List.length_cons]
    omega

/-- An array of several texts is written with a line for each. -/
theorem writeTexts_lines {items : List String} (h : 2 ≤ items.length) :
    writeTexts items = '[' :: '\n' :: (items.flatMap memberLine ++ [']']) := by
  match items with
  | [] => simp at h
  | [_] => simp at h
  | _ :: _ :: _ => rfl

/-- Members that the closing bracket follows are an array. -/
theorem readArray_of_members {depth : Nat} {cs rest left : List Char} {values : List Value}
    (hmembers : readMembers (readValue depth) (cs.length + 1) cs = .ok (values, left))
    (hskip : skipBetween left = .ok (']' :: rest)) :
    readArray (readValue depth) cs = .ok (.array values, rest) := by
  unfold readArray
  rw [hmembers, ok_bind]
  simp only
  rw [hskip, final_ok, ok_bind]
  rfl

/-- A list of texts is read back. -/
theorem readValue_texts (depth : Nat) (items : List String) (rest : List Char) :
    readValue (depth + 1) (writeTexts items ++ rest) = .ok (.array (items.map .text), rest) := by
  match items with
  | [] =>
    have hskip := skipBetween_solid solid_bracket rest
    have hmembers : readMembers (readValue depth) ((']' :: rest).length + 1) (']' :: rest) =
        .ok ([], ']' :: rest) := by
      rw [readMembers, attempt_bracket depth hskip]
      rfl
    exact readArray_of_members hmembers hskip
  | [item] =>
    have hrest : NoDelimiter (']' :: rest) := ⟨by simp, by simp⟩
    obtain ⟨c, tail, htail, hc⟩ := writeText_eq_cons item.toList
    have hskip : skipBetween (writeText item.toList ++ ']' :: rest) =
        .ok (writeText item.toList ++ ']' :: rest) := by
      rw [htail]
      exact skipBetween_solid (solid_of_delimiter hc) _
    have hmember := readMember_text depth item solid_bracket hrest hskip
    have hmembers : readMembers (readValue depth)
        ((writeText item.toList ++ ']' :: rest).length + 1) (writeText item.toList ++ ']' :: rest) =
          .ok ([.text item], ']' :: rest) := by
      rw [readMembers, hmember, attempt_ok, ok_bind]
      rfl
    have hread := readArray_of_members hmembers (skipBetween_solid solid_bracket rest)
    rw [writeTexts, List.cons_append, List.cons_append, List.append_assoc]
    exact hread
  | first :: second :: items =>
    have hlength := length_le_memberLines (first :: second :: items)
    have hbound : (first :: second :: items).length <
        ('\n' :: ((first :: second :: items).flatMap memberLine ++ ']' :: rest)).length + 1 := by
      simp only [List.length_cons, List.length_append] at hlength ⊢
      omega
    have hmembers := readMembers_lines depth (first :: second :: items) hbound rest
    have hread := readArray_of_members hmembers
      (skipBetween_line solid_bracket (List.forall_mem_nil _) rest)
    rw [writeTexts_lines (by simp), List.cons_append, List.cons_append, List.append_assoc]
    exact hread

/-! ### Settings -/

/-- Whether a setting can be read: a count must fit in 64 signed bits. -/
def Setting.Fits : Setting → Prop
  | .count n => n < 9223372036854775808
  | _ => True

/-- An array starts with a bracket. -/
theorem writeTexts_eq_cons (items : List String) : ∃ tail, writeTexts items = '[' :: tail := by
  match items with
  | [] => exact ⟨_, rfl⟩
  | [_] => exact ⟨_, rfl⟩
  | _ :: _ :: _ => exact ⟨_, rfl⟩

/-- A written setting starts with a character that is no blank. -/
theorem Setting.write_eq_cons (s : Setting) :
    ∃ c tail, s.write = c :: tail ∧ isSpace c = false := by
  cases s with
  | truth b => cases b <;> exact ⟨_, _, rfl, by decide⟩
  | count n =>
    obtain ⟨c, cs, hcs, hc⟩ := numeral_eq_cons n
    refine ⟨c, cs, hcs, ?_⟩
    rw [isSpace, Bool.or_eq_false_iff, beq_eq_false_iff_ne, beq_eq_false_iff_ne]
    exact ⟨ne_of_isDigit hc (by decide), ne_of_isDigit hc (by decide)⟩
  | text s =>
    obtain ⟨c, tail, htail, hc⟩ := writeText_eq_cons s.toList
    exact ⟨c, tail, htail, (solid_of_delimiter hc).1⟩
  | texts items =>
    obtain ⟨tail, htail⟩ := writeTexts_eq_cons items
    exact ⟨'[', tail, htail, by decide⟩

/-- A setting is read back in front of a line end. -/
theorem readValue_write (depth : Nat) {s : Setting} (hs : s.Fits) (rest : List Char) :
    readValue (depth + 1) (s.write ++ '\n' :: rest) = .ok (s.value, '\n' :: rest) := by
  cases s with
  | truth b =>
    have hread := readScalar_truth b ('\n' :: rest)
    cases b with
    | false => exact hread
    | true => exact hread
  | count n =>
    have hread := readScalar_numeral hs rest
    obtain ⟨c, cs, hcs, hc⟩ := numeral_eq_cons n
    rw [Setting.write, Setting.value]
    rw [hcs, List.cons_append] at hread ⊢
    rw [readValue_scalar _ (ne_of_isDigit hc (by decide)) (ne_of_isDigit hc (by decide)), hread]
  | text s => exact readValue_text (depth + 1) s ⟨by simp, by simp⟩
  | texts items => exact readValue_texts depth items ('\n' :: rest)

end FlowWatch.Toml
