import FlowWatch.Proofs.Toml.Quotation
import FlowWatch.Toml.Reading

/-!
# Single values read back

Behind a written value the line ends, or the value is a member of an array and a
comma or the bracket follows. A text is told by its first character. A count is
told by its first digit, and the reader then looks for what else starts with
digits: a date or a time of day would need a mark behind two or four of them, a
number in another base a letter behind the first, and a number with a fraction
or an exponent a point or a letter behind the last.
-/

namespace FlowWatch.Toml

open FlowWatch.Text

/-- What has been read stays so where every fault is final. -/
@[simp]
theorem final_ok {α : Type} (a : α) : final (.ok a) = .ok a := rfl

/-- What can be read is read in an attempt. -/
@[simp]
theorem attempt_ok {α : Type} (a : α) : attempt (.ok a) = .ok (some a) := rfl

/-- What has been read is changed as it is. -/
@[simp]
theorem map_ok {ε α β : Type} (f : α → β) (a : α) :
    (Except.ok a : Except ε α).map f = .ok (f a) := rfl

/-! ### Counts -/

/-- The value of digits in base ten is the number they stand for. -/
theorem valueIn_ten {cs : List Char} (h : ∀ c ∈ cs, c.isDigit = true) :
    valueIn 10 cs = Nat.ofDigitChars 10 cs 0 := by
  have hfold : ∀ acc, cs.foldl (fun acc c => acc * 10 + (Quotation.hexValue? c).getD 0) acc =
      Nat.ofDigitChars 10 cs acc := by
    induction cs with
    | nil => exact fun _ => rfl
    | cons c cs ih =>
      intro acc
      have hc : Quotation.hexValue? c = some (digitValue c) :=
        if_pos (h c List.mem_cons_self)
      rw [List.foldl_cons, hc, ofDigitChars_cons]
      exact ih (fun d hd => h d (List.mem_cons_of_mem c hd)) _
  exact hfold 0

/-- Digits are read up to the end of the line. -/
theorem moreDigits_digits {cs : List Char} (h : ∀ c ∈ cs, c.isDigit = true) (cause : Cause)
    (rest : List Char) :
    moreDigits Char.isDigit cause (cs ++ '\n' :: rest) = .ok (cs, '\n' :: rest) := by
  induction cs with
  | nil => rfl
  | cons c cs ih =>
    have hc := h c List.mem_cons_self
    rw [List.cons_append]
    unfold moreDigits
    split
    · next heq => exact absurd (List.cons.inj heq).1 (ne_of_isDigit hc (by decide))
    · next heq =>
      obtain ⟨rfl, rfl⟩ := List.cons.inj heq
      rw [if_pos hc, ih (fun d hd => h d (List.mem_cons_of_mem c hd)), map_ok]
    · next heq => simp at heq

/-- The digits of a count are read up to the end of the line. -/
theorem readWhole_numeral (n : Nat) (rest : List Char) :
    readWhole (numeral n ++ '\n' :: rest) = .ok (numeral n, '\n' :: rest) := by
  cases n with
  | zero => rfl
  | succ n =>
    obtain ⟨c, cs, hcs, hc⟩ := numeral_eq_cons (n + 1)
    have hhead := head?_numeral (Nat.succ_pos n)
    have hmore : ∀ d ∈ cs, d.isDigit = true :=
      fun d hd => isDigit_of_mem_numeral (hcs ▸ List.mem_cons_of_mem c hd)
    rw [Nat.succ_eq_add_one, hcs] at hhead
    rw [hcs, List.cons_append]
    unfold readWhole
    split
    · next heq =>
      obtain ⟨rfl, -⟩ := List.cons.inj heq
      exact absurd rfl hhead
    · rw [readDigits, if_pos hc, moreDigits_digits hmore, map_ok]

/-- Behind some of the digits in front of a line end, no other mark follows. -/
theorem drop_line {ds : List Char} (h : ∀ c ∈ ds, c.isDigit = true) {count : Nat}
    (hle : count ≤ ds.length) (rest : List Char) :
    ∃ d tail, (ds ++ '\n' :: rest).drop count = d :: tail ∧
      ∀ mark : Char, mark.isDigit = false → mark ≠ '\n' → d ≠ mark := by
  rw [List.drop_append_of_le_length hle]
  cases hdrop : ds.drop count with
  | nil => exact ⟨'\n', rest, rfl, fun _ _ hfeed => hfeed.symm⟩
  | cons d tail =>
    have hd : d ∈ ds := List.mem_of_mem_drop (hdrop ▸ List.mem_cons_self)
    exact ⟨d, tail ++ '\n' :: rest, rfl, fun _ hmark _ => ne_of_isDigit (h d hd) hmark⟩

/-- Behind a number of so many digits in front of a line end, no other mark
follows. -/
theorem leadingNumber?_line {ds : List Char} (h : ∀ c ∈ ds, c.isDigit = true) (count : Nat)
    (rest : List Char) : leadingNumber? count (ds ++ '\n' :: rest) = none ∨
      ∃ d tail, (ds ++ '\n' :: rest).drop count = d :: tail ∧
        ∀ mark : Char, mark.isDigit = false → mark ≠ '\n' → d ≠ mark := by
  by_cases hle : count ≤ ds.length
  · exact .inr (drop_line h hle rest)
  · left
    have hfeed : '\n' ∈ (ds ++ '\n' :: rest).take count := by
      rw [List.take_append, List.take_of_length_le (by omega)]
      obtain ⟨more, hmore⟩ := Nat.exists_eq_add_of_lt (Nat.lt_of_not_le hle)
      rw [hmore, show ds.length + more + 1 - ds.length = more + 1 by omega, List.take_succ_cons]
      simp
    have hall : ((ds ++ '\n' :: rest).take count).all Char.isDigit = false := by
      rw [List.all_eq_false]
      exact ⟨'\n', hfeed, by decide⟩
    simp [leadingNumber?, hall]

/-- Digits in front of a line end are no hour. -/
theorem afterHour?_line {ds : List Char} (h : ∀ c ∈ ds, c.isDigit = true) (rest : List Char) :
    afterHour? (ds ++ '\n' :: rest) = none := by
  unfold afterHour?
  rcases leadingNumber?_line h 2 rest with hnone | ⟨d, tail, hdrop, hd⟩
  · rw [hnone]
  · rw [hdrop]
    split
    · next heq => exact absurd (List.cons.inj heq).1 (hd _ (by decide) (by decide))
    · rfl

/-- Digits in front of a line end start no date-time. -/
theorem readDateTime?_line {ds : List Char} (h : ∀ c ∈ ds, c.isDigit = true) (rest : List Char) :
    readDateTime? (ds ++ '\n' :: rest) = none := by
  unfold readDateTime?
  rw [afterHour?_line h]
  rcases leadingNumber?_line h 4 rest with hnone | ⟨d, tail, hdrop, hd⟩
  · rw [hnone]
    rfl
  · rw [hdrop]
    split
    · next heq => exact absurd (List.cons.inj heq).1 (hd _ (by decide) (by decide))
    · rfl

/-- A numeral has no sign. -/
theorem readSign_numeral (n : Nat) (rest : List Char) :
    readSign (numeral n ++ rest) = ([], numeral n ++ rest) := by
  obtain ⟨c, cs, hcs, hc⟩ := numeral_eq_cons n
  rw [hcs, List.cons_append]
  unfold readSign
  split
  · next heq => exact absurd (List.cons.inj heq).1 (ne_of_isDigit hc (by decide))
  · next heq => exact absurd (List.cons.inj heq).1 (ne_of_isDigit hc (by decide))
  · rfl

/-- A numeral is no word. -/
theorem readWord?_numeral (n : Nat) (rest : List Char) : readWord? (numeral n ++ rest) = none := by
  obtain ⟨c, cs, hcs, hc⟩ := numeral_eq_cons n
  unfold readWord?
  rw [readSign_numeral, hcs, List.cons_append]
  simp only
  split
  · next heq => exact absurd (List.cons.inj heq).1 (ne_of_isDigit hc (by decide))
  · next heq => exact absurd (List.cons.inj heq).1 (ne_of_isDigit hc (by decide))
  · rfl

/-- A count that fits in 64 signed bits is read in front of a line end. -/
theorem readPlain_numeral {n : Nat} (hn : n < 9223372036854775808) (rest : List Char) :
    readPlain (numeral n ++ '\n' :: rest) = .ok (.integer n, '\n' :: rest) := by
  have hvalue : valueIn 10 (numeral n) = n := by
    rw [valueIn_ten fun _ => isDigit_of_mem_numeral, ofDigitChars_numeral]
  have hinteger : integer? (n : Int) = .ok (.integer n) := by
    rw [integer?, if_neg (by omega), if_neg (by omega)]
  have hfraction : readFraction ('\n' :: rest) = .ok ([], '\n' :: rest) := rfl
  have hexponent : readExponent ('\n' :: rest) = .ok ([], '\n' :: rest) := rfl
  unfold readPlain
  simp only [readSign_numeral, readWhole_numeral, hfraction, hexponent, ok_bind, hvalue]
  simp [finish, hinteger]
  rfl

/-- No letter of a base stands behind the first digit of a numeral. -/
theorem numeral_line_ne {letter : Char} (hdigit : letter.isDigit = false) (hfeed : letter ≠ '\n')
    (n : Nat) (rest tail : List Char) : numeral n ++ '\n' :: rest ≠ '0' :: letter :: tail := by
  intro heq
  obtain ⟨c, cs, hcs, -⟩ := numeral_eq_cons n
  obtain ⟨d, more, hdrop, hd⟩ := drop_line (fun _ => isDigit_of_mem_numeral)
    (show 1 ≤ (numeral n).length by rw [hcs, List.length_cons]; omega) rest
  rw [heq, List.drop_succ_cons, List.drop_zero] at hdrop
  exact hd letter hdigit hfeed (List.cons.inj hdrop).1.symm

/-- A count is read as a number. -/
theorem readNumber_numeral {n : Nat} (hn : n < 9223372036854775808) (rest : List Char) :
    readNumber (numeral n ++ '\n' :: rest) = .ok (.integer n, '\n' :: rest) := by
  unfold readNumber
  split
  · next heq => exact absurd heq (numeral_line_ne (by decide) (by decide) n rest _)
  · next heq => exact absurd heq (numeral_line_ne (by decide) (by decide) n rest _)
  · next heq => exact absurd heq (numeral_line_ne (by decide) (by decide) n rest _)
  · rw [readWord?_numeral]
    exact readPlain_numeral hn rest

/-! ### Values of one piece -/

/-- A count is read as a value. -/
theorem readScalar_numeral {n : Nat} (hn : n < 9223372036854775808) (rest : List Char) :
    readScalar (numeral n ++ '\n' :: rest) = .ok (.integer n, '\n' :: rest) := by
  have hdateTime := readDateTime?_line (fun _ => isDigit_of_mem_numeral (n := n)) rest
  have hnumber := readNumber_numeral hn rest
  obtain ⟨c, cs, hcs, hc⟩ := numeral_eq_cons n
  have hquote : ¬(c = '"' || c = '\x27') = true := by
    intro h
    simp only [Bool.or_eq_true, decide_eq_true_eq] at h
    rcases h with h | h
    · exact ne_of_isDigit hc (by decide) h
    · exact ne_of_isDigit hc (by decide) h
  rw [hcs, List.cons_append] at hdateTime hnumber ⊢
  rw [readScalar]
  simp only [if_neg hquote, hc, Bool.or_true, if_true, hdateTime, Option.getD_none, hnumber]

/-- A truth value is read as a value. -/
theorem readScalar_truth (b : Bool) (rest : List Char) :
    readScalar ((toString b).toList ++ rest) = .ok (.truth b, rest) := by
  cases b with
  | false => rfl
  | true => rfl

/-- A quotation starts with a delimiter. -/
theorem writeText_eq_cons (cs : List Char) :
    ∃ c tail, writeText cs = c :: tail ∧ (c = '"' ∨ c = '\x27') := by
  unfold writeText
  simp only
  split
  · exact ⟨_, _, rfl, .inl rfl⟩
  · exact ⟨_, _, rfl, .inr rfl⟩
  · rw [opening_eq]
    exact ⟨_, _, rfl, .inl rfl⟩
  · rw [opening_eq]
    exact ⟨_, _, rfl, .inr rfl⟩

/-- A text is read as a value. -/
theorem readScalar_text (s : String) {rest : List Char} (hrest : NoDelimiter rest) :
    readScalar (writeText s.toList ++ rest) = .ok (.text s, rest) := by
  have hread := Quotation.read_writeText s.toList hrest
  obtain ⟨c, tail, htail, hc⟩ := writeText_eq_cons s.toList
  have hquote : (c = '"' || c = '\x27') = true := by
    simpa only [Bool.or_eq_true, decide_eq_true_eq] using hc
  rw [htail, List.cons_append] at hread ⊢
  rw [readScalar]
  simp only [if_pos hquote, hread, map_ok, String.ofList_toList]

end FlowWatch.Toml
