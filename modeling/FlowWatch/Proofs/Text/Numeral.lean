import FlowWatch.Proofs.Result
import FlowWatch.Text.Numeral
import Mathlib.Algebra.GroupWithZero.Nat

/-!
# The numbers that numerals stand for

Readers are put together in sequence, so what the first one has read and left is
what the next one starts with. Every reader of digits goes from the left and
keeps the number that the digits so far stand for. That number is
`Nat.ofDigitChars 10`; a numeral of a count stands for the count, and zeros in
front of it change nothing.
-/

namespace FlowWatch.Text

/-- A reader that has read something goes on with it. -/
@[simp]
theorem ok_bind {ε α β : Type} (a : α) (f : α → Except ε β) : (Except.ok a >>= f) = f a := rfl

/-- Digits are folded to the number they stand for. -/
theorem foldl_digitValue (cs : List Char) (acc : Nat) :
    cs.foldl (fun acc c => acc * 10 + digitValue c) acc = Nat.ofDigitChars 10 cs acc := by
  simp only [Nat.ofDigitChars_eq_foldl, digitValue, Nat.mul_comm]

/-- One digit more moves the digits before it up by one place. -/
theorem ofDigitChars_cons (c : Char) (cs : List Char) (acc : Nat) :
    Nat.ofDigitChars 10 (c :: cs) acc = Nat.ofDigitChars 10 cs (acc * 10 + digitValue c) := by
  rw [Nat.ofDigitChars_cons, digitValue, Nat.mul_comm]

/-- The first digit counts the power of ten that comes behind the others. -/
theorem ofDigitChars_cons_zero (c : Char) (cs : List Char) :
    Nat.ofDigitChars 10 (c :: cs) 0 =
      10 ^ cs.length * digitValue c + Nat.ofDigitChars 10 cs 0 := by
  rw [ofDigitChars_cons, Nat.ofDigitChars_eq_ofDigitChars_zero, Nat.zero_mul, Nat.zero_add]

/-- More digits never make a number smaller. -/
theorem le_ofDigitChars (cs : List Char) (acc : Nat) : acc ≤ Nat.ofDigitChars 10 cs acc := by
  induction cs generalizing acc with
  | nil => exact Nat.le_refl acc
  | cons c cs ih =>
    rw [ofDigitChars_cons]
    have hrest := ih (acc * 10 + digitValue c)
    omega

/-- A numeral consists of digits. -/
theorem isDigit_of_mem_numeral {n : Nat} {c : Char} (h : c ∈ numeral n) : c.isDigit = true :=
  Nat.isDigit_of_mem_toDigits (by decide) (by decide) h

/-- A numeral stands for its count. -/
theorem ofDigitChars_numeral (n : Nat) : Nat.ofDigitChars 10 (numeral n) 0 = n :=
  Nat.ofDigitChars_ten_toDigits

/-- A numeral has a first digit. -/
theorem numeral_eq_cons (n : Nat) : ∃ c cs, numeral n = c :: cs ∧ c.isDigit = true := by
  obtain ⟨c, cs, hcs⟩ := List.exists_cons_of_ne_nil (show numeral n ≠ [] from Nat.toDigits_ne_nil)
  exact ⟨c, cs, hcs, isDigit_of_mem_numeral (hcs ▸ List.mem_cons_self)⟩

/-- No numeral of a positive count starts with a zero. -/
theorem head?_numeral {n : Nat} (h : 0 < n) : (numeral n).head? ≠ some '0' := by
  induction n using Nat.strongRecOn with
  | ind n ih =>
    rw [numeral, Nat.toDigits_eq_if (by decide)]
    split
    · next hlt =>
      have hdigits : ∀ d < 10, 0 < d → Nat.digitChar d ≠ '0' := by decide
      simpa using hdigits n hlt h
    · next hge =>
      have hhead := ih (n / 10) (by omega) (by omega)
      obtain ⟨c, cs, hcs, -⟩ := numeral_eq_cons (n / 10)
      rw [numeral] at hcs hhead
      rw [hcs] at hhead ⊢
      exact hhead

/-- A digit is no character that is none. -/
theorem ne_of_isDigit {c d : Char} (hc : c.isDigit = true) (hd : d.isDigit = false) : c ≠ d := by
  rintro rfl
  rw [hc] at hd
  cases hd

/-- A padded numeral consists of digits. -/
theorem isDigit_of_mem_padded {width n : Nat} {c : Char} (h : c ∈ padded width n) :
    c.isDigit = true := by
  rcases List.mem_append.1 h with zeros | digits
  · rw [List.eq_of_mem_replicate zeros]; rfl
  · exact isDigit_of_mem_numeral digits

/-- A padded numeral stands for its count. -/
theorem ofDigitChars_padded (width n : Nat) : Nat.ofDigitChars 10 (padded width n) 0 = n := by
  rw [padded, Nat.ofDigitChars_append, Nat.ofDigitChars_replicate_zero, Nat.mul_zero,
    ofDigitChars_numeral]

/-- A padded numeral fills its width at least. -/
theorem le_length_padded (width n : Nat) : width ≤ (padded width n).length := by
  rw [padded, List.length_append, List.length_replicate]
  omega

/-- A count that fits its width fills it. -/
theorem length_padded {width n : Nat} (hwidth : 0 < width) (h : n < 10 ^ width) :
    (padded width n).length = width := by
  have hle : (numeral n).length ≤ width :=
    (Nat.length_toDigits_le_iff (by decide) hwidth).2 h
  rw [padded, List.length_append, List.length_replicate]
  omega

/-- A digit is the character that is its value behind zero, and its value is below ten. -/
theorem digitValue_spec {c : Char} (h : c.isDigit = true) :
    c.toNat = 48 + digitValue c ∧ digitValue c < 10 := by
  have hzero : '0'.toNat = 48 := rfl
  obtain ⟨hlow, hhigh⟩ : 48 ≤ c.toNat ∧ c.toNat ≤ 57 := by
    simp only [Char.isDigit, Bool.and_eq_true, decide_eq_true_eq] at h
    exact h
  unfold digitValue
  omega

/-- Digits of the same value are the same. -/
theorem eq_of_digitValue_eq {c d : Char} (hc : c.isDigit = true) (hd : d.isDigit = true)
    (h : digitValue c = digitValue d) : c = d := by
  apply Char.toNat_inj.1
  rw [(digitValue_spec hc).1, (digitValue_spec hd).1, h]

/-- Digits stand for less than the power of ten that comes behind all of them. -/
theorem ofDigitChars_lt {cs : List Char} (h : ∀ c ∈ cs, c.isDigit = true) :
    Nat.ofDigitChars 10 cs 0 < 10 ^ cs.length := by
  induction cs with
  | nil => exact Nat.one_pos
  | cons c cs ih =>
    obtain ⟨-, hfirst⟩ := digitValue_spec (h c List.mem_cons_self)
    have hrest := ih fun d hd => h d (List.mem_cons_of_mem c hd)
    have hplace : 10 ^ cs.length * digitValue c ≤ 10 ^ cs.length * 9 :=
      Nat.mul_le_mul_left _ (by omega)
    rw [ofDigitChars_cons_zero, List.length_cons, Nat.pow_succ]
    omega

/-- Of two texts of as many digits the one that stands for less comes first,
whatever follows them. The rest of the second text cannot make up for a smaller
first digit. -/
theorem append_lt_of_ofDigitChars_lt {cs ds : List Char} (hcs : ∀ c ∈ cs, c.isDigit = true)
    (hds : ∀ d ∈ ds, d.isDigit = true) (hlength : cs.length = ds.length)
    (h : Nat.ofDigitChars 10 cs 0 < Nat.ofDigitChars 10 ds 0) (xs ys : List Char) :
    cs ++ xs < ds ++ ys := by
  induction cs generalizing ds with
  | nil =>
    rw [List.eq_nil_of_length_eq_zero hlength.symm] at h
    exact absurd h (Nat.lt_irrefl _)
  | cons c cs ih =>
    obtain ⟨d, ds, rfl⟩ := List.exists_cons_of_length_eq_add_one hlength.symm
    obtain ⟨hc, hcrest⟩ := List.forall_mem_cons.1 hcs
    obtain ⟨hd, hdrest⟩ := List.forall_mem_cons.1 hds
    have hsame : cs.length = ds.length := Nat.succ.inj hlength
    have hbelow := ofDigitChars_lt hdrest
    rw [ofDigitChars_cons_zero, ofDigitChars_cons_zero, hsame] at h
    rw [List.cons_append, List.cons_append, List.cons_lt_cons_iff]
    obtain ⟨hcode, -⟩ := digitValue_spec hc
    obtain ⟨hother, -⟩ := digitValue_spec hd
    rcases Nat.lt_trichotomy (digitValue c) (digitValue d) with hless | heq | hmore
    · have hcodes : c.toNat < d.toNat := by omega
      exact .inl hcodes
    · rw [heq] at h
      exact .inr ⟨eq_of_digitValue_eq hc hd heq,
        ih hcrest hdrest hsame (Nat.lt_of_add_lt_add_left h)⟩
    · have hplace := Nat.mul_le_mul_left (10 ^ ds.length) (Nat.succ_le_of_lt hmore)
      rw [Nat.mul_succ] at hplace
      omega

/-- Padded numerals that fill their width are ordered as their counts, whatever follows
them. -/
theorem padded_append_lt {width n m : Nat} (hwidth : 0 < width) (hn : n < 10 ^ width)
    (hm : m < 10 ^ width) (h : n < m) (xs ys : List Char) :
    padded width n ++ xs < padded width m ++ ys := by
  apply append_lt_of_ofDigitChars_lt
  · exact fun _ => isDigit_of_mem_padded
  · exact fun _ => isDigit_of_mem_padded
  · rw [length_padded hwidth hn, length_padded hwidth hm]
  · rwa [ofDigitChars_padded, ofDigitChars_padded]

/-! ### Numerals back from the numbers -/

/-- A digit is written as the numeral of its value. -/
theorem numeral_digitValue {c : Char} (h : c.isDigit = true) : numeral (digitValue c) = [c] := by
  obtain ⟨hcode, hten⟩ := digitValue_spec h
  have hchar : (digitValue c).digitChar = c := by
    apply Char.toNat_inj.1
    rw [Nat.toNat_digitChar_of_lt_ten hten, hcode]
  rw [numeral, Nat.toDigits_of_lt_base hten, hchar]

/-- A positive numeral with digits behind it is the numeral of what they stand for
together. -/
theorem numeral_append {acc : Nat} (hacc : 0 < acc) {cs : List Char}
    (h : ∀ c ∈ cs, c.isDigit = true) :
    numeral acc ++ cs = numeral (Nat.ofDigitChars 10 cs acc) := by
  induction cs generalizing acc with
  | nil => rw [List.append_nil, Nat.ofDigitChars_nil]
  | cons c cs ih =>
    obtain ⟨hc, hcs⟩ := List.forall_mem_cons.1 h
    obtain ⟨-, hten⟩ := digitValue_spec hc
    have hnext : numeral acc ++ [c] = numeral (acc * 10 + digitValue c) := by
      rw [← numeral_digitValue hc, numeral, numeral, Nat.mul_comm acc,
        Nat.toDigits_append_toDigits (by decide) hacc hten, numeral]
    rw [ofDigitChars_cons, ← ih (by omega) hcs, ← hnext, List.append_assoc,
      List.singleton_append]

/-- Digits without a superfluous zero in front are the numeral of what they stand for. -/
theorem numeral_ofDigitChars {cs : List Char} (hsome : cs ≠ [])
    (h : ∀ c ∈ cs, c.isDigit = true) (hzero : cs.head? = some '0' → cs = ['0']) :
    numeral (Nat.ofDigitChars 10 cs 0) = cs := by
  obtain ⟨c, cs, rfl⟩ := List.exists_cons_of_ne_nil hsome
  obtain ⟨hc, hcs⟩ := List.forall_mem_cons.1 h
  by_cases hfirst : c = '0'
  · rw [hzero (by rw [hfirst, List.head?_cons])]
    decide
  · have hpositive : 0 < digitValue c :=
      Nat.pos_iff_ne_zero.2 fun hvalue => hfirst (eq_of_digitValue_eq hc rfl hvalue)
    rw [ofDigitChars_cons, Nat.zero_mul, Nat.zero_add, ← numeral_append hpositive hcs,
      numeral_digitValue hc, List.singleton_append]

/-- Texts of as many digits that stand for the same number are equal. What comes
behind the first digit does not fill its place. -/
theorem eq_of_ofDigitChars_eq {cs ds : List Char} (hcs : ∀ c ∈ cs, c.isDigit = true)
    (hds : ∀ d ∈ ds, d.isDigit = true) (hlength : cs.length = ds.length)
    (h : Nat.ofDigitChars 10 cs 0 = Nat.ofDigitChars 10 ds 0) : cs = ds := by
  induction cs generalizing ds with
  | nil => exact (List.eq_nil_of_length_eq_zero hlength.symm).symm
  | cons c cs ih =>
    obtain ⟨d, ds, rfl⟩ := List.exists_cons_of_length_eq_add_one hlength.symm
    obtain ⟨hc, hcrest⟩ := List.forall_mem_cons.1 hcs
    obtain ⟨hd, hdrest⟩ := List.forall_mem_cons.1 hds
    have hsame : cs.length = ds.length := Nat.succ.inj hlength
    have hfirst := ofDigitChars_lt hcrest
    have hsecond := ofDigitChars_lt hdrest
    rw [ofDigitChars_cons_zero, ofDigitChars_cons_zero, hsame] at h
    rw [hsame] at hfirst
    have hvalue : digitValue c = digitValue d := by
      have hdiv := congrArg (· / 10 ^ ds.length) h
      simp only [Nat.mul_add_div (Nat.pow_pos (Nat.succ_pos 9)), Nat.div_eq_of_lt hfirst,
        Nat.div_eq_of_lt hsecond, Nat.add_zero] at hdiv
      exact hdiv
    rw [hvalue] at h
    rw [eq_of_digitValue_eq hc hd hvalue, ih hcrest hdrest hsame (Nat.add_left_cancel h)]

/-- Digits are the padded numeral of what they stand for, to the width that they have. -/
theorem padded_ofDigitChars {cs : List Char} (hsome : cs ≠ [])
    (h : ∀ c ∈ cs, c.isDigit = true) : padded cs.length (Nat.ofDigitChars 10 cs 0) = cs := by
  apply eq_of_ofDigitChars_eq
  · exact fun _ => isDigit_of_mem_padded
  · exact h
  · exact length_padded (List.length_pos_iff.2 hsome) (ofDigitChars_lt h)
  · exact ofDigitChars_padded _ _

end FlowWatch.Text
