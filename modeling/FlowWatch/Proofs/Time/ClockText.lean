import FlowWatch.Proofs.Text.Numeral
import FlowWatch.Time.ClockText

/-!
# Elapsed times read back from their texts

A reader of clock texts that knows nothing of the writer takes a text apart at its colons
and at its point, and adds up the numbers that the fields stand for. The fields are proper
if they are digits, as many as their place asks for, and if neither minutes nor seconds
fill a unit of the next place. Proper fields are the numerals of parts in their bounds,
and those are the parts of their nanosecond count, so a text of proper fields is the one
that is written for its count.
-/

namespace FlowWatch.ClockText

open FlowWatch.Text

/-! ### Reading -/

/-- The fields of a text that is written like a clock. -/
structure Fields where
  /-- What stands before the first colon. -/
  hours : List Char
  /-- What stands between the colons. -/
  minutes : List Char
  /-- What stands between the second colon and the point. -/
  seconds : List Char
  /-- What stands behind the point. -/
  fraction : List Char

namespace Fields

/-- The fields of a text, if it has two colons and one point behind them. -/
def read? (s : String) : Option Fields :=
  match s.toList.splitOn ':' with
  | [hours, minutes, rest] =>
    match rest.splitOn '.' with
    | [seconds, fraction] => some ⟨hours, minutes, seconds, fraction⟩
    | _ => none
  | _ => none

/-- The fields are those of a clock. -/
structure Proper (f : Fields) : Prop where
  /-- All fields consist of digits. -/
  digits : ∀ field ∈ [f.hours, f.minutes, f.seconds, f.fraction], ∀ c ∈ field, c.isDigit = true
  /-- There are hours. -/
  hours_ne_nil : f.hours ≠ []
  /-- No superfluous zero stands before the hours. -/
  hours_zero : f.hours.head? = some '0' → f.hours = ['0']
  /-- Minutes have two digits. -/
  minutes_length : f.minutes.length = 2
  /-- Minutes do not fill an hour. -/
  minutes_lt : Nat.ofDigitChars 10 f.minutes 0 < 60
  /-- Seconds have two digits. -/
  seconds_length : f.seconds.length = 2
  /-- Seconds do not fill a minute. -/
  seconds_lt : Nat.ofDigitChars 10 f.seconds 0 < 60
  /-- The fraction has nine digits. -/
  fraction_length : f.fraction.length = 9

/-- The nanoseconds that the fields stand for. -/
def nanos (f : Fields) : Nat :=
  Nat.ofDigitChars 10 f.hours 0 * 3600 * 10 ^ 9 + Nat.ofDigitChars 10 f.minutes 0 * 60 * 10 ^ 9 +
    Nat.ofDigitChars 10 f.seconds 0 * 10 ^ 9 + Nat.ofDigitChars 10 f.fraction 0

/-- The characters of a text with these fields. -/
def chars (f : Fields) : List Char :=
  f.hours ++ ':' :: (f.minutes ++ ':' :: (f.seconds ++ '.' :: f.fraction))

/-- The fields are all there is in a text besides its marks. -/
theorem chars_of_read? {s : String} {f : Fields} (h : read? s = some f) : s.toList = f.chars := by
  unfold read? at h
  split at h
  · rename_i hours minutes rest hcolons
    split at h
    · rename_i seconds fraction hpoint
      cases h
      have htext : [':'].intercalate [hours, minutes, rest] = s.toList := by
        rw [← hcolons, List.intercalate_splitOn]
      have hrest : ['.'].intercalate [seconds, fraction] = rest := by
        rw [← hpoint, List.intercalate_splitOn]
      rw [← htext, ← hrest]
      simp [chars]
    · cases h
  · cases h

/-- Fields without marks are read from their text. -/
theorem read?_chars {f : Fields}
    (h : ∀ field ∈ [f.hours, f.minutes, f.seconds, f.fraction], ∀ c ∈ field, c.isDigit = true) :
    read? (String.ofList f.chars) = some f := by
  have hmark : ∀ {field : List Char} {mark : Char}, (∀ c ∈ field, c.isDigit = true) →
      mark.isDigit = false → mark ∉ field :=
    fun hfield hnone hmem => ne_of_isDigit (hfield _ hmem) hnone rfl
  simp only [List.forall_mem_cons] at h
  obtain ⟨hhours, hminutes, hseconds, hfraction, -⟩ := h
  have hrest : ':' ∉ f.seconds ++ '.' :: f.fraction := by
    rw [List.mem_append, List.mem_cons, not_or, not_or]
    exact ⟨hmark hseconds rfl, by decide, hmark hfraction rfl⟩
  have hcolons : f.chars.splitOn ':' =
      [f.hours, f.minutes, f.seconds ++ '.' :: f.fraction] := by
    rw [chars, List.splitOn_append_cons_self_of_not_mem (hmark hhours rfl),
      List.splitOn_append_cons_self_of_not_mem (hmark hminutes rfl),
      List.splitOn_eq_singleton hrest]
  have hpoint : (f.seconds ++ '.' :: f.fraction).splitOn '.' = [f.seconds, f.fraction] := by
    rw [List.splitOn_append_cons_self_of_not_mem (hmark hseconds rfl),
      List.splitOn_eq_singleton (hmark hfraction rfl)]
  simp only [read?, String.toList_ofList, hcolons, hpoint]

end Fields

/-! ### Writing -/

namespace Parts

/-- The parts are in their bounds. -/
structure Bounded (p : Parts) : Prop where
  /-- Minutes do not fill an hour. -/
  minutes_lt : p.minutes < 60
  /-- Seconds do not fill a minute. -/
  seconds_lt : p.seconds < 60
  /-- Nanoseconds do not fill a second. -/
  nanos_lt : p.nanos < Nanos.perSecond

/-- The parts of a count are in their bounds. -/
theorem bounded_ofNanos (n : Nat) : (ofNanos n).Bounded where
  minutes_lt := Nat.mod_lt _ (by decide)
  seconds_lt := Nat.mod_lt _ (by decide)
  nanos_lt := Nat.mod_lt _ (by decide)

/-- Parts in their bounds are the parts of their count. -/
theorem Bounded.ofNanos_toNanos {p : Parts} (h : p.Bounded) : ofNanos p.toNanos = p := by
  obtain ⟨hours, minutes, seconds, nanos⟩ := p
  obtain ⟨hminutes, hseconds, hnanos⟩ := h
  simp only [Nanos.perSecond] at hminutes hseconds hnanos
  simp only [ofNanos, toNanos, Nanos.perSecond, Parts.mk.injEq]
  omega

/-- The fields of the text of parts. -/
def fields (p : Parts) : Fields :=
  ⟨numeral p.hours, padded 2 p.minutes, padded 2 p.seconds, padded 9 p.nanos⟩

/-- The text of parts has their fields. -/
theorem text_eq (p : Parts) : p.text = String.ofList p.fields.chars := by
  simp [text, fields, Fields.chars]

/-- The fields of parts stand for the count of the parts. -/
theorem nanos_fields (p : Parts) : p.fields.nanos = p.toNanos := by
  simp only [Fields.nanos, fields, ofDigitChars_numeral, ofDigitChars_padded, toNanos,
    Nanos.perSecond]
  omega

/-- The fields of parts are digits. -/
theorem isDigit_of_mem_fields (p : Parts) :
    ∀ field ∈ [p.fields.hours, p.fields.minutes, p.fields.seconds, p.fields.fraction],
      ∀ c ∈ field, c.isDigit = true := by
  simp only [List.forall_mem_cons]
  exact ⟨fun _ => isDigit_of_mem_numeral, fun _ => isDigit_of_mem_padded,
    fun _ => isDigit_of_mem_padded, fun _ => isDigit_of_mem_padded, by simp⟩

/-- The fields of parts in their bounds are proper. -/
theorem Bounded.proper {p : Parts} (h : p.Bounded) : p.fields.Proper where
  digits := p.isDigit_of_mem_fields
  hours_ne_nil := Nat.toDigits_ne_nil
  hours_zero := by
    intro hfirst
    rcases Nat.eq_zero_or_pos p.hours with hzero | hpositive
    · simp only [fields, hzero]
      rfl
    · exact absurd hfirst (head?_numeral hpositive)
  minutes_length := length_padded (by decide) (Nat.lt_trans h.minutes_lt (by decide))
  minutes_lt := by
    simp only [fields, ofDigitChars_padded]
    exact h.minutes_lt
  seconds_length := length_padded (by decide) (Nat.lt_trans h.seconds_lt (by decide))
  seconds_lt := by
    simp only [fields, ofDigitChars_padded]
    exact h.seconds_lt
  fraction_length := length_padded (by decide) h.nanos_lt

end Parts

/-- Proper fields are those of parts in their bounds. -/
theorem Fields.Proper.exists_parts {f : Fields} (h : f.Proper) :
    ∃ p : Parts, p.Bounded ∧ p.fields = f := by
  have hdigits := h.digits
  simp only [List.forall_mem_cons] at hdigits
  obtain ⟨hhours, hminutes, hseconds, hfraction, -⟩ := hdigits
  have hpadded : ∀ {field : List Char} {width : Nat}, (∀ c ∈ field, c.isDigit = true) →
      field.length = width + 1 → padded (width + 1) (Nat.ofDigitChars 10 field 0) = field := by
    intro field width hfield hlength
    rw [← hlength]
    exact padded_ofDigitChars (List.ne_nil_of_length_eq_add_one hlength) hfield
  refine ⟨⟨Nat.ofDigitChars 10 f.hours 0, Nat.ofDigitChars 10 f.minutes 0,
    Nat.ofDigitChars 10 f.seconds 0, Nat.ofDigitChars 10 f.fraction 0⟩, ?_, ?_⟩
  · have hnanos := ofDigitChars_lt hfraction
    rw [h.fraction_length] at hnanos
    exact ⟨h.minutes_lt, h.seconds_lt, hnanos⟩
  · simp only [Parts.fields, numeral_ofDigitChars h.hours_ne_nil hhours h.hours_zero,
      hpadded hminutes h.minutes_length, hpadded hseconds h.seconds_length,
      hpadded hfraction h.fraction_length]

/-! ### Texts and counts -/

/-- A text is written for a count exactly if it reads as proper fields that stand for the
count. -/
theorem write_eq_iff {n : UInt64} {s : String} :
    write n = s ↔ ∃ f, Fields.read? s = some f ∧ f.Proper ∧ f.nanos = n.toNat := by
  constructor
  · rintro rfl
    let parts := Parts.ofNanos n.toNat
    have hread : Fields.read? parts.text = some parts.fields := by
      rw [parts.text_eq]
      exact Fields.read?_chars parts.isDigit_of_mem_fields
    have hnanos : parts.fields.nanos = n.toNat := by
      rw [parts.nanos_fields]
      exact toNanos_ofNanos n.toNat
    exact ⟨parts.fields, hread, (Parts.bounded_ofNanos n.toNat).proper, hnanos⟩
  · rintro ⟨f, hread, hproper, hnanos⟩
    obtain ⟨parts, hbounded, rfl⟩ := hproper.exists_parts
    rw [parts.nanos_fields] at hnanos
    rw [write, ← hnanos, hbounded.ofNanos_toNanos, parts.text_eq, ← Fields.chars_of_read? hread,
      String.ofList_toList]

/-- The text of an elapsed time is exact. For every count it has the form of a clock, with no
superfluous zero before the hours, two digits below sixty for minutes and for seconds, and
nine digits behind the point; it stands for that very count; and it is the only such text.
Different counts have different texts. -/
theorem write_exact :
    (∀ (n : UInt64) (s : String), write n = s ↔
      ∃ f, Fields.read? s = some f ∧ f.Proper ∧ f.nanos = n.toNat) ∧
    Function.Injective write := by
  refine ⟨fun n s => write_eq_iff, fun n m hsame => ?_⟩
  obtain ⟨f, hread, -, hnanos⟩ := write_eq_iff.1 (Eq.refl (write n))
  obtain ⟨g, hread', -, hnanos'⟩ := write_eq_iff.1 (Eq.refl (write m))
  rw [hsame, hread'] at hread
  cases hread
  exact UInt64.toNat_inj.1 (hnanos.symm.trans hnanos')

example : write 6335975000000 = "1:45:35.975000000" := by decide

end FlowWatch.ClockText
