import FlowWatch.Proofs.Text.Numeral
import FlowWatch.Proofs.Time.Calendar
import FlowWatch.Time.Timestamp

/-!
# Date-times read from their own text

The text of a date-time is cut off below microseconds, and the reader gives back
what is left. Each field is a padded numeral that fills its width, so the reader
of a field stops where the numeral ends. Every timestamp, also one that is not
valid, has a date-time in a year of four digits; so the text of a valid one is read
back as the timestamp without the nanoseconds of its last microsecond.
-/

namespace FlowWatch

open FlowWatch.Text FlowWatch.Calendar

/-- A text has at least one byte for each character. -/
theorem length_le_utf8ByteSize (cs : List Char) : cs.length ≤ (String.ofList cs).utf8ByteSize := by
  induction cs with
  | nil => exact Nat.zero_le _
  | cons c rest ih =>
    have hsplit : String.ofList (c :: rest) = String.singleton c ++ String.ofList rest := by
      rw [String.singleton_eq_ofList, ← String.ofList_append]
      rfl
    have hpos := c.utf8Size_pos
    rw [hsplit, String.utf8ByteSize_append, String.utf8ByteSize_singleton, List.length_cons]
    omega

/-- A year of four digits is written with four digits. -/
theorem yearText_eq {year : Int} (hyear : 0 ≤ year) (hfour : year < 10000) :
    yearText year = padded 4 year.toNat := by
  rw [yearText, if_pos]
  simp only [Bool.and_eq_true, decide_eq_true_eq]
  omega

/-- A date is put together from its year without a sign, its month and its day. -/
theorem Calendar.Date.mk_toNat_year (date : Date) (h : 0 ≤ date.year) :
    Date.mk date.year.toNat date.month date.day = date := by
  rw [Int.toNat_of_nonneg h]

/-- The text of a date-time has the length that the reader asks for. -/
theorem le_length_isoText (t : DateTime) : Rfc3339.minBytes ≤ t.isoText.length := by
  have hyear : 4 ≤ (yearText t.date.year).length := by
    unfold yearText
    split
    · exact le_length_padded 4 _
    · exact Nat.le_succ_of_le (le_length_padded 4 _)
  have hmonth := le_length_padded 2 t.date.month
  have hday := le_length_padded 2 t.date.day
  have hhour := le_length_padded 2 (t.second / 3600)
  have hminute := le_length_padded 2 (t.second / 60 % 60)
  have hsecond := le_length_padded 2 (t.second % 60)
  simp only [DateTime.isoText, Rfc3339.minBytes, List.length_append, List.length_cons]
  omega

namespace Rfc3339

/-- A field of digits alone is read as the number they stand for. -/
theorem readField_digits {cs : List Char} (h : ∀ c ∈ cs, c.isDigit = true) (acc : Nat)
    (rest : List Char) :
    readField cs.length acc (cs ++ rest) = .ok (Nat.ofDigitChars 10 cs acc, rest) := by
  induction cs generalizing acc with
  | nil => rfl
  | cons c cs ih =>
    have hc := h c List.mem_cons_self
    rw [List.length_cons, List.cons_append, readField, if_pos hc, ofDigitChars_cons]
    exact ih (fun d hd => h d (List.mem_cons_of_mem c hd)) _

/-- A padded numeral that fills the width of a field is read as its count. -/
theorem readField_padded {width n : Nat} (hwidth : 0 < width) (h : n < 10 ^ width)
    (rest : List Char) : readField width 0 (padded width n ++ rest) = .ok (n, rest) := by
  have hdigits : ∀ c ∈ padded width n, c.isDigit = true := fun _ => isDigit_of_mem_padded
  have hread := readField_digits hdigits 0 rest
  rwa [length_padded hwidth h, ofDigitChars_padded] at hread

/-- A fraction whose digits are a padded numeral counts nanoseconds. -/
theorem readFraction_padded {width n : Nat} (hwidth : 0 < width) (hnine : width ≤ 9)
    (h : n < 10 ^ width) {c : Char} (hc : c.isDigit = false) (rest : List Char) :
    readFraction (padded width n ++ c :: rest) = .ok (n * 10 ^ (9 - width), c :: rest) := by
  have hlength := length_padded hwidth h
  have hdigits : ∀ d ∈ padded width n, d.isDigit = true := fun _ => isDigit_of_mem_padded
  have htake : (padded width n ++ c :: rest).takeWhile Char.isDigit = padded width n := by
    rw [List.takeWhile_append_of_pos hdigits, List.takeWhile_cons_of_neg (by simp [hc]),
      List.append_nil]
  have hdrop : (padded width n ++ c :: rest).dropWhile Char.isDigit = c :: rest := by
    rw [List.dropWhile_append_of_pos hdigits, List.dropWhile_cons_of_neg (by simp [hc])]
  have hne : (padded width n).isEmpty = false := by
    rw [List.isEmpty_eq_false_iff]
    intro hnil
    rw [hnil, List.length_nil] at hlength
    omega
  have hkept : (padded width n).take 9 = padded width n :=
    List.take_of_length_le (by omega)
  unfold readFraction
  split
  · next heq => simp at heq
  · simp only [htake, hdrop, hne, hkept, hlength, foldl_digitValue, ofDigitChars_padded,
      Bool.false_eq_true, if_false]
    rfl

/-- An allowed character is read. -/
theorem readMark_of_mem {c : Char} {allowed : List Char} (h : c ∈ allowed) (rest : List Char) :
    readMark allowed (c :: rest) = .ok rest := by
  rw [readMark, if_pos (List.contains_iff_mem.2 h)]

/-- A date of the calendar with a year of four digits is read. -/
theorem readDate_padded {date : Date} (hexists : date.exists = true) (hyear : 0 ≤ date.year)
    (hfour : date.year < 10000) (rest : List Char) :
    readDate (padded 4 date.year.toNat ++ '-' :: (padded 2 date.month ++
      '-' :: (padded 2 date.day ++ rest))) = .ok (date, rest) := by
  have hmonth : date.month ≤ 12 := by simp_all [Date.exists]
  have hday : date.day ≤ daysInMonth date.year date.month := by simp_all [Date.exists]
  have hlongest := daysInMonth_le date.year date.month
  unfold readDate
  rw [readField_padded (by decide) (by omega)]
  simp only [ok_bind, readMark_of_mem List.mem_cons_self]
  rw [readField_padded (by decide) (by omega)]
  simp only [ok_bind, readMark_of_mem List.mem_cons_self]
  rw [readField_padded (by decide) (by omega)]
  simp only [ok_bind, date.mk_toNat_year hyear, hexists, if_true]
  rfl

/-- A time of day with microseconds is read. -/
theorem readTime_padded {second micro : Nat} (hsecond : second < daySeconds)
    (hmicro : micro < 1000000) {c : Char} (hc : c.isDigit = false) (rest : List Char) :
    readTime (padded 2 (second / 3600) ++ ':' :: (padded 2 (second / 60 % 60) ++
      ':' :: (padded 2 (second % 60) ++ '.' :: (padded 6 micro ++ c :: rest)))) =
        .ok (⟨second, micro * 1000⟩, c :: rest) := by
  unfold daySeconds at hsecond
  have hparts : second / 3600 * 3600 + second / 60 % 60 * 60 + second % 60 = second := by omega
  unfold readTime
  rw [readField_padded (by decide) (by omega)]
  simp only [ok_bind, readMark_of_mem List.mem_cons_self]
  rw [readField_padded (by decide) (by omega)]
  simp only [ok_bind, readMark_of_mem List.mem_cons_self]
  rw [readField_padded (by decide) (by omega)]
  simp only [ok_bind]
  rw [readFraction_padded (by decide) (by decide) hmicro hc]
  simp only [ok_bind]
  have hsixty : second % 60 ≠ 60 := by omega
  simp only [if_neg hsixty, hparts]
  rw [if_pos]
  · rfl
  · simp only [Bool.and_eq_true, decide_eq_true_eq]
    omega

/-- The text of a date-time in a year of four digits is read as the date-time
without the nanoseconds of its last microsecond. -/
theorem read_isoText {t : DateTime} (hexists : t.date.exists = true) (hyear : 0 ≤ t.date.year)
    (hfour : t.date.year < 10000) (hsecond : t.second < daySeconds)
    (hnano : t.nano < Nanos.perSecond) :
    read (String.ofList t.isoText) = .ok ⟨t.date, ⟨t.second, t.nano / 1000 * 1000⟩, 0⟩ := by
  unfold Nanos.perSecond at hnano
  have hbytes := length_le_utf8ByteSize t.isoText
  have hlong := le_length_isoText t
  unfold read
  rw [if_neg (by omega), String.toList_ofList, DateTime.isoText, yearText_eq hyear hfour]
  simp only [List.append_assoc, List.cons_append]
  rw [readDate_padded hexists hyear hfour]
  simp only [ok_bind]
  rw [readMark_of_mem (by decide)]
  simp only [ok_bind]
  rw [show "+00:00".toList = '+' :: ['0', '0', ':', '0', '0'] from rfl,
    readTime_padded hsecond (by omega) (by decide)]
  rfl

end Rfc3339

namespace Timestamp

/-- The sentinel is the timestamp without any nanosecond. -/
theorem eq_invalid_iff {t : Timestamp} : t = invalid ↔ t.ns.val = 0 := by
  constructor
  · rintro rfl
    rfl
  · intro h
    cases t
    exact congrArg mk (Nanos.ext h)

/-- Atomic time is ahead of the Unix time by the leap seconds. -/
theorem toTai_unixUtc : Timescale.unixUtc.toTai = 37000000000 := rfl

/-- The Unix time of a valid timestamp is behind it by the leap seconds. -/
theorem unixNanos_val {t : Timestamp} (h : t.isValid = true) :
    t.unixNanos.val = t.ns.val - 37000000000 := by
  have hpos := isValid_iff.1 h
  have hbelow := t.ns.below
  rw [unixNanos, toTai_unixUtc]
  exact Nanos.clamp_val (by omega) (by omega)

/-- The date-time of a timestamp. -/
def dateTime (t : Timestamp) : DateTime :=
  ⟨Date.ofDayNumber (t.unixParts.1 / daySeconds + unixEpochDay),
    (t.unixParts.1 % daySeconds).toNat, t.unixParts.2⟩

/-- The years of timestamps: 64 bits of nanoseconds begin in 1677 and end in 2262. -/
theorem year_dateTime (t : Timestamp) :
    1677 ≤ t.dateTime.date.year ∧ t.dateTime.date.year < 2263 := by
  have hatLeast := t.unixNanos.atLeast
  have hbelow := t.unixNanos.below
  have hfirst : daysBeforeYear 1677 = 612147 := rfl
  have hlast : daysBeforeYear 2263 = 826178 := rfl
  apply yearOfDay_bounds
  · simp only [unixParts, hfirst, daySeconds, unixEpochDay, Nanos.perSecond]
    omega
  · simp only [unixParts, hlast, daySeconds, unixEpochDay, Nanos.perSecond]
    omega

/-- The calendar has the year of a timestamp. -/
theorem ofUnix?_unixParts (t : Timestamp) :
    DateTime.ofUnix? t.unixParts.1 t.unixParts.2 = some t.dateTime := by
  obtain ⟨hfirst, hlast⟩ := t.year_dateTime
  unfold dateTime at *
  simp only at hfirst hlast
  unfold DateTime.ofUnix?
  simp only
  rw [if_pos]
  simp only [Bool.and_eq_true, decide_eq_true_eq]
  unfold minYear maxYear
  omega

/-- The text of a timestamp is that of its date-time. -/
theorem isoText_eq (t : Timestamp) : t.isoText = String.ofList t.dateTime.isoText := by
  unfold isoText
  rw [ofUnix?_unixParts]

/-- The Unix time of the date-time that the text gives back: that of the
timestamp without the nanoseconds of its last microsecond. -/
theorem unixNanos_dateTime {t : Timestamp} (h : t.isValid = true) :
    Rfc3339.Written.unixNanos
        ⟨t.dateTime.date, ⟨t.dateTime.second, t.dateTime.nano / 1000 * 1000⟩, 0⟩ =
      t.ns.val - t.ns.val % 1000 - 37000000000 := by
  have hunix := unixNanos_val h
  simp only [Rfc3339.Written.unixNanos, dateTime, (ofDayNumber_spec _).2, unixParts, hunix,
    daySeconds, Nanos.perSecond]
  omega

/-- The text of a valid timestamp is read back as the timestamp without the
nanoseconds of its last microsecond, which is the sentinel below the first
microsecond. -/
theorem ofRfc3339_isoText {t : Timestamp} (h : t.isValid = true) :
    ∃ r, ofRfc3339 t.isoText = .ok r ∧ r.ns.val = t.ns.val - t.ns.val % 1000 ∧
      (r = invalid ↔ t.ns.val < 1000) := by
  have hpos := isValid_iff.1 h
  have hbelow := t.ns.below
  obtain ⟨hfirst, hlast⟩ := t.year_dateTime
  have hread : Rfc3339.read t.isoText =
      .ok ⟨t.dateTime.date, ⟨t.dateTime.second, t.dateTime.nano / 1000 * 1000⟩, 0⟩ := by
    rw [isoText_eq]
    exact Rfc3339.read_isoText (ofDayNumber_spec _).1 (by omega) (by omega)
      (by simp only [dateTime, daySeconds]; omega)
      (by simp only [dateTime, unixParts, Nanos.perSecond]; omega)
  have hsome : ∃ raw, Nanos.ofInt? (t.ns.val - t.ns.val % 1000 - 37000000000) = some raw := by
    rw [← Option.ne_none_iff_exists', ne_eq, Nanos.ofInt?_eq_none_iff]
    omega
  obtain ⟨raw, hraw⟩ := hsome
  have hval := Nanos.val_of_ofInt? hraw
  have hback : (ofUnix raw).ns.val = t.ns.val - t.ns.val % 1000 := by
    rw [ofUnix, ofRaw, toTai_unixUtc, hval, collapse_val]
    split <;> omega
  refine ⟨ofUnix raw, ?_, hback, ?_⟩
  · unfold ofRfc3339
    rw [hread]
    simp only [unixNanos_dateTime h, hraw]
  · rw [eq_invalid_iff, hback]
    omega

/-- The text of the greatest timestamp keeps its last whole microsecond. -/
theorem greatest_isoText_read : greatest.isValid = true ∧
    ∃ r, ofRfc3339 greatest.isoText = .ok r ∧ r.ns.val = 9223372036854775000 := by
  have hvalid : greatest.isValid = true := by decide
  obtain ⟨r, hread, hval, -⟩ := ofRfc3339_isoText hvalid
  exact ⟨hvalid, r, hread, hval⟩

/-- The first nanosecond lies before 1970. -/
example : least.isoText = "1969-12-31T23:59:23.000000+00:00" := by decide +kernel

end Timestamp

end FlowWatch
