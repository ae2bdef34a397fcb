import FlowWatch.Proofs.Time.DateTimeText
import Mathlib.Data.String.Basic

/-!
# The order of date-time texts

The text of a date-time is a row of fields of fixed width, each of them with a mark behind
it. Texts of this kind are ordered as the rows of their numbers are, since a numeral that
fills its width comes before those of greater numbers, whatever follows. The numbers of a
date-time are ordered as its time is, because each of them counts what is left of the one
before: later months begin later, and a year is longer than all that is behind it. So texts
of timestamps are ordered as the timestamps are, as far as microseconds show.
-/

namespace FlowWatch

open FlowWatch.Text FlowWatch.Calendar

/-- A place for a number in a text: a numeral with leading zeros, and what stands behind
it. -/
structure Text.Field where
  /-- How many digits the numeral has. -/
  width : Nat
  /-- There is a digit at least. -/
  pos : 0 < width
  /-- What stands behind the numeral. -/
  mark : List Char

namespace Text.Field

/-- The text of numbers, one in each field. -/
def text : List Field → List Nat → List Char
  | field :: fields, n :: ns => padded field.width n ++ (field.mark ++ text fields ns)
  | _, _ => []

/-- There is a number for each field, and it has no more digits than the field. -/
def Fit (fields : List Field) (ns : List Nat) : Prop :=
  List.Forall₂ (fun field n => n < 10 ^ field.width) fields ns

/-- Numbers that fit take up the width of all fields and the marks behind them. -/
theorem length_text {fields : List Field} {ns : List Nat} (h : Fit fields ns) :
    (text fields ns).length = (fields.map fun field => field.width + field.mark.length).sum := by
  induction h with
  | nil => rfl
  | @cons field n fields ns hfits hrest ih =>
    simp only [text, List.length_append, length_padded field.pos hfits, ih, List.map_cons,
      List.sum_cons, Nat.add_assoc]

/-- Texts of numbers that fit are ordered as the numbers are. -/
theorem text_lt {fields : List Field} {ns ms : List Nat} (hns : Fit fields ns)
    (hms : Fit fields ms) (h : ns < ms) : text fields ns < text fields ms := by
  induction hns generalizing ms with
  | nil =>
    cases hms
    exact absurd h (List.lt_irrefl _)
  | @cons field n fields ns hfits hrest ih =>
    cases hms with
    | @cons _ m _ ms hother hothers =>
      rcases List.cons_lt_cons_iff.1 h with hfirst | ⟨rfl, hlater⟩
      · exact padded_append_lt field.pos hfits hother hfirst _ _
      · exact List.append_left_lt (List.append_left_lt (ih hothers hlater))

end Text.Field

namespace Calendar.DateTime

/-- The fields of a date-time, from the year down to microseconds. -/
def fields : List Field :=
  [⟨4, by decide, ['-']⟩, ⟨2, by decide, ['-']⟩, ⟨2, by decide, ['T']⟩, ⟨2, by decide, [':']⟩,
    ⟨2, by decide, [':']⟩, ⟨2, by decide, ['.']⟩, ⟨6, by decide, "+00:00".toList⟩]

/-- The numbers of a date-time in these fields. -/
def numbers (t : DateTime) : List Nat :=
  [t.date.year.toNat, t.date.month, t.date.day, t.second / 3600, t.second / 60 % 60,
    t.second % 60, t.nano / 1000]

/-- The microseconds from the Unix epoch to a date-time, cut off below. -/
def unixMicros (t : DateTime) : Int :=
  ((t.date.dayNumber - unixEpochDay) * daySeconds + t.second) * 1000000 + (t.nano / 1000 : Nat)

/-- The microseconds are put together from the day and the numbers of the time of day. -/
theorem unixMicros_eq_sum (t : DateTime) :
    t.unixMicros =
      ((((t.date.dayNumber - unixEpochDay) * 24 + (t.second / 3600 : Nat)) * 60 +
        (t.second / 60 % 60 : Nat)) * 60 + (t.second % 60 : Nat)) * 1000000 +
          (t.nano / 1000 : Nat) := by
  unfold unixMicros daySeconds
  generalize t.date.dayNumber - unixEpochDay = days
  generalize t.nano / 1000 = micro
  omega

/-- A date-time of the calendar in a year of four digits. -/
structure Plain (t : DateTime) : Prop where
  /-- The calendar has the date. -/
  exists_date : t.date.exists = true
  /-- The year has four digits and no sign. -/
  year : 0 ≤ t.date.year ∧ t.date.year < 10000
  /-- The second is one of the day. -/
  second : t.second < daySeconds
  /-- The nanosecond is one of the second. -/
  nano : t.nano < Nanos.perSecond

section Plain

variable {t other : DateTime}

/-- Each number is in the range of its field. -/
theorem Plain.numbers_lt (h : t.Plain) :
    (1 ≤ t.date.month ∧ t.date.month ≤ 12) ∧
      (1 ≤ t.date.day ∧ t.date.day ≤ daysInMonth t.date.year t.date.month) ∧
      t.second / 3600 < 24 ∧ t.second / 60 % 60 < 60 ∧ t.second % 60 < 60 ∧
      t.nano / 1000 < 1000000 := by
  obtain ⟨hmonth, hday⟩ := Date.exists_iff.1 h.exists_date
  have hsecond := h.second
  have hnano := h.nano
  unfold daySeconds at hsecond
  unfold Nanos.perSecond at hnano
  omega

/-- So the numbers fit the fields. -/
theorem Plain.fit (h : t.Plain) : Field.Fit fields t.numbers := by
  obtain ⟨⟨-, hmonth⟩, ⟨-, hday⟩, hhour, hminute, hsecond, hmicro⟩ := h.numbers_lt
  have hlongest := daysInMonth_le t.date.year t.date.month
  have hyear := h.year
  unfold Field.Fit fields numbers
  simp only [List.forall₂_cons, List.Forall₂.nil, and_true]
  omega

/-- The text is that of the numbers in the fields. -/
theorem Plain.isoText_eq (h : t.Plain) : t.isoText = Field.text fields t.numbers := by
  rw [isoText, yearText_eq h.year.1 h.year.2]
  simp only [fields, numbers, Field.text, List.append_assoc, List.cons_append, List.nil_append,
    List.append_nil]

/-- The text has thirty-two characters. -/
theorem Plain.length_isoText (h : t.Plain) : t.isoText.length = 32 := by
  rw [h.isoText_eq, Field.length_text h.fit]
  rfl

/-- The text is a row of numerals, whose numbers are in their ranges and make up the time. -/
theorem Plain.form (h : t.Plain) :
    ∃ year month day hour minute second micro : Nat,
      t.isoText = padded 4 year ++ '-' :: padded 2 month ++ '-' :: padded 2 day ++
        'T' :: padded 2 hour ++ ':' :: padded 2 minute ++ ':' :: padded 2 second ++
        '.' :: padded 6 micro ++ "+00:00".toList ∧
      t.date.year = year ∧ (1 ≤ month ∧ month ≤ 12) ∧
      (1 ≤ day ∧ day ≤ daysInMonth year month) ∧
      hour < 24 ∧ minute < 60 ∧ second < 60 ∧ micro < 1000000 ∧
      let days := (Date.mk year month day).dayNumber - unixEpochDay
      (((days * 24 + hour) * 60 + minute) * 60 + second) * 1000000 + micro = t.unixMicros := by
  have hyear : (t.date.year.toNat : Int) = t.date.year := Int.toNat_of_nonneg h.year.1
  obtain ⟨hmonth, hday, hhour, hminute, hsecond, hmicro⟩ := h.numbers_lt
  refine ⟨t.date.year.toNat, t.date.month, t.date.day, t.second / 3600, t.second / 60 % 60,
    t.second % 60, t.nano / 1000, ?_, hyear.symm, hmonth, ?_, hhour, hminute, hsecond, hmicro, ?_⟩
  · rw [isoText, yearText_eq h.year.1 h.year.2]
  · rwa [hyear]
  · rw [t.date.mk_toNat_year h.year.1, unixMicros_eq_sum]

/-- The time is ordered as the numbers are: the first of them that differs outweighs
all that is behind it. The days decide if the dates differ, and otherwise the numbers
of the time of day do. -/
theorem Plain.unixMicros_lt (h : t.Plain) (hother : other.Plain)
    (hlt : t.numbers < other.numbers) : t.unixMicros < other.unixMicros := by
  have hyear := h.year
  have hotherYear := hother.year
  have hsecond := h.second
  have hnano := h.nano
  have hdate := Date.dayNumber_lt h.exists_date hother.exists_date
  have hequal : t.date.year = other.date.year → t.date.month = other.date.month →
      t.date.day = other.date.day → t.date.dayNumber = other.date.dayNumber := by
    intro hyears hmonths hdays
    rw [Date.dayNumber, Date.dayNumber, hyears, hmonths, hdays]
  unfold daySeconds at hsecond
  unfold Nanos.perSecond at hnano
  simp only [numbers, List.cons_lt_cons_iff, List.lt_irrefl, and_false, or_false] at hlt
  unfold unixMicros daySeconds
  omega

/-- The numbers tell the time up to microseconds. -/
theorem Plain.unixMicros_eq (h : t.Plain) (hother : other.Plain)
    (heq : t.numbers = other.numbers) : t.unixMicros = other.unixMicros := by
  simp only [numbers, List.cons.injEq, and_true] at heq
  obtain ⟨hyears, hmonths, hdays, hhours, hminutes, hseconds, hmicros⟩ := heq
  have hyear : t.date.year = other.date.year := by
    have hfirst := h.year
    have hlast := hother.year
    omega
  have hdates : t.date.dayNumber = other.date.dayNumber := by
    rw [Date.dayNumber, Date.dayNumber, hyear, hmonths, hdays]
  have hsecond : t.second = other.second := by omega
  rw [unixMicros, unixMicros, hdates, hsecond, hmicros]

/-- The texts are ordered as the times are, as far as microseconds show. -/
theorem Plain.isoText_le_iff (h : t.Plain) (hother : other.Plain) :
    t.isoText ≤ other.isoText ↔ t.unixMicros ≤ other.unixMicros := by
  rw [h.isoText_eq, hother.isoText_eq]
  rcases lt_trichotomy t.numbers other.numbers with hlt | heq | hgt
  · have htimes := h.unixMicros_lt hother hlt
    exact iff_of_true (le_of_lt (Field.text_lt h.fit hother.fit hlt)) (le_of_lt htimes)
  · have htimes := h.unixMicros_eq hother heq
    exact iff_of_true (le_of_eq (congrArg _ heq)) (le_of_eq htimes)
  · have htimes := hother.unixMicros_lt h hgt
    exact iff_of_false (not_le_of_gt (Field.text_lt hother.fit h.fit hgt)) (not_le_of_gt htimes)

end Plain

end Calendar.DateTime

namespace Timestamp

/-- The date-time of a timestamp is plain. -/
theorem plain_dateTime (t : Timestamp) : t.dateTime.Plain := by
  obtain ⟨hfirst, hlast⟩ := t.year_dateTime
  constructor
  · exact (ofDayNumber_spec _).1
  · omega
  · simp only [dateTime, daySeconds]
    omega
  · simp only [dateTime, unixParts, Nanos.perSecond]
    omega

/-- Its microseconds are those of the Unix time. -/
theorem unixMicros_dateTime (t : Timestamp) :
    t.dateTime.unixMicros = t.unixNanos.val / 1000 := by
  simp only [DateTime.unixMicros, dateTime, (ofDayNumber_spec _).2, unixParts, daySeconds,
    Nanos.perSecond]
  omega

/-- The texts of two timestamps are ordered as their Unix times are, as far as microseconds
show. -/
theorem isoText_le_iff (a b : Timestamp) :
    a.isoText ≤ b.isoText ↔ a.unixNanos.val / 1000 ≤ b.unixNanos.val / 1000 := by
  rw [isoText_eq, isoText_eq, String.le_iff_toList_le, String.toList_ofList, String.toList_ofList,
    a.plain_dateTime.isoText_le_iff b.plain_dateTime, unixMicros_dateTime, unixMicros_dateTime]

/-- The text of every timestamp, valid or not, is a date-time of the calendar in thirty-two
characters. Its fields, each with leading zeros up to its width, are in their ranges and
stand for the Unix time of the timestamp, without the nanoseconds of its last microsecond.
The texts of two timestamps are ordered as these times are, and so the text of a timestamp
never comes behind that of a later one. -/
theorem isoText_ordered :
    (∀ t : Timestamp,
      (DateTime.ofUnix? t.unixParts.1 t.unixParts.2).isSome = true ∧
        t.isoText.length = 32 ∧
        ∃ year month day hour minute second micro : Nat,
          t.isoText = String.ofList (padded 4 year ++ '-' :: padded 2 month ++
            '-' :: padded 2 day ++ 'T' :: padded 2 hour ++ ':' :: padded 2 minute ++
            ':' :: padded 2 second ++ '.' :: padded 6 micro ++ "+00:00".toList) ∧
          (1677 ≤ year ∧ year ≤ 2262) ∧ (1 ≤ month ∧ month ≤ 12) ∧
          (1 ≤ day ∧ day ≤ daysInMonth year month) ∧
          hour < 24 ∧ minute < 60 ∧ second < 60 ∧ micro < 1000000 ∧
          let days := (Date.mk year month day).dayNumber - unixEpochDay
          (((days * 24 + hour) * 60 + minute) * 60 + second) * 1000000 + micro =
            t.unixNanos.val / 1000) ∧
      (∀ a b : Timestamp,
        a.isoText ≤ b.isoText ↔ a.unixNanos.val / 1000 ≤ b.unixNanos.val / 1000) ∧
      ∀ a b : Timestamp, a.ns.val ≤ b.ns.val → a.isoText ≤ b.isoText := by
  refine ⟨fun t => ⟨?_, ?_, ?_⟩, isoText_le_iff, fun a b hle => ?_⟩
  · rw [ofUnix?_unixParts]
    rfl
  · rw [isoText_eq, String.length_ofList, t.plain_dateTime.length_isoText]
  · obtain ⟨year, month, day, hour, minute, second, micro, htext, hyear, hmonth, hday, hhour,
      hminute, hsecond, hmicro, htime⟩ := t.plain_dateTime.form
    have hyears := t.year_dateTime
    rw [unixMicros_dateTime] at htime
    refine ⟨year, month, day, hour, minute, second, micro, ?_, by omega, hmonth, hday, hhour,
      hminute, hsecond, hmicro, htime⟩
    rw [isoText_eq, htext]
  · have hunix : a.unixNanos.val ≤ b.unixNanos.val := Nanos.clamp_mono (Int.sub_le_sub_right hle _)
    exact (isoText_le_iff a b).2 (Int.ediv_le_ediv (by decide) hunix)

/-- The text of the last nanosecond of a leap day comes before that of the first of March,
and it is the same as the text of the nanosecond before it. -/
theorem leapDay_before_march :
    let before : Timestamp := ⟨Nanos.clamp 951868836999999998⟩
    let last : Timestamp := ⟨Nanos.clamp 951868836999999999⟩
    let next : Timestamp := ⟨Nanos.clamp 951868837000000000⟩
    last.isoText = "2000-02-29T23:59:59.999999+00:00" ∧
      next.isoText = "2000-03-01T00:00:00.000000+00:00" ∧
      last.isoText ≤ next.isoText ∧ ¬next.isoText ≤ last.isoText ∧
      before.isoText ≤ last.isoText ∧ last.isoText ≤ before.isoText := by
  intro before last next
  obtain ⟨-, hexact, hmono⟩ := isoText_ordered
  refine ⟨by decide +kernel, by decide +kernel, hmono last next (by decide), ?_,
    hmono before last (by decide), ?_⟩
  · rw [hexact]
    decide
  · rw [hexact]
    decide

end Timestamp

end FlowWatch
