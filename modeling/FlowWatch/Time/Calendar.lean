import FlowWatch.Text.Numeral

/-!
# The calendar

Dates follow the Gregorian rules in both directions without end, within a wide
range of years. Days are counted from the first of January of the year one, so
that a date and its day number determine each other. The text of a date-time
has fields of fixed width, from the year down to microseconds, and names its
offset from UTC as zero.
-/

namespace FlowWatch.Calendar

open FlowWatch.Text

/-- Days in four centuries, after which the calendar repeats. -/
def cycleDays : Nat := 146097

/-- Days in a century that ends without a leap day. -/
def centuryDays : Nat := 36524

/-- Days in four years that end with a leap year. -/
def olympiadDays : Nat := 1461

/-- Seconds in a day. -/
def daySeconds : Nat := 86400

/-- Whether the year has a leap day. -/
def isLeap (year : Int) : Bool := year % 4 == 0 && (year % 100 != 0 || year % 400 == 0)

/-- The days of each month. -/
def monthLengths (leap : Bool) : List Nat :=
  [31, if leap then 29 else 28, 31, 30, 31, 30, 31, 31, 30, 31, 30, 31]

/-- The days of a month, counted from one; none for a number that is no month. -/
def daysInMonth (year : Int) (month : Nat) : Nat :=
  if month = 0 then 0 else (monthLengths (isLeap year))[month - 1]?.getD 0

/-- The days before the first of January of a year. -/
def daysBeforeYear (year : Int) : Int :=
  let past := year - 1
  365 * past + past / 4 - past / 100 + past / 400

/-- The days of a year before a month of it. -/
def daysBeforeMonth (year : Int) (month : Nat) : Nat :=
  ((monthLengths (isLeap year)).take (month - 1)).foldl (· + ·) 0

/-- A day of the calendar. -/
structure Date where
  /-- The year; the year before the year one is zero. -/
  year : Int
  /-- The month, from one to twelve. -/
  month : Nat
  /-- The day of the month, from one. -/
  day : Nat
  deriving DecidableEq, Repr

/-- The day number of the first of January 1970. -/
def unixEpochDay : Int := 719162

/-- The day number of a date. -/
def Date.dayNumber (date : Date) : Int :=
  daysBeforeYear date.year + daysBeforeMonth date.year date.month + date.day - 1

/-- Whether the calendar has the date. -/
def Date.exists (date : Date) : Bool :=
  1 ≤ date.month && date.month ≤ 12 && 1 ≤ date.day && date.day ≤ daysInMonth date.year date.month

/-- The month and the day of the month, from a list of month lengths and the
days that have passed since the first of them. -/
def monthOfDay : List Nat → Nat → Nat → Nat × Nat
  | [], month, past => (month, past + 1)
  | length :: rest, month, past =>
    if past < length then (month, past + 1) else monthOfDay rest (month + 1) (past - length)

/-- The year of a day number and the days of it that have passed. The last day
of a cycle and of a leap year stays with the century and the year before it. -/
def yearOfDay (dayNumber : Int) : Int × Nat :=
  let cycle := dayNumber / cycleDays
  let inCycle := (dayNumber % cycleDays).toNat
  let century := min (inCycle / centuryDays) 3
  let inCentury := inCycle - century * centuryDays
  let olympiad := inCentury / olympiadDays
  let inOlympiad := inCentury - olympiad * olympiadDays
  let single := min (inOlympiad / 365) 3
  (400 * cycle + (100 * century + 4 * olympiad + single + 1 : Nat), inOlympiad - single * 365)

/-- The date of a day number. -/
def Date.ofDayNumber (dayNumber : Int) : Date :=
  let (year, past) := yearOfDay dayNumber
  let (month, day) := monthOfDay (monthLengths (isLeap year)) 1 past
  ⟨year, month, day⟩

/-- The years that date-times can lie in. -/
def minYear : Int := -262143

/-- The last year that date-times can lie in. -/
def maxYear : Int := 262142

/-- A date and a time of day in UTC. -/
structure DateTime where
  /-- The date. -/
  date : Date
  /-- The seconds since midnight. -/
  second : Nat
  /-- The nanoseconds since the last whole second. -/
  nano : Nat
  deriving DecidableEq, Repr

/-- The date-time so many seconds after the Unix epoch, and so many nanoseconds
more; none if the year lies outside the range of the calendar. -/
def DateTime.ofUnix? (seconds : Int) (nano : Nat) : Option DateTime :=
  let date := Date.ofDayNumber (seconds / daySeconds + unixEpochDay)
  if minYear ≤ date.year && date.year ≤ maxYear then
    some ⟨date, (seconds % daySeconds).toNat, nano⟩
  else none

/-- A year with four digits at least, and with a sign outside four digits. -/
def yearText (year : Int) : List Char :=
  if 0 ≤ year && year ≤ 9999 then padded 4 year.toNat
  else (if year < 0 then '-' else '+') :: padded 4 year.natAbs

/-- The text of a date-time with microseconds, cut off below, and the offset of
UTC from itself. -/
def DateTime.isoText (t : DateTime) : List Char :=
  yearText t.date.year ++ '-' :: padded 2 t.date.month ++ '-' :: padded 2 t.date.day ++
    'T' :: padded 2 (t.second / 3600) ++ ':' :: padded 2 (t.second / 60 % 60) ++
    ':' :: padded 2 (t.second % 60) ++ '.' :: padded 6 (t.nano / 1000) ++ "+00:00".toList

example : (Date.mk 1970 1 1).dayNumber = unixEpochDay := by decide +kernel
example : Date.ofDayNumber unixEpochDay = ⟨1970, 1, 1⟩ := by decide +kernel
example : Date.ofDayNumber (Date.mk 2000 2 29).dayNumber = ⟨2000, 2, 29⟩ := by decide +kernel
example : Date.ofDayNumber (Date.mk 2000 12 31).dayNumber = ⟨2000, 12, 31⟩ := by decide +kernel
example : Date.ofDayNumber (Date.mk 0 1 1).dayNumber = ⟨0, 1, 1⟩ := by decide +kernel

end FlowWatch.Calendar
