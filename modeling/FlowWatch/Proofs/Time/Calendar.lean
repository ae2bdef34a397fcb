import FlowWatch.Time.Calendar
import Mathlib.Algebra.GroupWithZero.Nat

/-!
# Dates and their day numbers

A day number is split into full cycles of four centuries, centuries, spans of
four years and single years, and what remains are the days that have passed of
the year. Only the last day of a leap year exceeds the 365 days that a single
year takes off. The months of the year are then taken off one after the other.
So every day number has a date, which the calendar has and which has that day
number.
-/

namespace FlowWatch.Calendar

/-- A leap year is every fourth one, but of the centuries only every fourth. -/
theorem isLeap_iff {year : Int} :
    isLeap year = true ↔ year % 4 = 0 ∧ (year % 100 ≠ 0 ∨ year % 400 = 0) := by
  simp [isLeap]

/-- The days of a year. -/
def daysInYear (year : Int) : Nat := if isLeap year then 366 else 365

/-- No year is shorter than 365 days. -/
theorem le_daysInYear (year : Int) : 365 ≤ daysInYear year := by
  unfold daysInYear
  split <;> decide

/-- The days of a year are those of its months. -/
theorem sum_monthLengths (year : Int) : (monthLengths (isLeap year)).sum = daysInYear year := by
  cases h : isLeap year <;> simp [h, monthLengths, daysInYear]

/-- No month is longer than 31 days. -/
theorem daysInMonth_le (year : Int) (month : Nat) : daysInMonth year month ≤ 31 := by
  have hmonths : ∀ leap, ∀ days ∈ monthLengths leap, days ≤ 31 := by decide
  unfold daysInMonth
  split
  · decide
  · cases hmonth : (monthLengths (isLeap year))[month - 1]? with
    | none => decide
    | some days => exact hmonths _ _ (List.mem_of_getElem? hmonth)

/-- The next year begins when the days of a year are over. -/
theorem daysBeforeYear_succ (year : Int) :
    daysBeforeYear (year + 1) = daysBeforeYear year + daysInYear year := by
  by_cases hleap : isLeap year = true
  · rw [daysInYear, if_pos hleap]
    rw [isLeap_iff] at hleap
    simp only [daysBeforeYear]
    omega
  · rw [daysInYear, if_neg hleap]
    rw [isLeap_iff] at hleap
    simp only [daysBeforeYear]
    omega

/-- Later years begin later. -/
theorem daysBeforeYear_mono {first last : Int} (h : first ≤ last) :
    daysBeforeYear first ≤ daysBeforeYear last := by
  simp only [daysBeforeYear]
  omega

/-- The days before the year that follows so many cycles, centuries, spans of
four years and single years. -/
theorem daysBeforeYear_parts (cycle : Int) {century olympiad single : Nat} (hcentury : century ≤ 3)
    (holympiad : olympiad ≤ 24) (hsingle : single ≤ 3) :
    daysBeforeYear (400 * cycle + (100 * century + 4 * olympiad + single + 1 : Nat)) =
      cycleDays * cycle +
        (centuryDays * century + olympiadDays * olympiad + 365 * single : Nat) := by
  simp only [daysBeforeYear, cycleDays, centuryDays, olympiadDays]
  omega

/-- A day of the year follows the days before it, and the year has it. The century
and the single year are at most three, or the last day would get one of its own. -/
theorem yearOfDay_spec (n : Int) :
    daysBeforeYear (yearOfDay n).1 + (yearOfDay n).2 = n ∧
      (yearOfDay n).2 < daysInYear (yearOfDay n).1 := by
  have hcycle : (0 : Int) < cycleDays := by decide
  have hlow := Int.emod_nonneg n (Int.ne_of_gt hcycle)
  have hhigh := Int.emod_lt_of_pos n hcycle
  have hsplit := Int.mul_ediv_add_emod n cycleDays
  obtain ⟨inCycle, hin⟩ := Int.eq_ofNat_of_zero_le hlow
  have hlt : inCycle < cycleDays := by omega
  simp only [yearOfDay, hin, Int.toNat_natCast]
  generalize n / cycleDays = cycle at hsplit
  generalize hc : min (inCycle / centuryDays) 3 = century
  generalize hq : (inCycle - century * centuryDays) / olympiadDays = olympiad
  generalize ho : inCycle - century * centuryDays - olympiad * olympiadDays = inOlympiad
  generalize hs : min (inOlympiad / 365) 3 = single
  simp only [cycleDays, centuryDays, olympiadDays] at hlt hc hq ho
  have hcentury : century ≤ 3 := by omega
  have holympiad : olympiad ≤ 24 := by omega
  have hsingle : single ≤ 3 := by omega
  have hrest : inCycle = 36524 * century + 1461 * olympiad + inOlympiad := by omega
  constructor
  · rw [daysBeforeYear_parts cycle hcentury holympiad hsingle, ← hsplit, hin]
    simp only [cycleDays, centuryDays, olympiadDays]
    omega
  · have hpast : inOlympiad - single * 365 < 365 ∨
        inOlympiad = 1460 ∧ single = 3 ∧ (olympiad = 24 → century = 3) := by omega
    rcases hpast with hpast | ⟨hlast, hthree, hcenturies⟩
    · exact Nat.lt_of_lt_of_le hpast (le_daysInYear _)
    · rw [daysInYear, if_pos (isLeap_iff.2 (by omega))]
      omega

/-- The year of a day between the beginnings of two years lies between them. -/
theorem yearOfDay_bounds {n first last : Int} (hfirst : daysBeforeYear first ≤ n)
    (hlast : n < daysBeforeYear last) : first ≤ (yearOfDay n).1 ∧ (yearOfDay n).1 < last := by
  obtain ⟨hyear, hpast⟩ := yearOfDay_spec n
  have hsucc := daysBeforeYear_succ (yearOfDay n).1
  constructor
  · apply Int.not_lt.1
    intro hlt
    have := daysBeforeYear_mono (Int.add_one_le_iff.2 hlt)
    omega
  · apply Int.not_le.1
    intro hle
    have := daysBeforeYear_mono hle
    omega

/-- The months before the month of a day and the day itself make up the days that
have passed, and the month has the day. -/
theorem monthOfDay_spec (lengths : List Nat) (month past : Nat) (h : past < lengths.sum) :
    ∃ i, (monthOfDay lengths month past).1 = month + i ∧ i < lengths.length ∧
      1 ≤ (monthOfDay lengths month past).2 ∧
      (monthOfDay lengths month past).2 ≤ lengths[i]?.getD 0 ∧
      (lengths.take i).sum + (monthOfDay lengths month past).2 = past + 1 := by
  induction lengths generalizing month past with
  | nil => simp at h
  | cons length rest ih =>
    simp only [List.sum_cons] at h
    unfold monthOfDay
    split
    · exact ⟨0, by simp; omega⟩
    · obtain ⟨i, hmonth, hi, hfirst, hlast, hsum⟩ := ih (month + 1) (past - length) (by omega)
      refine ⟨i + 1, by omega, by simpa using hi, hfirst, by simpa using hlast, ?_⟩
      rw [List.take_succ_cons, List.sum_cons]
      omega

/-- The calendar has the date of a day number, and the date has that number. -/
theorem ofDayNumber_spec (n : Int) :
    (Date.ofDayNumber n).exists = true ∧ (Date.ofDayNumber n).dayNumber = n := by
  obtain ⟨hyear, hpast⟩ := yearOfDay_spec n
  rw [← sum_monthLengths] at hpast
  obtain ⟨i, hmonth, hi, hfirst, hlast, hsum⟩ := monthOfDay_spec _ 1 _ hpast
  have htwelve : (monthLengths (isLeap (yearOfDay n).1)).length = 12 := rfl
  have hindex : 1 + i - 1 = i := by omega
  constructor
  · simp only [Date.exists, Date.ofDayNumber, daysInMonth, hmonth, hindex, Bool.and_eq_true,
      decide_eq_true_eq]
    rw [if_neg (by omega)]
    omega
  · simp only [Date.dayNumber, Date.ofDayNumber, daysBeforeMonth, hmonth, hindex,
      ← List.sum_eq_foldl]
    omega

/-- What it takes that the calendar has a date. -/
theorem Date.exists_iff {date : Date} :
    date.exists = true ↔ (1 ≤ date.month ∧ date.month ≤ 12) ∧
      1 ≤ date.day ∧ date.day ≤ daysInMonth date.year date.month := by
  simp only [Date.exists, Bool.and_eq_true, decide_eq_true_eq, and_assoc]

/-- The next month begins when the days of a month are over. -/
theorem daysBeforeMonth_succ (year : Int) {month : Nat} (hfirst : 1 ≤ month)
    (hlast : month ≤ 12) :
    daysBeforeMonth year (month + 1) = daysBeforeMonth year month + daysInMonth year month := by
  have hmonths : ∀ leap, ∀ month < 13, 1 ≤ month →
      ((monthLengths leap).take month).foldl (· + ·) 0 =
        ((monthLengths leap).take (month - 1)).foldl (· + ·) 0 +
          (monthLengths leap)[month - 1]?.getD 0 := by decide
  rw [daysInMonth, if_neg (by omega)]
  exact hmonths _ month (by omega) hfirst

/-- Later months begin later. -/
theorem daysBeforeMonth_mono (year : Int) {first last : Nat} (hfirst : 1 ≤ first)
    (hlast : last ≤ 13) (h : first ≤ last) :
    daysBeforeMonth year first ≤ daysBeforeMonth year last := by
  induction h with
  | refl => exact Nat.le_refl _
  | @step last hle ih =>
    rw [daysBeforeMonth_succ year (Nat.le_trans hfirst hle) (by omega)]
    exact Nat.le_add_right_of_le (ih (by omega))

/-- A date of the calendar is in its month, behind the months before it. -/
theorem Date.month_bounds {date : Date} (h : date.exists = true) :
    daysBeforeMonth date.year date.month < daysBeforeMonth date.year date.month + date.day ∧
      daysBeforeMonth date.year date.month + date.day ≤
        daysBeforeMonth date.year (date.month + 1) := by
  obtain ⟨⟨hfirst, hlast⟩, hday, hlength⟩ := Date.exists_iff.1 h
  rw [daysBeforeMonth_succ date.year hfirst hlast]
  omega

/-- A date of the calendar is in its year. -/
theorem Date.year_bounds {date : Date} (h : date.exists = true) :
    daysBeforeYear date.year ≤ date.dayNumber ∧
      date.dayNumber < daysBeforeYear (date.year + 1) := by
  obtain ⟨⟨hfirst, hlast⟩, -⟩ := Date.exists_iff.1 h
  obtain ⟨hday, hmonth⟩ := Date.month_bounds h
  have hyear : daysBeforeMonth date.year 13 = daysInYear date.year := by
    rw [← sum_monthLengths, List.sum_eq_foldl]
    rfl
  have hmonths : daysBeforeMonth date.year (date.month + 1) ≤ daysBeforeMonth date.year 13 :=
    daysBeforeMonth_mono date.year (Nat.le_add_left 1 _) (Nat.le_refl 13) (Nat.succ_le_succ hlast)
  rw [daysBeforeYear_succ, Date.dayNumber]
  omega

/-- Of two dates of the calendar the one with the earlier year comes first, then the one
with the earlier month, and then the one with the earlier day. -/
theorem Date.dayNumber_lt {date other : Date} (hdate : date.exists = true)
    (hother : other.exists = true)
    (h : date.year < other.year ∨ date.year = other.year ∧
      (date.month < other.month ∨ date.month = other.month ∧ date.day < other.day)) :
    date.dayNumber < other.dayNumber := by
  rcases h with hyear | ⟨hyear, hmonth | ⟨hmonth, hday⟩⟩
  · have hyears := daysBeforeYear_mono (Int.add_one_le_of_lt hyear)
    have hdays := (Date.year_bounds hdate).2
    have hotherDays := (Date.year_bounds hother).1
    omega
  · obtain ⟨⟨-, hlast⟩, -⟩ := Date.exists_iff.1 hother
    have hmonths := daysBeforeMonth_mono date.year (Nat.le_add_left 1 date.month) (by omega)
      (Nat.succ_le_of_lt hmonth)
    have hdays := (Date.month_bounds hdate).2
    have hotherDays := (Date.month_bounds hother).1
    rw [Date.dayNumber, Date.dayNumber, ← hyear] at *
    omega
  · rw [Date.dayNumber, Date.dayNumber, hyear, hmonth]
    omega

end FlowWatch.Calendar
