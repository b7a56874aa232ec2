import InstallMatrix.Timestamp
import Mathlib.Tactic.IntervalCases

/-!
# `InstallMatrix.Proofs.Timestamp.Calendar`: days and dates

The calendar repeats after 400 years, which are an era of 146097 days. Years are counted from
March here, so that the leap day is the last one of its year and the days before a month are
the same in every year.

* `era_cases`: a day is one of the days of a year of an era.
* `daysFromCivil_civilFromDays`: the date of a day is the date of no other day.
* `civilFromDays_date`: the date of a day is one there is.
-/

set_option autoImplicit false

namespace InstallMatrix.Timestamp

/-! ### The years of an era -/

/-- The days of an era before its year `y`. Every fourth year has one more, but for the centuries
inside the era. -/
def daysBefore (y : Nat) : Nat := 365 * y + y / 4 - y / 100

/-- The days of an era up to a day, without the leap days among them. Divided by 365 they give the
year of the day. -/
def commonDays (day : Nat) : Nat := day - day / 1460 + day / 36524 - day / 146096

/-- Later years have more days before them. -/
theorem commonDays_mono {a b : Nat} (le : a ≤ b) : commonDays a ≤ commonDays b := by
  have nested (n : Nat) : n / 146096 = n / 36524 / 4 := by omega
  have centuries : a / 36524 ≤ b / 36524 := Nat.div_le_div_right le
  have years : a - a / 1460 ≤ b - b / 1460 := by omega
  have := nested a
  have := nested b
  simp only [commonDays]
  omega

/-- The common days reach a multiple of 365 on the first day of each year. -/
theorem commonDays_daysBefore :
    ∀ y < 400, 365 * y ≤ commonDays (daysBefore y) ∧
      (y ≠ 0 → commonDays (daysBefore y - 1) < 365 * y) := by
  decide +kernel

/-- The number of days of the year `y` of an era. Its last day is a leap day if the year after
it is a leap year. -/
def yearLength (y : Nat) : Nat :=
  if (y + 1) % 4 = 0 ∧ ((y + 1) % 100 ≠ 0 ∨ (y + 1) % 400 = 0) then 366 else 365

/-- A year ends where the next one begins; the last year of an era has one day more. -/
theorem daysBefore_succ (y : Nat) : daysBefore (y + 1) ≤ daysBefore y + yearLength y := by
  have quarters : (y + 1) / 4 ≤ y / 4 + 1 := by omega
  have centuries : y / 100 ≤ (y + 1) / 100 := by omega
  by_cases leap : (y + 1) % 4 = 0 ∧ ((y + 1) % 100 ≠ 0 ∨ (y + 1) % 400 = 0)
  · rw [yearLength, if_pos leap, daysBefore, daysBefore]
    omega
  · rw [yearLength, if_neg leap, daysBefore, daysBefore]
    omega

/-- The common days tell the year a day is in. They grow with the day, so it is enough to look at
the first day of that year and at the first day of the next. -/
theorem year_of_commonDays {day : Nat} (inEra : day < 146097) :
    commonDays day / 365 < 400 ∧ daysBefore (commonDays day / 365) ≤ day ∧
      day < daysBefore (commonDays day / 365) + yearLength (commonDays day / 365) := by
  have bound : commonDays day ≤ commonDays 146096 := commonDays_mono (by omega)
  have last : commonDays 146096 = 145999 := rfl
  generalize year : commonDays day / 365 = y
  have inYears : y < 400 := by omega
  refine ⟨inYears, ?_, ?_⟩
  · -- Before the first day of the year there would be fewer common days.
    by_contra before
    have first : y ≠ 0 := by
      rintro rfl
      exact before (Nat.zero_le _)
    have := (commonDays_daysBefore y inYears).2 first
    have := commonDays_mono (show day ≤ daysBefore y - 1 by omega)
    omega
  · -- From the first day of the next year on there would be more.
    by_cases lastYear : y = 399
    · subst lastYear
      exact inEra
    · refine Nat.lt_of_lt_of_le (Nat.lt_of_not_le fun after => ?_) (daysBefore_succ y)
      have := (commonDays_daysBefore (y + 1) (by omega)).1
      have := commonDays_mono after
      omega

/-! ### Dates -/

/-- The month of a day of a year that begins in March, counted from March. -/
def monthFromMarch (dayOfYear : Nat) : Nat := (5 * dayOfYear + 2) / 153

/-- The date of a day of a year of an era. -/
def dateOf (era : Int) (y dayOfYear : Nat) : Int × Nat × Nat :=
  let m := monthFromMarch dayOfYear
  let month := if m < 10 then m + 3 else m - 9
  (if month ≤ 2 then y + era * 400 + 1 else y + era * 400, month,
    dayOfYear - (153 * m + 2) / 5 + 1)

/-- Every day is a day of a year of an era, and its date is found from these. All that follows is
about one era. -/
theorem era_cases (days : Int) :
    ∃ (era : Int) (y dayOfYear : Nat), y < 400 ∧ dayOfYear < yearLength y ∧
      days = era * 146097 + (daysBefore y + dayOfYear : Nat) - 719468 ∧
      civilFromDays days = dateOf era y dayOfYear := by
  have divided : (days + 719468).fdiv 146097 = (days + 719468) / 146097 :=
    Int.fdiv_eq_ediv_of_nonneg _ (by decide)
  generalize era_eq : (days + 719468).fdiv 146097 = era at divided
  generalize day_eq : (days + 719468 - era * 146097).toNat = day
  have inEra : day < 146097 := by omega
  obtain ⟨inYears, after, before⟩ := year_of_commonDays inEra
  refine ⟨era, commonDays day / 365, day - daysBefore (commonDays day / 365), inYears, by omega,
    by omega, ?_⟩
  simp only [civilFromDays, era_eq, day_eq]
  rfl

/-- The last day of a year that begins in March is a leap day just if the year that begins in
January before it is a leap year. -/
theorem yearLength_eq (era : Int) (y : Nat) :
    yearLength y = if isLeapYear (y + era * 400 + 1) then 366 else 365 := by
  have cut (n : Int) (positive : 0 ≤ n) (z : Int) : z.fmod n = z % n :=
    Int.fmod_eq_emod_of_nonneg z positive
  have leap : isLeapYear (y + era * 400 + 1) = true ↔
      (y + 1) % 4 = 0 ∧ ((y + 1) % 100 ≠ 0 ∨ (y + 1) % 400 = 0) := by
    simp only [isLeapYear, cut 4 (by decide), cut 100 (by decide), cut 400 (by decide),
      Bool.and_eq_true, Bool.or_eq_true, beq_iff_eq, bne_iff_ne]
    omega
  simp only [yearLength, leap]

/-- No year is longer than a leap year. -/
theorem yearLength_le (y : Nat) : yearLength y ≤ 366 := by
  rw [yearLength]
  split <;> decide

/-- No month has more than 31 days. -/
theorem daysInMonth_le (year : Int) (month : Nat) : daysInMonth year month ≤ 31 := by
  rw [daysInMonth]
  split_ifs <;> decide

section Date

variable {era : Int} {y dayOfYear : Nat} (inYear : dayOfYear < yearLength y)

include inYear

/-- Counted from March, a day of the year is in one of twelve months. -/
theorem monthFromMarch_le : monthFromMarch dayOfYear ≤ 11 := by
  have := yearLength_le y
  rw [monthFromMarch]
  omega

/-- Seen from March, the date of a day is in the year it was found in. January and February count
to the year before. -/
theorem dateOf_year :
    (if (dateOf era y dayOfYear).2.1 ≤ 2 then (dateOf era y dayOfYear).1 - 1
      else (dateOf era y dayOfYear).1) = y + era * 400 := by
  have inMonths := monthFromMarch_le inYear
  simp only [dateOf]
  split <;> omega

/-- The month of a date is the one counted from March. -/
theorem dateOf_month : ((dateOf era y dayOfYear).2.1 + 9) % 12 = monthFromMarch dayOfYear := by
  have inMonths := monthFromMarch_le inYear
  simp only [dateOf]
  split <;> omega

/-- The date of a day is counted back to that day. Years begin in March here, so that the leap day
comes last. -/
theorem daysFromCivil_dateOf (inYears : y < 400) :
    daysFromCivil (dateOf era y dayOfYear).1 (dateOf era y dayOfYear).2.1
        (dateOf era y dayOfYear).2.2
      = era * 146097 + (daysBefore y + dayOfYear : Nat) - 719468 := by
  have cut (n : Int) (positive : 0 ≤ n) (z : Int) : z.fdiv n = z / n :=
    Int.fdiv_eq_ediv_of_nonneg z positive
  have day : (dateOf era y dayOfYear).2.2
      = dayOfYear - (153 * monthFromMarch dayOfYear + 2) / 5 + 1 := rfl
  -- A day is counted from the start of its month.
  have beforeMonth : (153 * monthFromMarch dayOfYear + 2) / 5 ≤ dayOfYear := by
    rw [monthFromMarch]
    omega
  have eraOf : ((y : Int) + era * 400) / 400 = era := by omega
  have yearOfEra : (y : Int) + era * 400 - era * 400 = y := by omega
  simp only [daysFromCivil, dateOf_year inYear, dateOf_month inYear, day, cut 4 (by decide),
    cut 100 (by decide), cut 400 (by decide), eraOf, yearOfEra, daysBefore]
  omega

/-- A month has as many days as the calendar gives it. Only the last month counted from March
depends on the year. -/
theorem dateOf_day_le :
    (dateOf era y dayOfYear).2.2
      ≤ daysInMonth (dateOf era y dayOfYear).1 (dateOf era y dayOfYear).2.1 := by
  have inMonths := monthFromMarch_le inYear
  have length := yearLength_eq era y
  simp only [dateOf]
  generalize month : monthFromMarch dayOfYear = m at inMonths
  rw [monthFromMarch] at month
  by_cases february : m = 11
  · subst february
    show dayOfYear - 337 + 1 ≤ daysInMonth (y + era * 400 + 1) 2
    rw [daysInMonth, if_pos rfl]
    split at length
    · next leap =>
      rw [if_pos leap]
      omega
    · next common =>
      rw [if_neg common]
      omega
  · -- Every other month has as many days in all years.
    interval_cases m <;> simp [daysInMonth] <;> omega

end Date

/-- The date of a day tells which day it is. A day is split into its era, its year and the day of
that year, and each part is counted back. -/
theorem daysFromCivil_civilFromDays (days : Int) :
    daysFromCivil (civilFromDays days).1 (civilFromDays days).2.1 (civilFromDays days).2.2
      = days := by
  obtain ⟨era, y, dayOfYear, inYears, inYear, whole, date⟩ := era_cases days
  rw [date, whole]
  exact daysFromCivil_dateOf inYear inYears

/-- The date of a day is one there is: a month of the twelve, and a day of that month. -/
theorem civilFromDays_date (days : Int) :
    (civilFromDays days).2.1 ≠ 0 ∧ (civilFromDays days).2.1 ≤ 12 ∧ (civilFromDays days).2.2 ≠ 0 ∧
      (civilFromDays days).2.2
        ≤ daysInMonth (civilFromDays days).1 (civilFromDays days).2.1 := by
  obtain ⟨era, y, dayOfYear, inYears, inYear, -, date⟩ := era_cases days
  have inMonths := monthFromMarch_le inYear
  rw [date]
  refine ⟨?_, ?_, Nat.succ_ne_zero _, dateOf_day_le inYear⟩ <;>
  · simp only [dateOf]
    split <;> omega

end InstallMatrix.Timestamp
