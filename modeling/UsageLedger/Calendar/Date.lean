/-!
# Dates of the Gregorian calendar

A date is a year, a month and a day that exist, in the calendar extended to
all years before and after.  `Date.dayNumber` counts days from 1970-01-01 and
`Date.ofDayNumber` is its inverse: the year is found from the mean length of a
year and corrected by at most one, the month from the length of the months
before it.
-/

namespace UsageLedger.Calendar

/-- Whether a year has a 29th of February. -/
def isLeapYear (year : Int) : Bool :=
  year % 4 == 0 && (year % 100 != 0 || year % 400 == 0)

/-- One day in a leap year, none in another. -/
def leapDay (year : Int) : Nat :=
  if isLeapYear year then 1 else 0

/-- The days of a year before the first of a month. -/
def daysBeforeMonth (leap : Nat) : (month : Nat) → Nat
  | 0 | 1 => 0
  | 2 => 31
  | 3 => 59 + leap
  | 4 => 90 + leap
  | 5 => 120 + leap
  | 6 => 151 + leap
  | 7 => 181 + leap
  | 8 => 212 + leap
  | 9 => 243 + leap
  | 10 => 273 + leap
  | 11 => 304 + leap
  | 12 => 334 + leap
  | _ => 365 + leap

/-- The number of days in a month. -/
def daysInMonth (year : Int) (month : Nat) : Nat :=
  daysBeforeMonth (leapDay year) (month + 1) -
    daysBeforeMonth (leapDay year) month

/-- A date that exists. -/
@[ext]
structure Date where
  year : Int
  month : Nat
  day : Nat
  month_pos : 1 ≤ month
  month_le : month ≤ 12
  day_pos : 1 ≤ day
  day_le : day ≤ daysInMonth year month
  deriving DecidableEq

/-- The date with these parts, if there is one. -/
def Date.ofParts? (year : Int) (month day : Nat) : Option Date :=
  if exists_ : (1 ≤ month ∧ month ≤ 12) ∧ 1 ≤ day ∧ day ≤ daysInMonth year month then
    some ⟨year, month, day, exists_.1.1, exists_.1.2, exists_.2.1, exists_.2.2⟩
  else none

/-- The days from 0001-01-01 to the first of January of a year. -/
def daysBeforeYear (year : Int) : Int :=
  365 * (year - 1) + (year - 1) / 4 - (year - 1) / 100 + (year - 1) / 400

/-- The days from 0001-01-01 to 1970-01-01. -/
def epochDay : Int := 719162

/-- The days from 1970-01-01, negative for earlier dates. -/
def Date.dayNumber (date : Date) : Int :=
  daysBeforeYear date.year + daysBeforeMonth (leapDay date.year) date.month +
    (date.day - 1 : Nat) - epochDay

/-- The year that holds a day counted from 0001-01-01. -/
def yearOfDay (day : Int) : Int :=
  let estimate := 400 * day / 146097 + 1
  if daysBeforeYear (estimate + 1) ≤ day then estimate + 1
  else if daysBeforeYear estimate ≤ day then estimate
  else estimate - 1

/-- The month that holds a day of the year counted from zero. -/
def monthOfDay (leap day : Nat) : Nat :=
  if day < 31 then 1
  else if day < 59 + leap then 2
  else if day < 90 + leap then 3
  else if day < 120 + leap then 4
  else if day < 151 + leap then 5
  else if day < 181 + leap then 6
  else if day < 212 + leap then 7
  else if day < 243 + leap then 8
  else if day < 273 + leap then 9
  else if day < 304 + leap then 10
  else if day < 334 + leap then 11
  else 12

theorem leapDay_le_one (year : Int) : leapDay year ≤ 1 := by
  unfold leapDay
  split <;> omega

/-- A year is 365 days long, or 366 with a leap day. -/
theorem daysBeforeYear_succ (year : Int) :
    daysBeforeYear (year + 1) = daysBeforeYear year + 365 + leapDay year := by
  simp only [daysBeforeYear, leapDay, isLeapYear, Bool.and_eq_true, Bool.or_eq_true,
    beq_iff_eq, bne_iff_ne, ne_eq]
  split
  · omega
  · omega

/-- The year found for a day starts on that day or before it. -/
theorem daysBeforeYear_yearOfDay_le (day : Int) :
    daysBeforeYear (yearOfDay day) ≤ day := by
  unfold yearOfDay
  simp only
  split
  · assumption
  · split
    · assumption
    · unfold daysBeforeYear at *
      omega

/-- The year after the one found for a day starts after that day. -/
theorem lt_daysBeforeYear_yearOfDay_succ (day : Int) :
    day < daysBeforeYear (yearOfDay day + 1) := by
  unfold yearOfDay
  simp only
  split
  · unfold daysBeforeYear at *
    omega
  · split
    · omega
    · have simplified : 400 * day / 146097 + 1 - 1 + 1 = 400 * day / 146097 + 1 := by
        omega
      rw [simplified]
      omega

/-- The month found for a day of the year, with the bounds that place the day in it. -/
theorem monthOfDay_spec
    {leap day : Nat}
    (_ : leap ≤ 1)
    (_ : day < 365 + leap) :
    1 ≤ monthOfDay leap day ∧ monthOfDay leap day ≤ 12 ∧
      daysBeforeMonth leap (monthOfDay leap day) ≤ day ∧
      day < daysBeforeMonth leap (monthOfDay leap day + 1) := by
  fun_cases monthOfDay leap day
  all_goals
    simp only [daysBeforeMonth, Nat.reduceAdd]
    omega

/-- The day of the year of a day counted from 0001-01-01, from zero. -/
def dayOfYear (day : Int) : Nat :=
  (day - daysBeforeYear (yearOfDay day)).toNat

theorem dayOfYear_lt (day : Int) :
    dayOfYear day < 365 + leapDay (yearOfDay day) := by
  have lower := daysBeforeYear_yearOfDay_le day
  have upper := lt_daysBeforeYear_yearOfDay_succ day
  rw [daysBeforeYear_succ] at upper
  unfold dayOfYear
  omega

/-- The month of a day counted from 0001-01-01. -/
def monthAt (day : Int) : Nat :=
  monthOfDay (leapDay (yearOfDay day)) (dayOfYear day)

/-- The day counted from 0001-01-01 lies in the month found for it. -/
theorem monthAt_spec (day : Int) :
    1 ≤ monthAt day ∧ monthAt day ≤ 12 ∧
      daysBeforeMonth (leapDay (yearOfDay day)) (monthAt day) ≤ dayOfYear day ∧
      dayOfYear day <
        daysBeforeMonth (leapDay (yearOfDay day)) (monthAt day + 1) :=
  monthOfDay_spec (leapDay_le_one (yearOfDay day)) (dayOfYear_lt day)

/-- The date of a day counted from 0001-01-01. -/
def Date.ofOrdinal (day : Int) : Date where
  year := yearOfDay day
  month := monthAt day
  day :=
    dayOfYear day - daysBeforeMonth (leapDay (yearOfDay day)) (monthAt day) + 1
  month_pos := (monthAt_spec day).1
  month_le := (monthAt_spec day).2.1
  day_pos := by omega
  day_le := by
    have inside := (monthAt_spec day).2.2
    unfold daysInMonth
    omega

/-- The date a number of days after 1970-01-01. -/
def Date.ofDayNumber (number : Int) : Date :=
  Date.ofOrdinal (number + epochDay)

/-- Turning a number into a date and back gives the number. -/
theorem Date.dayNumber_ofDayNumber (number : Int) :
    (Date.ofDayNumber number).dayNumber = number := by
  have lower := daysBeforeYear_yearOfDay_le (number + epochDay)
  have inside := (monthAt_spec (number + epochDay)).2.2
  have position :
      (dayOfYear (number + epochDay) : Int) =
        number + epochDay - daysBeforeYear (yearOfDay (number + epochDay)) := by
    unfold dayOfYear
    omega
  simp only [Date.ofDayNumber, Date.ofOrdinal, Date.dayNumber]
  omega

/-- Calendar order: by year, then month, then day. -/
def Date.isLE (first second : Date) : Bool :=
  first.year < second.year ||
    (first.year == second.year &&
      (first.month < second.month ||
        (first.month == second.month && first.day ≤ second.day)))

instance : LE Date := ⟨fun first second => first.isLE second = true⟩

instance (first second : Date) : Decidable (first ≤ second) :=
  inferInstanceAs (Decidable (_ = true))

end UsageLedger.Calendar
