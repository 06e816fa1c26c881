import UsageLedger.Importing.Window
import UsageLedger.Proofs.FixedDigits

/-!
# The text of an instant

The text of an instant begins with its date, up to the first `T`.  Between the
years 0 and 9999 it has a fixed width, and texts compare as the instants do to
the millisecond; so the text of a later instant is never less.  A leap second
is written as second 60 of its minute and stays in its place.
-/

namespace UsageLedger.Calendar

open UsageLedger.Text

/-! ## The date in front -/

theorem Date.isDigit_or_mark_of_mem_chars
    {date : Date}
    {character : Char}
    (member : character ∈ date.chars) :
    isDigit character = true ∨ character = '-' ∨ character = '+' := by
  have inYear : ∀ year, character ∈ yearChars year →
      isDigit character = true ∨ character = '-' ∨ character = '+' := by
    intro year inside
    simp only [yearChars] at inside
    split at inside
    · rcases List.mem_cons.1 inside with mark | digit
      · exact Or.inr (Or.inl mark)
      · exact Or.inl (isDigit_of_mem_padded digit)
    · split at inside
      · rcases List.mem_cons.1 inside with mark | digit
        · exact Or.inr (Or.inr mark)
        · exact Or.inl (isDigit_of_mem_padded digit)
      · exact Or.inl (isDigit_of_mem_padded inside)
  simp only [Date.chars, List.append_assoc, List.cons_append, List.mem_append,
    List.mem_cons] at member
  rcases member with year | mark | month | mark | day
  · exact inYear date.year year
  · exact Or.inr (Or.inl mark)
  · exact Or.inl (isDigit_of_mem_padded month)
  · exact Or.inr (Or.inl mark)
  · exact Or.inl (isDigit_of_mem_padded day)

/-- The text of a date has digits and signs only. -/
theorem Date.not_mem_chars
    {mark : Char}
    (other : isDigit mark = false ∧ mark ≠ '-' ∧ mark ≠ '+')
    (date : Date) :
    mark ∉ date.chars := by
  intro member
  rcases Date.isDigit_or_mark_of_mem_chars member with digit | hyphen | plus
  · exact Bool.false_ne_true (other.1.symm.trans digit)
  · exact other.2.1 hyphen
  · exact other.2.2 plus

/-- The text of an instant up to the first `T` is the text of its date. -/
theorem dateOfTimestamp_text (instant : Instant) :
    dateOfTimestamp instant.text = instant.date.text := by
  have noMark : ∀ character ∈ instant.date.chars, (character != 'T') = true := by
    intro character member
    rw [bne_iff_ne]
    rintro rfl
    exact Date.not_mem_chars (by decide) instant.date member
  show String.ofList (beforeTimeMark (String.ofList instant.chars).toList) = _
  rw [String.toList_ofList]
  simp only [beforeTimeMark, Instant.chars, List.append_assoc, List.cons_append]
  rw [List.takeWhile_append_of_pos noMark, List.takeWhile_cons_of_neg (by decide),
    List.append_nil]
  rfl

/-! ## The order of dates -/

theorem daysBeforeMonth_mono
    {leap month later : Nat}
    (leapDay : leap ≤ 1)
    (order : month ≤ later)
    (inYear : later ≤ 13) :
    daysBeforeMonth leap month ≤ daysBeforeMonth leap later := by
  have all : ∀ (leap : Fin 2) (later month : Fin 14), month ≤ later →
      daysBeforeMonth leap month ≤ daysBeforeMonth leap later := by
    decide
  exact all ⟨leap, by omega⟩ ⟨later, by omega⟩ ⟨month, by omega⟩ order

theorem daysBeforeYear_mono {year later : Int} (order : year ≤ later) :
    daysBeforeYear year ≤ daysBeforeYear later := by
  simp only [daysBeforeYear]
  omega

/-- The days of a year before a date, which stay below the first of the next month. -/
theorem Date.dayOfYear_lt_month (date : Date) :
    daysBeforeMonth (leapDay date.year) date.month + (date.day - 1) <
      daysBeforeMonth (leapDay date.year) (date.month + 1) := by
  have day_pos := date.day_pos
  have day_le := date.day_le
  simp only [daysInMonth] at day_le
  omega

theorem Date.dayOfYear_lt_year (date : Date) :
    daysBeforeMonth (leapDay date.year) date.month + (date.day - 1) <
      365 + leapDay date.year := by
  have inMonth := date.dayOfYear_lt_month
  have inYear := daysBeforeMonth_mono (leapDay_le_one date.year)
    (Nat.succ_le_succ date.month_le) (Nat.le_refl 13)
  exact Nat.lt_of_lt_of_le inMonth inYear

/-- A date that is written before another comes before it. -/
theorem Date.dayNumber_lt_of_parts
    (first second : Date)
    (before : first.year < second.year ∨ first.year = second.year ∧
      (first.month < second.month ∨
        first.month = second.month ∧ first.day < second.day)) :
    first.dayNumber < second.dayNumber := by
  have firstDay := first.day_pos
  rcases before with year | ⟨year, month | ⟨month, day⟩⟩
  · have nextYear := daysBeforeYear_mono (Int.add_one_le_of_lt year)
    rw [daysBeforeYear_succ] at nextYear
    have inYear := first.dayOfYear_lt_year
    simp only [Date.dayNumber]
    omega
  · have nextMonth : daysBeforeMonth (leapDay second.year) (first.month + 1) ≤
        daysBeforeMonth (leapDay second.year) second.month :=
      daysBeforeMonth_mono (leapDay_le_one second.year) month
        (Nat.le_succ_of_le second.month_le)
    have inMonth := first.dayOfYear_lt_month
    rw [year] at inMonth
    simp only [Date.dayNumber, year]
    omega
  · simp only [Date.dayNumber, year, month]
    omega

/-- A day a lookback earlier is in the same year or in the one before it. -/
theorem Date.year_of_lookback
    {date earlier : Date}
    (notBefore : date.dayNumber ≤ earlier.dayNumber + lookbackDays)
    (before : earlier.dayNumber < date.dayNumber) :
    date.year ≤ earlier.year + 1 ∧ earlier.year ≤ date.year := by
  rw [lookbackDays] at notBefore
  constructor
  · by_contra apart
    -- A whole year lies between the two.
    have years := daysBeforeYear_mono (show earlier.year + 1 + 1 ≤ date.year by omega)
    have middle := daysBeforeYear_succ (earlier.year + 1)
    have next := daysBeforeYear_succ earlier.year
    have inYear := earlier.dayOfYear_lt_year
    simp only [Date.dayNumber] at notBefore before
    omega
  · by_contra after
    have later := Date.dayNumber_lt_of_parts date earlier (Or.inl (by omega))
    omega

/-- A full import can look back in every year of the calendar but the first one. -/
theorem canLookBack_of_year
    {now : Instant}
    (lower : -262142 ≤ now.date.year)
    (upper : now.date.year ≤ 262142) :
    canLookBack now = true := by
  have today : now.date.dayNumber = now.second / secondsPerDay := Date.dayNumber_ofDayNumber _
  have first : (now.minusDays lookbackDays).date.dayNumber =
      (now.afterLeap.second - lookbackDays * secondsPerDay) / secondsPerDay :=
    Date.dayNumber_ofDayNumber _
  have leap : now.second ≤ now.afterLeap.second ∧ now.afterLeap.second ≤ now.second + 1 := by
    unfold Instant.afterLeap
    simp only
    split <;> omega
  have days : now.date.dayNumber ≤
        (now.minusDays lookbackDays).date.dayNumber + lookbackDays ∧
      (now.minusDays lookbackDays).date.dayNumber < now.date.dayNumber := by
    rw [today, first]
    simp only [lookbackDays, secondsPerDay]
    omega
  have years := Date.year_of_lookback days.1 days.2
  simp only [canLookBack, yearInRange, Bool.and_eq_true, decide_eq_true_eq]
  omega

theorem Date.day_fits (date : Date) : date.day < 10 ^ 2 := by
  have all : ∀ (leap : Fin 2) (month : Fin 13),
      daysBeforeMonth leap (month + 1) - daysBeforeMonth leap month < 10 ^ 2 := by
    decide
  have leap := leapDay_le_one date.year
  have month := date.month_le
  exact Nat.lt_of_le_of_lt date.day_le
    (all ⟨leapDay date.year, by omega⟩ ⟨date.month, by omega⟩)

theorem Date.month_fits (date : Date) : date.month < 10 ^ 2 := by
  have month := date.month_le
  omega

/-- Whether a date is written with a year of four digits and no sign. -/
def Date.IsPlain (date : Date) : Prop :=
  0 ≤ date.year ∧ date.year ≤ 9999

instance (date : Date) : Decidable date.IsPlain :=
  inferInstanceAs (Decidable (_ ∧ _))

theorem Date.IsPlain.yearChars_eq {date : Date} (plain : date.IsPlain) :
    yearChars date.year = padded 4 date.year.natAbs := by
  rcases plain with ⟨lower, upper⟩
  rw [yearChars, if_neg (by omega), if_neg (by omega)]

theorem Date.IsPlain.year_fits {date : Date} (plain : date.IsPlain) :
    date.year.natAbs < 10 ^ 4 := by
  rcases plain with ⟨lower, upper⟩
  omega

/-- Dates with plain years are written with one width and in their order. -/
theorem Date.chars_append_lt_iff
    {first second : Date}
    (firstPlain : first.IsPlain)
    (secondPlain : second.IsPlain)
    (firstRest secondRest : List Char) :
    first.chars ++ firstRest < second.chars ++ secondRest ↔
      first.dayNumber < second.dayNumber ∨
        first.dayNumber = second.dayNumber ∧ firstRest < secondRest := by
  have byParts : first.chars ++ firstRest < second.chars ++ secondRest ↔
      first.year.natAbs < second.year.natAbs ∨
        first.year.natAbs = second.year.natAbs ∧
          (first.month < second.month ∨ first.month = second.month ∧
            (first.day < second.day ∨
              first.day = second.day ∧ firstRest < secondRest)) := by
    simp only [Date.chars, List.append_assoc, List.cons_append,
      firstPlain.yearChars_eq, secondPlain.yearChars_eq,
      padded_append_lt_iff firstPlain.year_fits secondPlain.year_fits,
      padded_append_lt_iff first.month_fits second.month_fits,
      padded_append_lt_iff first.day_fits second.day_fits,
      cons_lt_cons_iff_of_eq]
  have firstBefore := Date.dayNumber_lt_of_parts first second
  have secondBefore := Date.dayNumber_lt_of_parts second first
  have same : first.year = second.year → first.month = second.month →
      first.day = second.day → first.dayNumber = second.dayNumber := by
    intro year month day
    simp only [Date.dayNumber, year, month, day]
  rcases firstPlain with ⟨firstYear, -⟩
  rcases secondPlain with ⟨secondYear, -⟩
  rw [byParts]
  grind

/-! ## The order of instants -/

theorem Instant.secondOfDay_lt (instant : Instant) :
    instant.secondOfDay < 86400 := by
  simp only [Instant.secondOfDay, secondsPerDay]
  omega

theorem Instant.shownSecond_fits (instant : Instant) :
    instant.shownSecond < 10 ^ 2 := by
  have nano_lt := instant.nano_lt
  simp only [Instant.shownSecond, nanosPerSecond] at *
  omega

theorem Instant.shownMilli_fits (instant : Instant) :
    instant.shownMilli < 10 ^ 3 := by
  simp only [Instant.shownMilli, nanosPerSecond]
  omega

/-- Quotients by sixty decide, and remainders where the quotients are equal. -/
theorem sixtieths_lt_iff (first second : Nat) (further : Prop) :
    (first / 60 < second / 60 ∨ first / 60 = second / 60 ∧
      (first % 60 < second % 60 ∨ first % 60 = second % 60 ∧ further)) ↔
        first < second ∨ first = second ∧ further := by
  by_cases holds : further
  · simp only [holds, and_true]
    omega
  · simp only [holds, and_false, or_false]
    omega

/-- One for a leap second, which comes after the second it belongs to, and otherwise zero. -/
def Instant.leap (instant : Instant) : Nat :=
  instant.nano / nanosPerSecond

/-- Within a minute seconds are shown in their order, a leap second after the second 59. -/
theorem Instant.shownSecond_lt_iff (first second : Instant) (further : Prop) :
    (first.shownSecond < second.shownSecond ∨
      first.shownSecond = second.shownSecond ∧ further) ↔
        first.secondOfDay % 60 < second.secondOfDay % 60 ∨
          first.secondOfDay % 60 = second.secondOfDay % 60 ∧
            (first.leap < second.leap ∨ first.leap = second.leap ∧ further) := by
  -- A leap second follows second 59, the last one of its minute.
  have leapLast : ∀ instant : Instant, nanosPerSecond ≤ instant.nano →
      instant.secondOfDay % 60 = 59 := by
    intro instant leap
    have last := instant.leap_last leap
    simp only [Instant.secondOfDay, secondsPerDay]
    omega
  have firstLast := leapLast first
  have secondLast := leapLast second
  have firstNano := first.nano_lt
  have secondNano := second.nano_lt
  simp only [Instant.shownSecond, Instant.leap, nanosPerSecond] at *
  by_cases holds : further
  · simp only [holds, and_true]
    omega
  · simp only [holds, and_false, or_false]
    omega

/-- Days decide, and the seconds of a day where the days are equal. -/
theorem Instant.secondOfDay_lt_iff (first second : Instant) (further : Prop) :
    (first.date.dayNumber < second.date.dayNumber ∨
      first.date.dayNumber = second.date.dayNumber ∧
        (first.secondOfDay < second.secondOfDay ∨
          first.secondOfDay = second.secondOfDay ∧ further)) ↔
      first.second < second.second ∨ first.second = second.second ∧ further := by
  simp only [Instant.date, Date.dayNumber_ofDayNumber, Instant.secondOfDay,
    secondsPerDay]
  by_cases holds : further
  · simp only [holds, and_true]
    omega
  · simp only [holds, and_false, or_false]
    omega

/-- The characters of an instant up to its second. -/
def Instant.wholeChars (instant : Instant) : List Char :=
  instant.date.chars ++ 'T' :: padded 2 (instant.secondOfDay / 3600) ++
    ':' :: padded 2 (instant.secondOfDay / 60 % 60) ++
    ':' :: padded 2 instant.shownSecond

theorem Instant.chars_eq (instant : Instant) :
    instant.chars =
      instant.wholeChars ++ ('.' :: padded 3 instant.shownMilli ++ ['Z']) := by
  simp only [Instant.chars, Instant.wholeChars, List.append_assoc, List.cons_append]

/-- Texts that go on after the second compare by the second, and then by how they go on. -/
theorem Instant.wholeChars_append_lt_iff
    {first second : Instant}
    (firstPlain : first.date.IsPlain)
    (secondPlain : second.date.IsPlain)
    (firstRest secondRest : List Char) :
    first.wholeChars ++ firstRest < second.wholeChars ++ secondRest ↔
      first.second < second.second ∨ first.second = second.second ∧
        (first.leap < second.leap ∨
          first.leap = second.leap ∧ firstRest < secondRest) := by
  have firstOfDay := first.secondOfDay_lt
  have secondOfDay := second.secondOfDay_lt
  have hour : ∀ {ofDay : Nat}, ofDay < 86400 → ofDay / 3600 < 10 ^ 2 := by
    intro ofDay less
    omega
  have minute : ∀ ofDay : Nat, ofDay / 60 % 60 < 10 ^ 2 := by
    intro ofDay
    omega
  have hours : ∀ ofDay : Nat, ofDay / 3600 = ofDay / 60 / 60 :=
    fun ofDay => (Nat.div_div_eq_div_mul ofDay 60 60).symm
  simp only [Instant.wholeChars, List.append_assoc, List.cons_append,
    Date.chars_append_lt_iff firstPlain secondPlain,
    padded_append_lt_iff (hour firstOfDay) (hour secondOfDay),
    padded_append_lt_iff (minute _) (minute _),
    padded_append_lt_iff first.shownSecond_fits second.shownSecond_fits,
    cons_lt_cons_iff_of_eq]
  rw [hours, hours, Instant.shownSecond_lt_iff, sixtieths_lt_iff, sixtieths_lt_iff,
    Instant.secondOfDay_lt_iff]

/-- Whether an instant is earlier than another, both cut to milliseconds. -/
def Instant.BeforeMilli (first second : Instant) : Prop :=
  first.second < second.second ∨
    first.second = second.second ∧ first.milliOfSecond < second.milliOfSecond

instance (first second : Instant) : Decidable (first.BeforeMilli second) :=
  inferInstanceAs (Decidable (_ ∨ _))

/-- A plain text is less than another if its instant is earlier, cut to milliseconds. -/
theorem Instant.chars_lt_iff
    {first second : Instant}
    (firstPlain : first.date.IsPlain)
    (secondPlain : second.date.IsPlain) :
    first.chars < second.chars ↔ first.BeforeMilli second := by
  have millis :
      (first.leap < second.leap ∨
        first.leap = second.leap ∧ first.shownMilli < second.shownMilli) ↔
          first.milliOfSecond < second.milliOfSecond := by
    simp only [Instant.leap, Instant.shownMilli, Instant.milliOfSecond, nanosPerSecond]
    omega
  simp only [Instant.chars_eq, Instant.wholeChars_append_lt_iff firstPlain secondPlain,
    List.cons_append, cons_lt_cons_iff_of_eq,
    padded_append_lt_iff first.shownMilli_fits second.shownMilli_fits,
    List.lt_irrefl, and_false, or_false, millis, Instant.BeforeMilli]

theorem Instant.text_lt_text_iff
    {first second : Instant}
    (firstPlain : first.date.IsPlain)
    (secondPlain : second.date.IsPlain) :
    first.text < second.text ↔ first.BeforeMilli second := by
  show (String.ofList first.chars).toList < (String.ofList second.chars).toList ↔ _
  rw [String.toList_ofList, String.toList_ofList, Instant.chars_lt_iff firstPlain secondPlain]

theorem Instant.le_iff {first second : Instant} :
    first ≤ second ↔ first.second < second.second ∨
      first.second = second.second ∧ first.nano ≤ second.nano := by
  show first.isLE second = true ↔ _
  simp only [Instant.isLE, Bool.or_eq_true, Bool.and_eq_true, decide_eq_true_eq, beq_iff_eq]

/-- The text of a later instant is never less. -/
theorem Instant.text_le_text
    {first second : Instant}
    (firstPlain : first.date.IsPlain)
    (secondPlain : second.date.IsPlain)
    (order : first ≤ second) :
    first.text ≤ second.text := by
  rw [Instant.le_iff] at order
  rw [← String.not_lt, Instant.text_lt_text_iff secondPlain firstPlain, Instant.BeforeMilli,
    Instant.milliOfSecond, Instant.milliOfSecond]
  omega

end UsageLedger.Calendar
