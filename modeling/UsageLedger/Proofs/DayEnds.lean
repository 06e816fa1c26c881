import UsageLedger.Proofs.DayBounds

/-!
# Starts at the ends of a day

A start is compared with the bounds of a day as text, and a text need not
stand where its time is: `T23:59:59Z` comes after `T23:59:59.999Z`, and
`T00:00:00.0000Z` before `T00:00:00.000Z`.  `startsEarly` and `startsLate` are
the starts that are written with a day and yet are outside of its bounds.

For times in universal time `WrittenTime.startsEarly_text_iff` and
`WrittenTime.startsLate_text_iff` say how these are written.
-/

namespace UsageLedger

open UsageLedger.Calendar
open UsageLedger.Service
open UsageLedger.Store
open UsageLedger.Text

namespace Calendar

/-! ## Places at the ends of a day -/

theorem digit_bounds {digit : Char} (isOne : isDigit digit = true) :
    ¬ digit < '0' ∧ ¬ '9' < digit ∧ digit < 'Z' := by
  simp only [isDigit, Bool.and_eq_true, decide_eq_true_eq] at isOne
  rcases isOne with ⟨lower, upper⟩
  exact ⟨not_lt.2 lower, not_lt.2 upper, lt_of_le_of_lt upper (by decide)⟩

section Places

variable {places : List Char} (digits : ∀ place ∈ places, isDigit place = true)

include digits

theorem places_lt_zero_cons_iff (others : List Char) :
    places ++ ['Z'] < '0' :: others ↔
      ∃ more, places = '0' :: more ∧ more ++ ['Z'] < others := by
  cases places with
  | nil =>
      rw [List.nil_append, List.cons_lt_cons_iff]
      simp
  | cons place more =>
      have notBelow := (digit_bounds (digits place List.mem_cons_self)).1
      rw [List.cons_append, List.cons_lt_cons_iff]
      simp only [notBelow, false_or, List.cons.injEq]
      constructor
      · rintro ⟨rfl, less⟩
        exact ⟨more, ⟨rfl, rfl⟩, less⟩
      · rintro ⟨_, ⟨rfl, rfl⟩, less⟩
        exact ⟨rfl, less⟩

theorem nine_cons_lt_places_iff (others : List Char) :
    '9' :: others < places ++ ['Z'] ↔
      places = [] ∨ ∃ more, places = '9' :: more ∧ others < more ++ ['Z'] := by
  cases places with
  | nil =>
      rw [List.nil_append, List.cons_lt_cons_iff]
      simp
  | cons place more =>
      have notAbove := (digit_bounds (digits place List.mem_cons_self)).2.1
      rw [List.cons_append, List.cons_lt_cons_iff]
      simp only [notAbove, false_or, List.cons.injEq, reduceCtorEq]
      constructor
      · rintro ⟨rfl, less⟩
        exact ⟨more, ⟨rfl, rfl⟩, less⟩
      · rintro ⟨_, ⟨rfl, rfl⟩, less⟩
        exact ⟨rfl, less⟩

theorem places_lt_end_iff : places ++ ['Z'] < ['Z'] ↔ places ≠ [] := by
  cases places with
  | nil => simp
  | cons place more =>
      have below := (digit_bounds (digits place List.mem_cons_self)).2.2
      rw [List.cons_append, List.cons_lt_cons_iff]
      simp [below]

theorem not_end_lt_places : ¬ ['Z'] < places ++ ['Z'] := by
  cases places with
  | nil => simp
  | cons place more =>
      have below := (digit_bounds (digits place List.mem_cons_self)).2.2
      rw [List.cons_append, List.cons_lt_cons_iff]
      simp [not_lt.2 below.le, below.ne']

omit digits in
theorem placesChars_lt_point_cons_iff (others : List Char) :
    placesChars places ++ ['Z'] < '.' :: others ↔
      places ≠ [] ∧ places ++ ['Z'] < others := by
  cases places with
  | nil =>
      have notBelow : ¬ ['Z'] < '.' :: others := by
        rw [List.cons_lt_cons_iff]
        simp
      exact iff_of_false notBelow fun both => both.1 rfl
  | cons place more =>
      rw [placesChars_of_ne_nil (List.cons_ne_nil _ _), List.cons_append,
        cons_lt_cons_iff_of_eq]
      simp

omit digits in
theorem point_cons_lt_placesChars_iff (others : List Char) :
    '.' :: others < placesChars places ++ ['Z'] ↔
      places = [] ∨ others < places ++ ['Z'] := by
  cases places with
  | nil => simp [placesChars, List.cons_lt_cons_iff]
  | cons place more =>
      rw [placesChars_of_ne_nil (List.cons_ne_nil _ _), List.cons_append,
        cons_lt_cons_iff_of_eq]
      simp

/-- Places come before three zeros if they begin with these and go on. -/
theorem placesChars_lt_zeros_iff :
    placesChars places ++ ['Z'] < ".000Z".toList ↔
      ∃ place more, places = '0' :: '0' :: '0' :: place :: more := by
  have zeros : ".000Z".toList = '.' :: '0' :: '0' :: '0' :: ['Z'] := by decide
  rw [zeros, placesChars_lt_point_cons_iff]
  constructor
  · rintro ⟨-, less⟩
    rcases (places_lt_zero_cons_iff digits _).1 less with ⟨first, rfl, lessFirst⟩
    have digitsFirst := (List.forall_mem_cons.1 digits).2
    rcases (places_lt_zero_cons_iff digitsFirst _).1 lessFirst with ⟨second, rfl, lessSecond⟩
    have digitsSecond := (List.forall_mem_cons.1 digitsFirst).2
    rcases (places_lt_zero_cons_iff digitsSecond _).1 lessSecond with ⟨third, rfl, lessThird⟩
    have digitsThird := (List.forall_mem_cons.1 digitsSecond).2
    rcases List.exists_cons_of_ne_nil ((places_lt_end_iff digitsThird).1 lessThird) with
      ⟨place, more, rfl⟩
    exact ⟨place, more, rfl⟩
  · rintro ⟨place, more, rfl⟩
    have below := (digit_bounds (digits place (by simp))).2.2
    refine ⟨List.cons_ne_nil _ _, ?_⟩
    simp only [List.cons_append, cons_lt_cons_iff_of_eq]
    exact List.cons_lt_cons_iff.2 (Or.inl below)

/-- Places come after three nines if they are less than three nines, or none. -/
theorem nines_lt_placesChars_iff :
    ".999Z".toList < placesChars places ++ ['Z'] ↔
      places = [] ∨ places = ['9'] ∨ places = ['9', '9'] := by
  have nines : ".999Z".toList = '.' :: '9' :: '9' :: '9' :: ['Z'] := by decide
  rw [nines, point_cons_lt_placesChars_iff]
  constructor
  · rintro (none | less)
    · exact Or.inl none
    · rcases (nine_cons_lt_places_iff digits _).1 less with none | ⟨first, rfl, lessFirst⟩
      · exact Or.inl none
      · have digitsFirst := (List.forall_mem_cons.1 digits).2
        rcases (nine_cons_lt_places_iff digitsFirst _).1 lessFirst with
          rfl | ⟨second, rfl, lessSecond⟩
        · exact Or.inr (Or.inl rfl)
        · have digitsSecond := (List.forall_mem_cons.1 digitsFirst).2
          rcases (nine_cons_lt_places_iff digitsSecond _).1 lessSecond with
            rfl | ⟨third, rfl, lessThird⟩
          · exact Or.inr (Or.inr rfl)
          · have digitsThird := (List.forall_mem_cons.1 digitsSecond).2
            exact absurd lessThird (not_end_lt_places digitsThird)
  · rintro (rfl | rfl | rfl)
    · exact Or.inl rfl
    · exact Or.inr (by decide)
    · exact Or.inr (by decide)

end Places
end Calendar

/-! ## Starts at the ends of a day -/

/-- The text of a written time. -/
def Calendar.WrittenTime.text (written : WrittenTime) : String :=
  String.ofList written.chars

theorem instantOfRfc3339?_text (written : WrittenTime) :
    instantOfRfc3339? written.text = some written.instant := by
  refine instantOfRfc3339Chars?_eq_some_iff.2 ⟨written, ?_, rfl⟩
  rw [WrittenTime.text, String.toList_ofList]

/-- A text that is read in RFC 3339 is the text of a written time. -/
theorem exists_written_of_isSome
    {start : String}
    (read : (instantOfRfc3339? start).isSome) :
    ∃ written : WrittenTime, written.text = start := by
  rcases Option.isSome_iff_exists.1 read with ⟨instant, found⟩
  rcases instantOfRfc3339Chars?_eq_some_iff.1 found with ⟨written, same, -⟩
  refine ⟨written, ?_⟩
  rw [WrittenTime.text, same, String.ofList_toList]

/-- Whether a start is written with a date. -/
def startsOn (day : Date) (start : String) : Bool :=
  dayOf start == day.text

/-- Whether a start is written with a date but comes before the instant at which the day starts. -/
def startsEarly (day : Date) (start : String) : Bool :=
  startsOn day start && decide (start < day.text ++ startOfDay)

/-- Whether a start is written with a date but comes after the last millisecond of the day. -/
def startsLate (day : Date) (start : String) : Bool :=
  startsOn day start && decide (day.text ++ endOfDay < start)

/-- Whether a start is from one text up to another. -/
def startsBetween (lower upper start : String) : Bool :=
  decide (lower ≤ start) && decide (start < upper)

/-- Whether a start is between the bounds of a listing of a day. -/
def listedOn (day : Date) (start : String) : Bool :=
  decide (day.text ≤ start) && decide (start ≤ day.text ++ endOfDay)

/-- Whether a start is between the bounds of the costs of a day. -/
def countedOn (day : Date) (start : String) : Bool :=
  startsBetween (day.text ++ startOfDay) (day.next.text ++ startOfDay) start

theorem toNat_eq_ite (bit : Bool) : bit.toNat = if bit = true then 1 else 0 := by
  cases bit <;> rfl

section Compared

variable {day date : Date} (dayPlain : day.IsPlain) (datePlain : date.IsPlain)
  (rest : List Char)

include dayPlain datePlain

theorem textThen_lt_suffix_iff (suffix : String) :
    date.textThen rest < day.text ++ suffix ↔
      date.dayNumber < day.dayNumber ∨
        date.dayNumber = day.dayNumber ∧ rest < suffix.toList := by
  rw [Date.text_append, Date.textThen_lt_iff datePlain dayPlain]

theorem suffix_lt_textThen_iff (suffix : String) :
    day.text ++ suffix < date.textThen rest ↔
      day.dayNumber < date.dayNumber ∨
        day.dayNumber = date.dayNumber ∧ suffix.toList < rest := by
  rw [Date.text_append, Date.textThen_lt_iff dayPlain datePlain]

theorem startsOn_iff :
    startsOn day (date.textThen rest) = true ↔ date.dayNumber = day.dayNumber := by
  rw [startsOn, dayOf_textThen datePlain, beq_iff_eq, Date.text_inj datePlain dayPlain]

theorem startsEarly_iff :
    startsEarly day (date.textThen rest) = true ↔
      date.dayNumber = day.dayNumber ∧ rest < startOfDay.toList := by
  rw [startsEarly, Bool.and_eq_true, decide_eq_true_eq, startsOn_iff dayPlain datePlain,
    textThen_lt_suffix_iff dayPlain datePlain]
  grind

theorem startsLate_iff :
    startsLate day (date.textThen rest) = true ↔
      date.dayNumber = day.dayNumber ∧ endOfDay.toList < rest := by
  rw [startsLate, Bool.and_eq_true, decide_eq_true_eq, startsOn_iff dayPlain datePlain,
    suffix_lt_textThen_iff dayPlain datePlain]
  grind

/-- A listing of a day has the starts of the day but the late ones. -/
theorem listedOn_iff :
    listedOn day (date.textThen rest) = true ↔
      date.dayNumber = day.dayNumber ∧ ¬ endOfDay.toList < rest := by
  have fromDate : date.textThen rest < day.text ↔ date.dayNumber < day.dayNumber := by
    rw [day.text_eq_textThen, Date.textThen_lt_iff datePlain dayPlain]
    simp
  rw [listedOn, Bool.and_eq_true, decide_eq_true_eq, decide_eq_true_eq, ← not_lt, ← not_lt,
    fromDate, suffix_lt_textThen_iff dayPlain datePlain]
  grind

/-- The costs of a day have its starts but the early ones, and those early for the next day. -/
theorem countedOn_iff (nextPlain : day.next.IsPlain) :
    countedOn day (date.textThen rest) = true ↔
      date.dayNumber = day.dayNumber ∧ ¬ rest < startOfDay.toList ∨
        date.dayNumber = day.next.dayNumber ∧ rest < startOfDay.toList := by
  rw [countedOn, startsBetween, Bool.and_eq_true, decide_eq_true_eq, decide_eq_true_eq, ← not_lt,
    textThen_lt_suffix_iff dayPlain datePlain, textThen_lt_suffix_iff nextPlain datePlain,
    Date.dayNumber_next]
  grind

theorem listedOn_add_late :
    (listedOn day (date.textThen rest)).toNat + (startsLate day (date.textThen rest)).toNat =
      (startsOn day (date.textThen rest)).toNat + false.toNat := by
  have listed := listedOn_iff dayPlain datePlain rest
  have late := startsLate_iff dayPlain datePlain rest
  have on := startsOn_iff dayPlain datePlain rest
  simp only [toNat_eq_ite, listed, late, on]
  by_cases same : date.dayNumber = day.dayNumber
  · by_cases after : endOfDay.toList < rest <;> simp [same, after]
  · simp [same]

theorem countedOn_add_early (nextPlain : day.next.IsPlain) :
    (countedOn day (date.textThen rest)).toNat +
        (startsEarly day (date.textThen rest)).toNat =
      (startsOn day (date.textThen rest)).toNat +
        (startsEarly day.next (date.textThen rest)).toNat := by
  have counted := countedOn_iff dayPlain datePlain rest nextPlain
  have early := startsEarly_iff dayPlain datePlain rest
  have earlyNext := startsEarly_iff nextPlain datePlain rest
  have on := startsOn_iff dayPlain datePlain rest
  simp only [toNat_eq_ite, counted, early, earlyNext, on, Date.dayNumber_next]
  by_cases before : rest < startOfDay.toList
  · simp only [before, not_true_eq_false, and_false, false_or, and_true, Nat.add_comm]
  · simp [before]

end Compared

/-! ## Early and late times -/

namespace Calendar.WrittenTime

/-- A time that is early as text: after a space, or with more than three places at midnight. -/
def IsEarly (written : WrittenTime) : Prop :=
  written.separator = ' ' ∨
    written.separator = 'T' ∧ written.clock.hour = 0 ∧ written.clock.minute = 0 ∧
      written.clock.second = 0 ∧
        ∃ place more, written.places = '0' :: '0' :: '0' :: place :: more

/-- A time that is late as text: after `t`, or with too few nines in the last second of its day. -/
def IsLate (written : WrittenTime) : Prop :=
  written.separator = 't' ∨
    written.separator = 'T' ∧ written.clock.hour = 23 ∧ written.clock.minute = 59 ∧
      written.clock.second = 59 ∧
        (written.places = [] ∨ written.places = ['9'] ∨ written.places = ['9', '9'])

/-- A time in universal time that is no leap second. -/
structure IsUtc (written : WrittenTime) : Prop where
  offset : written.offset = ['Z']
  second_lt : written.clock.second < 60

variable (written : WrittenTime)

theorem separator_cases :
    written.separator = 'T' ∨ written.separator = 't' ∨ written.separator = ' ' := by
  have separates := written.separates
  simp only [isTimeSeparator, Bool.or_eq_true, beq_iff_eq] at separates
  rcases separates with (upper | lower) | space
  · exact Or.inl upper
  · exact Or.inr (Or.inl lower)
  · exact Or.inr (Or.inr space)

theorem hour_fits : written.clock.hour < 10 ^ 2 := by
  have hour := written.clock.hour_lt
  omega

theorem minute_fits : written.clock.minute < 10 ^ 2 := by
  have minute := written.clock.minute_lt
  omega

theorem second_fits : written.clock.second < 10 ^ 2 := by
  have second := written.clock.second_le
  omega

variable {written} (utc : written.IsUtc)

include utc

theorem timeChars_lt_startOfDay_iff :
    written.timeChars < startOfDay.toList ↔ written.IsEarly := by
  have bound : startOfDay.toList =
      'T' :: (padded 2 0 ++ ':' :: (padded 2 0 ++ ':' :: (padded 2 0 ++ ".000Z".toList))) := by
    decide
  have space : written.separator < 'T' ↔ written.separator = ' ' := by
    rcases written.separator_cases with same | same | same <;> rw [same] <;> decide
  rw [bound, timeChars, utc.offset]
  simp only [List.append_assoc, List.cons_append, List.cons_lt_cons_iff,
    padded_append_lt_iff written.hour_fits (show 0 < 10 ^ 2 by decide),
    padded_append_lt_iff written.minute_fits (show 0 < 10 ^ 2 by decide),
    padded_append_lt_iff written.second_fits (show 0 < 10 ^ 2 by decide),
    placesChars_lt_zeros_iff written.digits, Nat.not_lt_zero, false_or, Char.lt_irrefl,
    true_and, space, IsEarly]

theorem endOfDay_lt_timeChars_iff :
    endOfDay.toList < written.timeChars ↔ written.IsLate := by
  have bound : endOfDay.toList =
      'T' :: (padded 2 23 ++ ':' :: (padded 2 59 ++ ':' :: (padded 2 59 ++ ".999Z".toList))) := by
    decide
  have lower : 'T' < written.separator ↔ written.separator = 't' := by
    rcases written.separator_cases with same | same | same <;> rw [same] <;> decide
  have hour : ¬ 23 < written.clock.hour := by
    have bound := written.clock.hour_lt
    omega
  have minute : ¬ 59 < written.clock.minute := by
    have bound := written.clock.minute_lt
    omega
  have second : ¬ 59 < written.clock.second := by
    have bound := utc.second_lt
    omega
  rw [bound, timeChars, utc.offset]
  simp only [List.append_assoc, List.cons_append, List.cons_lt_cons_iff,
    padded_append_lt_iff (show 23 < 10 ^ 2 by decide) written.hour_fits,
    padded_append_lt_iff (show 59 < 10 ^ 2 by decide) written.minute_fits,
    padded_append_lt_iff (show 59 < 10 ^ 2 by decide) written.second_fits,
    nines_lt_placesChars_iff written.digits, hour, minute, second, false_or,
    Char.lt_irrefl, true_and, lower, IsLate, eq_comm]

theorem startsEarly_text_iff :
    startsEarly written.date written.text = true ↔ written.IsEarly := by
  rw [← timeChars_lt_startOfDay_iff utc]
  exact (startsEarly_iff written.plain written.plain written.timeChars).trans
    (and_iff_right rfl)

theorem startsLate_text_iff :
    startsLate written.date written.text = true ↔ written.IsLate := by
  rw [← endOfDay_lt_timeChars_iff utc]
  exact (startsLate_iff written.plain written.plain written.timeChars).trans
    (and_iff_right rfl)

end Calendar.WrittenTime

end UsageLedger
