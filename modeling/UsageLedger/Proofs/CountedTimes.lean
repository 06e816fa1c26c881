import Mathlib.Algebra.BigOperators.Intervals
import Mathlib.Tactic.IntervalCases
import Mathlib.Tactic.Ring
import UsageLedger.Proofs.DayEnds

/-!
# Times counted out

What a text in RFC 3339 says, apart from how it is read and from the closed
formulas of the calendar.  `countedDays` adds up the lengths of all months
before a date, `FractionSpelling` cuts a decimal fraction of any length to
nanoseconds, `OffsetSpelling` is the grammar of offsets, and
`InstantSpelling` puts them together: the nanoseconds of universal time from
the start of the year 0000.

By `instantSpelling_iff` the texts that are read are the ones that are spelled
so, and `WrittenTime.elapsed_eq` says that each is read as the instant it
spells.
-/

namespace UsageLedger.Calendar

open UsageLedger.Text

/-! ## Days -/

/-- The days of a month. -/
def monthLength (year : Nat) : (month : Nat) → Nat
  | 2 => if 4 ∣ year ∧ (100 ∣ year → 400 ∣ year) then 29 else 28
  | 4 | 6 | 9 | 11 => 30
  | _ => 31

/-- The days from 0000-01-01 to a date: all years before it, all months before it, and its own. -/
def countedDays (year month day : Nat) : Nat :=
  ∑ earlier ∈ Finset.range year, ∑ index ∈ Finset.range 12, monthLength earlier (index + 1) +
    ∑ index ∈ Finset.range (month - 1), monthLength year (index + 1) + (day - 1)

theorem monthLength_two (year : Nat) : monthLength year 2 = 28 + leapDay year := by
  simp only [monthLength, leapDay, isLeapYear, Bool.and_eq_true, Bool.or_eq_true, beq_iff_eq,
    bne_iff_ne, ne_eq]
  split <;> split <;> omega

/-- The days before a month grow by its length. -/
theorem daysBeforeMonth_succ
    {month : Nat}
    (year : Nat)
    (positive : 1 ≤ month)
    (upper : month ≤ 12) :
    daysBeforeMonth (leapDay year) (month + 1) =
      daysBeforeMonth (leapDay year) month + monthLength year month := by
  by_cases february : month = 2
  · rw [february, monthLength_two]
    simp only [daysBeforeMonth]
    omega
  · interval_cases month
    all_goals simp only [daysBeforeMonth, monthLength] <;> omega

theorem daysInMonth_eq
    {month : Nat}
    (year : Nat)
    (positive : 1 ≤ month)
    (upper : month ≤ 12) :
    daysInMonth year month = monthLength year month := by
  rw [daysInMonth, daysBeforeMonth_succ year positive upper, Nat.add_sub_cancel_left]

theorem sum_monthLength
    {months : Nat}
    (year : Nat)
    (upper : months ≤ 12) :
    ∑ index ∈ Finset.range months, monthLength year (index + 1) =
      daysBeforeMonth (leapDay year) (months + 1) := by
  induction months with
  | zero => rfl
  | succ months hypothesis =>
      rw [Finset.sum_range_succ, hypothesis (by omega),
        daysBeforeMonth_succ year (by omega) upper]

theorem sum_yearLength (years : Nat) :
    ((∑ year ∈ Finset.range years, ∑ index ∈ Finset.range 12, monthLength year (index + 1) :
        Nat) : Int) =
      daysBeforeYear years + 366 := by
  induction years with
  | zero => decide
  | succ years hypothesis =>
      have length := sum_monthLength years (le_refl 12)
      rw [Finset.sum_range_succ, length, Int.natCast_add, hypothesis, Int.natCast_succ,
        daysBeforeYear_succ]
      simp only [daysBeforeMonth]
      omega

/-- The closed formula for the number of a day counts the days up to it. -/
theorem Date.countedDays_eq {date : Date} (plain : date.IsPlain) :
    (countedDays date.year.toNat date.month date.day : Int) = date.dayNumber + 719528 := by
  have year : (date.year.toNat : Int) = date.year := Int.toNat_of_nonneg plain.1
  have below : date.month - 1 ≤ 12 := (Nat.sub_le _ _).trans date.month_le
  have months := sum_monthLength date.year.toNat below
  rw [Nat.sub_add_cancel date.month_pos] at months
  rw [countedDays, Int.natCast_add, Int.natCast_add, sum_yearLength, months, year, Date.dayNumber,
    epochDay]
  omega

/-! ## Fractions -/

/-- The places of a second, and the nanoseconds that they are cut to. -/
inductive FractionSpelling : List Char → (nano : Nat) → Prop
  | missing : FractionSpelling [] 0
  | given {places : List Char}
      (some : places ≠ [])
      (digits : ∀ place ∈ places, isDigit place = true) :
      FractionSpelling ('.' :: places)
        (naturalOf places * nanosPerSecond / 10 ^ places.length)

theorem naturalOf_lt
    {digits : List Char}
    (all : ∀ digit ∈ digits, isDigit digit = true) :
    naturalOf digits < 10 ^ digits.length := by
  cases length : digits.length with
  | zero =>
      rw [List.length_eq_zero_iff.1 length]
      decide
  | succ width => exact (padded_naturalOf all length).1

theorem naturalOf_append (front back : List Char) :
    naturalOf (front ++ back) = naturalOf front * 10 ^ back.length + naturalOf back := by
  induction back using List.reverseRecOn with
  | nil => simp
  | append_singleton back last hypothesis =>
      rw [← List.append_assoc, naturalOf_concat, naturalOf_concat, hypothesis,
        List.length_append, List.length_singleton, Nat.pow_succ]
      ring

/-- Up to nine places are filled up with zeros. -/
theorem nanosOfPlaces_of_le {places : List Char} (few : places.length ≤ 9) :
    nanosOfPlaces places = naturalOf places * nanosPerSecond / 10 ^ places.length := by
  have filled : nanosPerSecond = 10 ^ (9 - places.length) * 10 ^ places.length := by
    rw [← Nat.pow_add, Nat.sub_add_cancel few]
    rfl
  rw [filled, ← Nat.mul_assoc, Nat.mul_div_cancel _ (Nat.pow_pos (by decide)), nanosOfPlaces,
    List.take_of_length_le few, Nat.pow_eq]

/-- Of more than nine places the others are cut off. -/
theorem nanosOfPlaces_of_lt
    {places : List Char}
    (digits : ∀ place ∈ places, isDigit place = true)
    (many : 9 < places.length) :
    nanosOfPlaces places = naturalOf places * nanosPerSecond / 10 ^ places.length := by
  have taken : (places.take 9).length = 9 := List.length_take_of_le many.le
  have dropped : (places.drop 9).length = places.length - 9 := List.length_drop
  have split : naturalOf places =
      naturalOf (places.take 9) * 10 ^ (places.length - 9) + naturalOf (places.drop 9) := by
    rw [← dropped, ← naturalOf_append, List.take_append_drop]
  have rest : naturalOf (places.drop 9) < 10 ^ (places.length - 9) := by
    rw [← dropped]
    exact naturalOf_lt fun place member => digits place (List.mem_of_mem_drop member)
  have length : 10 ^ places.length = 10 ^ (places.length - 9) * nanosPerSecond := by
    rw [show nanosPerSecond = 10 ^ 9 from rfl, ← Nat.pow_add, Nat.sub_add_cancel many.le]
  rw [length, Nat.mul_div_mul_right _ _ (by decide), split, Nat.add_comm, Nat.mul_comm,
    Nat.add_mul_div_left _ _ (Nat.pow_pos (by decide)), Nat.div_eq_of_lt rest, Nat.zero_add,
    nanosOfPlaces, taken]
  exact Nat.mul_one _

/-- The fractions that are spelled are the places of written times. -/
theorem fractionSpelling_iff {fraction : List Char} {nano : Nat} :
    FractionSpelling fraction nano ↔
      ∃ places, (∀ place ∈ places, isDigit place = true) ∧ nanosOfPlaces places = nano ∧
        placesChars places = fraction := by
  have cut : ∀ places : List Char, (∀ place ∈ places, isDigit place = true) →
      nanosOfPlaces places = naturalOf places * nanosPerSecond / 10 ^ places.length := by
    intro places digits
    rcases Nat.lt_or_ge 9 places.length with many | few
    · exact nanosOfPlaces_of_lt digits many
    · exact nanosOfPlaces_of_le few
  constructor
  · intro spelled
    cases spelled with
    | missing => exact ⟨[], by simp, rfl, rfl⟩
    | given some digits =>
        exact ⟨_, digits, cut _ digits, placesChars_of_ne_nil some⟩
  · rintro ⟨places, digits, rfl, rfl⟩
    rw [cut places digits]
    cases places with
    | nil => exact .missing
    | cons place more => exact .given (List.cons_ne_nil _ _) digits

theorem FractionSpelling.nano_lt
    {fraction : List Char}
    {nano : Nat}
    (spelled : FractionSpelling fraction nano) :
    nano < nanosPerSecond := by
  cases spelled with
  | missing => decide
  | given some digits =>
      refine Nat.div_lt_of_lt_mul ?_
      exact Nat.mul_lt_mul_of_pos_right (naturalOf_lt digits) (by decide)

/-! ## Offsets -/

/--
An offset, and the minutes that its clock is ahead of universal time.  The
minus sign proper is read like the hyphen in its place.
-/
inductive OffsetSpelling : List Char → (minutesAhead : Int) → Prop
  | universal {letter : Char} (isLetter : letter = 'Z' ∨ letter = 'z') :
      OffsetSpelling [letter] 0
  | ahead {hours minutes : Nat} (hours_lt : hours < 24) (minutes_lt : minutes < 60) :
      OffsetSpelling ('+' :: (padded 2 hours ++ ':' :: padded 2 minutes))
        (hours * 60 + minutes)
  | behind {sign : Char} {hours minutes : Nat}
      (isMinus : sign = '-' ∨ sign = '\u2212')
      (hours_lt : hours < 24)
      (minutes_lt : minutes < 60) :
      OffsetSpelling (sign :: (padded 2 hours ++ ':' :: padded 2 minutes))
        (-(hours * 60 + minutes))

theorem readOffset?_signed
    {character : Char}
    {sign : Int}
    {hours minutes : Nat}
    (isSign : offsetSign? character = some sign)
    (hours_lt : hours < 24)
    (minutes_lt : minutes < 60) :
    readOffset? (character :: (padded 2 hours ++ ':' :: padded 2 minutes)) =
      some (sign * (hours * 60 + minutes : Nat), []) := by
  have noLetter : ¬ (character = 'Z' ∨ character = 'z') := by
    rintro (rfl | rfl) <;> cases isSign
  have readHours : readExact? 2 (padded 2 hours ++ ':' :: padded 2 minutes) =
      some (hours, ':' :: padded 2 minutes) :=
    readExact?_eq_some_iff.2 ⟨by omega, rfl⟩
  have readMinutes : readExact? 2 (padded 2 minutes) = some (minutes, []) :=
    readExact?_eq_some_iff.2 ⟨by omega, List.append_nil _⟩
  simp only [readOffset?, if_neg noLetter, bind, Option.bind, isSign, readHours, readMark?,
    if_true, readMinutes, hours_lt, minutes_lt, and_self]

/-- The offsets that are read to their end are the ones that are spelled. -/
theorem offsetSpelling_iff {offset : List Char} {minutesAhead : Int} :
    OffsetSpelling offset minutesAhead ↔ readOffset? offset = some (minutesAhead, []) := by
  constructor
  · intro spelled
    cases spelled with
    | universal isLetter => rw [readOffset?, if_pos isLetter]
    | ahead hours_lt minutes_lt =>
        have isSign : offsetSign? '+' = some 1 := rfl
        rw [readOffset?_signed isSign hours_lt minutes_lt]
        simp
    | behind isMinus hours_lt minutes_lt =>
        have isSign := fun character (same : character = '-' ∨ character = '\u2212') =>
          show offsetSign? character = some (-1) by rcases same with rfl | rfl <;> rfl
        rw [readOffset?_signed (isSign _ isMinus) hours_lt minutes_lt]
        simp
  · intro read
    cases offset with
    | nil => cases read
    | cons character rest =>
        simp only [readOffset?] at read
        split at read
        · rename_i isLetter
          cases read
          exact .universal isLetter
        · simp only [bind, Option.bind_eq_some_iff, Prod.exists, readExact?_eq_some_iff,
            readMark?_eq_some_iff] at read
          rcases read with ⟨sign, isSign, hours, _, ⟨-, rfl⟩, _, rfl, minutes, remaining,
            ⟨-, rfl⟩, whole⟩
          split at whole
          · rename_i bounds
            cases whole
            rw [List.append_nil]
            simp only [offsetSign?] at isSign
            split at isSign
            · rename_i plus
              cases isSign
              rw [plus, one_mul, Int.natCast_add, Int.natCast_mul]
              exact .ahead bounds.1 bounds.2
            · split at isSign
              · rename_i minus
                cases isSign
                rw [neg_one_mul, Int.natCast_add, Int.natCast_mul]
                exact .behind minus bounds.1 bounds.2
              · cases isSign
          · cases whole

/-! ## Instants -/

/-- The nanoseconds from the start of the year 0000, of a clock some minutes ahead. -/
def elapsedNanos (days hour minute second nano : Nat) (minutesAhead : Int) : Int :=
  (((days * 24 + hour) * 60 + minute - minutesAhead) * 60 + second) * nanosPerSecond + nano

/--
A text in RFC 3339: its second of the minute, and the nanoseconds of universal
time from the start of the year 0000 to it.
-/
inductive InstantSpelling : List Char → (second : Nat) → (elapsed : Int) → Prop
  | parts {year month day hour minute second nano : Nat} {separator : Char}
      {fraction offset : List Char} {minutesAhead : Int}
      (year_lt : year < 10000)
      (isMonth : 1 ≤ month ∧ month ≤ 12)
      (isDay : 1 ≤ day ∧ day ≤ monthLength year month)
      (separates : separator = 'T' ∨ separator = 't' ∨ separator = ' ')
      (hour_lt : hour < 24)
      (minute_lt : minute < 60)
      (second_le : second ≤ 60)
      (isFraction : FractionSpelling fraction nano)
      (isOffset : OffsetSpelling offset minutesAhead) :
      InstantSpelling
        (padded 4 year ++ '-' :: (padded 2 month ++ '-' :: (padded 2 day ++
          separator :: (padded 2 hour ++ ':' :: (padded 2 minute ++ ':' :: (padded 2 second ++
            (fraction ++ offset)))))))
        second
        (elapsedNanos (countedDays year month day) hour minute second nano minutesAhead)

/-- The nanoseconds from the start of the year 0000 to a written time. -/
def WrittenTime.elapsed (written : WrittenTime) : Int :=
  elapsedNanos
    (countedDays written.date.year.toNat written.date.month written.date.day)
    written.clock.hour written.clock.minute written.clock.second written.clock.nano
    written.minutesAhead

theorem WrittenTime.instantSpelling (written : WrittenTime) :
    InstantSpelling written.chars written.clock.second written.elapsed := by
  have plain := written.plain
  have year : (written.date.year.toNat : Int) = written.date.year := Int.toNat_of_nonneg plain.1
  have sameYear : written.date.year.natAbs = written.date.year.toNat := by omega
  have day_le := written.date.day_le
  rw [← year, daysInMonth_eq _ written.date.month_pos written.date.month_le] at day_le
  rw [written.chars_eq, sameYear]
  refine .parts ?_ ⟨written.date.month_pos, written.date.month_le⟩
    ⟨written.date.day_pos, day_le⟩ written.separator_cases written.clock.hour_lt
    written.clock.minute_lt written.clock.second_le
    (fractionSpelling_iff.2 ⟨_, written.digits, written.nano_eq, rfl⟩)
    (offsetSpelling_iff.2 written.offset_reads)
  have upper := plain.2
  omega

/-- The texts that are spelled in RFC 3339 are those of written times. -/
theorem instantSpelling_iff {characters : List Char} {second : Nat} {elapsed : Int} :
    InstantSpelling characters second elapsed ↔
      ∃ written : WrittenTime, written.chars = characters ∧
        written.clock.second = second ∧ written.elapsed = elapsed := by
  constructor
  · intro spelled
    cases spelled with
    | @parts year month day hour minute _ nano separator fraction offset minutesAhead
        year_lt isMonth isDay separates hour_lt minute_lt second_le isFraction isOffset =>
        rcases fractionSpelling_iff.1 isFraction with ⟨places, digits, nano_eq, rfl⟩
        have day_le : day ≤ daysInMonth year month := by
          rw [daysInMonth_eq year isMonth.1 isMonth.2]
          exact isDay.2
        have isSeparator : isTimeSeparator separator = true := by
          rcases separates with rfl | rfl | rfl <;> rfl
        have plain : (⟨year, month, day, isMonth.1, isMonth.2, isDay.1, day_le⟩ : Date).IsPlain :=
          ⟨Int.natCast_nonneg year, Int.ofNat_le.2 (Nat.le_of_lt_succ year_lt)⟩
        refine ⟨⟨_, plain, separator, isSeparator,
          ⟨hour, minute, second, nano, hour_lt, minute_lt, second_le, isFraction.nano_lt⟩,
          places, digits, nano_eq, offset, minutesAhead, offsetSpelling_iff.1 isOffset⟩, ?_,
          rfl, rfl⟩
        rw [WrittenTime.chars_eq]
        rfl
  · rintro ⟨written, rfl, rfl, rfl⟩
    exact written.instantSpelling

theorem instantSpelling_toList_iff {text : String} {second : Nat} {elapsed : Int} :
    InstantSpelling text.toList second elapsed ↔
      ∃ written : WrittenTime, written.text = text ∧
        written.clock.second = second ∧ written.elapsed = elapsed := by
  have same : ∀ written : WrittenTime, written.text = text ↔ written.chars = text.toList := by
    intro written
    rw [← String.toList_inj, WrittenTime.text, String.toList_ofList]
  simp only [same, instantSpelling_iff]

/-- The nanoseconds from the start of the year 0000 to an instant that is not in a leap second. -/
def Instant.elapsed (instant : Instant) : Int :=
  (instant.second + 719528 * secondsPerDay) * nanosPerSecond + instant.nano

/-- Except in a leap second, what is read is the instant that is spelled. -/
theorem WrittenTime.elapsed_eq
    {written : WrittenTime}
    (below : written.clock.second < 60) :
    written.instant.elapsed = written.elapsed := by
  have second : min written.clock.second 59 = written.clock.second := by omega
  have noLeap : written.clock.second ≠ 60 := by omega
  rw [Instant.elapsed, WrittenTime.elapsed, elapsedNanos,
    Date.countedDays_eq written.plain]
  simp only [WrittenTime.instant, Instant.ofClock, second, if_neg noLeap, secondsPerDay,
    nanosPerSecond]
  omega

end UsageLedger.Calendar
