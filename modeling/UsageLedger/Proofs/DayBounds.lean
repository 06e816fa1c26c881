import Mathlib.Data.String.Basic
import UsageLedger.Proofs.LenientDates
import UsageLedger.Service.Bounds
import UsageLedger.Store.Metrics

/-!
# The bounds of a day

A day is asked for in two ways.  A listing takes its date on both sides, which
is cut to the texts of its first moment and of its last millisecond; costs
take the instants at which it and the next day start.

Times are compared with these bounds as texts.  By `Date.textThen_lt_iff` the
dates decide, and where they are equal, what follows them.
-/

namespace UsageLedger

open UsageLedger.Calendar
open UsageLedger.Service
open UsageLedger.Store
open UsageLedger.Text

/-! ## Days -/

namespace Calendar

theorem Date.dayNumber_injective : Function.Injective Date.dayNumber := by
  intro first second same
  have notBefore := Date.dayNumber_lt_of_parts first second
  have notAfter := Date.dayNumber_lt_of_parts second first
  refine Date.ext ?_ ?_ ?_ <;> omega

theorem Date.ofDayNumber_dayNumber (date : Date) :
    Date.ofDayNumber date.dayNumber = date :=
  Date.dayNumber_injective (Date.dayNumber_ofDayNumber _)

/-- The day after a day. -/
def Date.next (date : Date) : Date :=
  Date.ofDayNumber (date.dayNumber + 1)

@[simp]
theorem Date.dayNumber_next (date : Date) :
    date.next.dayNumber = date.dayNumber + 1 :=
  Date.dayNumber_ofDayNumber _

theorem Date.isPlain_next
    {date : Date}
    (lower : 0 ≤ date.year)
    (upper : date.year ≤ 9998) :
    date.next.IsPlain := by
  have number := date.dayNumber_next
  constructor
  · by_contra negative
    have before := Date.dayNumber_lt_of_parts date.next date (Or.inl (by omega))
    omega
  · by_contra beyond
    -- The first day of the next year comes after every day of this one.
    have inYear := date.dayOfYear_lt_year
    have nextYear := daysBeforeYear_succ date.year
    have later : daysBeforeYear (date.year + 2) ≤ daysBeforeYear date.next.year :=
      daysBeforeYear_mono (by omega)
    have year := daysBeforeYear_succ (date.year + 1)
    have sum : date.year + 1 + 1 = date.year + 2 := by omega
    rw [sum] at year
    simp only [Date.dayNumber] at number
    omega

/-- A text that begins with a date. -/
def Date.textThen (date : Date) (rest : List Char) : String :=
  String.ofList (date.chars ++ rest)

theorem Date.text_append (date : Date) (suffix : String) :
    date.text ++ suffix = date.textThen suffix.toList := by
  rw [Date.textThen, String.ofList_append, String.ofList_toList, Date.text]

theorem Date.text_eq_textThen (date : Date) : date.text = date.textThen [] := by
  rw [Date.textThen, List.append_nil, Date.text]

/-- Of texts that begin with dates, the dates decide unless they are equal. -/
theorem Date.textThen_lt_iff
    {first second : Date}
    (firstPlain : first.IsPlain)
    (secondPlain : second.IsPlain)
    (firstRest secondRest : List Char) :
    first.textThen firstRest < second.textThen secondRest ↔
      first.dayNumber < second.dayNumber ∨
        first.dayNumber = second.dayNumber ∧ firstRest < secondRest := by
  rw [← Date.chars_append_lt_iff firstPlain secondPlain, Date.textThen, Date.textThen,
    String.lt_iff_toList_lt, String.toList_ofList, String.toList_ofList]

theorem Date.text_inj
    {first second : Date}
    (firstPlain : first.IsPlain)
    (secondPlain : second.IsPlain) :
    first.text = second.text ↔ first.dayNumber = second.dayNumber := by
  constructor
  · intro same
    have notBefore := Date.textThen_lt_iff firstPlain secondPlain [] []
    have notAfter := Date.textThen_lt_iff secondPlain firstPlain [] []
    rw [← Date.text_eq_textThen, ← Date.text_eq_textThen, same] at notBefore notAfter
    simp only [String.lt_irrefl, List.lt_irrefl, and_false, or_false, false_iff]
      at notBefore notAfter
    omega
  · intro same
    rw [Date.dayNumber_injective same]

theorem Date.length_chars {date : Date} (plain : date.IsPlain) :
    date.chars.length = 10 := by
  simp only [Date.chars, plain.yearChars_eq, List.length_append, List.length_cons,
    length_padded (by decide) plain.year_fits, length_padded (by decide) date.month_fits,
    length_padded (by decide) date.day_fits]

/-- The day of a text that begins with a date is that date. -/
theorem dayOf_textThen
    {date : Date}
    (plain : date.IsPlain)
    (rest : List Char) :
    dayOf (date.textThen rest) = date.text := by
  have taken : (date.chars ++ rest).take 10 = date.chars := by
    rw [← Date.length_chars plain, List.take_left]
  have noNull : ∀ character ∈ date.chars, (character != '\x00') = true := by
    intro character member
    rw [bne_iff_ne]
    rintro rfl
    exact Date.not_mem_chars (by decide) date member
  rw [dayOf, Date.textThen, String.toList_ofList, taken,
    List.takeWhile_eq_self_iff.2 noNull, Date.text]

end Calendar

/-! ## Texts without white space -/

namespace Text

theorem dropBlank_of_solid
    {characters : List Char}
    (solid : ∀ character ∈ characters, isBlank character = false) :
    dropBlank characters = characters := by
  cases characters with
  | nil => rfl
  | cons character rest =>
      exact dropBlank_cons_of_not_blank rest (solid character List.mem_cons_self)

theorem trim_of_solid
    {text : String}
    (solid : ∀ character ∈ text.toList, isBlank character = false) :
    trim text = text := by
  have reversed : ∀ character ∈ text.toList.reverse, isBlank character = false :=
    fun character member => solid character (List.mem_reverse.1 member)
  rw [trim, trimChars, dropBlank_of_solid solid, dropBlank_of_solid reversed,
    List.reverse_reverse, String.ofList_toList]

end Text

namespace Calendar

theorem Date.solid_chars (date : Date) :
    ∀ character ∈ date.chars, isBlank character = false := by
  intro character member
  rcases Date.isDigit_or_mark_of_mem_chars member with digit | rfl | rfl
  · exact isBlank_of_isDigit digit
  · decide
  · decide

/-- A year of four digits can be read. -/
theorem Date.IsPlain.inRange {date : Date} (plain : date.IsPlain) :
    yearInRange date.year = true := by
  have year := plain.year_fits
  have positive := plain.1
  simp only [yearInRange, Bool.and_eq_true, decide_eq_true_eq]
  omega

end Calendar

/-! ## Bounds of listings -/

namespace Service

theorem requestBound_text {date : Date} (plain : date.IsPlain) (side : BoundSide) :
    requestBound side date.text = .ok (dayBound side date) := by
  have trimmed : trim date.text = date.text := by
    apply trim_of_solid
    rw [Date.text, String.toList_ofList]
    exact date.solid_chars
  have noMark : hasTimeMark date.text = false := by
    rw [hasTimeMark, Date.text, String.toList_ofList, List.contains_eq_mem,
      decide_eq_false (Date.not_mem_chars (by decide) date)]
  simp only [requestBound, trimmed, noMark, Bool.false_eq_true, if_false,
    dateOfText?_text plain.inRange]

end Service

/-! ## Clocks in universal time -/

namespace Calendar

section Clock

variable (date : Date) (clock : ClockTime)

theorem Instant.date_ofClock : (Instant.ofClock date clock 0).date = date := by
  have hour := clock.hour_lt
  have minute := clock.minute_lt
  have day : (Instant.ofClock date clock 0).second / (secondsPerDay : Int) =
      date.dayNumber := by
    simp only [Instant.ofClock, secondsPerDay]
    omega
  rw [Instant.date, day, Date.ofDayNumber_dayNumber]

theorem Instant.secondOfDay_ofClock :
    (Instant.ofClock date clock 0).secondOfDay =
      clock.hour * 3600 + clock.minute * 60 + min clock.second 59 := by
  have hour := clock.hour_lt
  have minute := clock.minute_lt
  simp only [Instant.secondOfDay, Instant.ofClock, secondsPerDay]
  omega

theorem Instant.shownSecond_ofClock :
    (Instant.ofClock date clock 0).shownSecond = clock.second := by
  have second := clock.second_le
  have nano := clock.nano_lt
  rw [Instant.shownSecond, Instant.secondOfDay_ofClock]
  simp only [Instant.ofClock, nanosPerSecond] at *
  split <;> omega

theorem Instant.shownMilli_ofClock :
    (Instant.ofClock date clock 0).shownMilli = clock.nano / 1000000 := by
  have nano := clock.nano_lt
  simp only [Instant.shownMilli, Instant.ofClock, nanosPerSecond] at *
  split <;> omega

/-- A clock in universal time is written as it shows the time. -/
theorem Instant.wholeChars_ofClock :
    (Instant.ofClock date clock 0).wholeChars =
      date.chars ++ 'T' :: padded 2 clock.hour ++ ':' :: padded 2 clock.minute ++
        ':' :: padded 2 clock.second := by
  have minute := clock.minute_lt
  have second := clock.second_le
  have hours : (clock.hour * 3600 + clock.minute * 60 + min clock.second 59) / 3600 =
      clock.hour := by
    omega
  have minutes : (clock.hour * 3600 + clock.minute * 60 + min clock.second 59) / 60 % 60 =
      clock.minute := by
    omega
  rw [Instant.wholeChars, Instant.date_ofClock, Instant.secondOfDay_ofClock,
    Instant.shownSecond_ofClock, hours, minutes]

theorem Instant.text_ofClock :
    (Instant.ofClock date clock 0).text =
      date.textThen ('T' :: padded 2 clock.hour ++ ':' :: padded 2 clock.minute ++
        ':' :: padded 2 clock.second ++ '.' :: padded 3 (clock.nano / 1000000) ++ ['Z']) := by
  rw [Instant.text, Instant.chars_eq, Instant.wholeChars_ofClock, Instant.shownMilli_ofClock,
    Date.textThen]
  simp only [List.append_assoc, List.cons_append]

end Clock

/-! ## Bounds of costs -/

/-- The start of a day, as costs are asked for. -/
def Date.midnight (date : Date) : String :=
  date.text ++ "T00:00:00Z"

/-- What stands behind the date in the text of the instant at which a day starts. -/
def startOfDay : String := "T00:00:00.000Z"

/-- Midnight in universal time. -/
def ClockTime.midnight : ClockTime :=
  ⟨0, 0, 0, 0, by decide, by decide, by decide, by decide⟩

theorem Instant.text_midnight (date : Date) :
    (Instant.ofClock date .midnight 0).text = date.text ++ startOfDay := by
  have rest : startOfDay.toList =
      'T' :: padded 2 0 ++ ':' :: padded 2 0 ++ ':' :: padded 2 0 ++
        '.' :: padded 3 0 ++ ['Z'] := by
    decide
  rw [Instant.text_ofClock, Date.text_append, rest]
  rfl

theorem Instant.second_midnight (date : Date) :
    (Instant.ofClock date .midnight 0).second = date.dayNumber * 86400 := by
  simp [Instant.ofClock, ClockTime.midnight, secondsPerDay]

/-- Midnight as a bound writes it, without places. -/
def WrittenTime.midnight (date : Date) (plain : date.IsPlain) : WrittenTime where
  date := date
  plain := plain
  separator := 'T'
  separates := by decide
  clock := .midnight
  places := []
  digits := by simp
  nano_eq := rfl
  offset := ['Z']
  minutesAhead := 0
  offset_reads := rfl

theorem WrittenTime.timeChars_midnight (date : Date) (plain : date.IsPlain) :
    (WrittenTime.midnight date plain).timeChars = "T00:00:00Z".toList := by
  show 'T' :: padded 2 0 ++ ':' :: padded 2 0 ++ ':' :: padded 2 0 ++
    placesChars [] ++ ['Z'] = _
  decide

theorem Date.toList_midnight (date : Date) :
    date.midnight.toList = date.chars ++ "T00:00:00Z".toList := by
  rw [Date.midnight, Date.text_append, Date.textThen, String.toList_ofList]

theorem instantOfText?_midnight {date : Date} (plain : date.IsPlain) :
    instantOfText? date.midnight = some (Instant.ofClock date .midnight 0) := by
  have written : instantOfRfc3339? date.midnight = some (Instant.ofClock date .midnight 0) := by
    refine instantOfRfc3339Chars?_eq_some_iff.2 ⟨.midnight date plain, ?_, rfl⟩
    show date.chars ++ (WrittenTime.midnight date plain).timeChars = date.midnight.toList
    rw [Date.toList_midnight, WrittenTime.timeChars_midnight]
  rw [instantOfText?, written, Option.some_or]

theorem Date.trim_midnight (date : Date) : trim date.midnight = date.midnight := by
  have solidTime : "T00:00:00Z".toList.any isBlank = false := by
    decide
  apply trim_of_solid
  rw [Date.toList_midnight]
  intro character member
  rcases List.mem_append.1 member with inDate | inTime
  · exact date.solid_chars character inDate
  · exact Bool.eq_false_iff.2 (List.any_eq_false.1 solidTime character inTime)

theorem Date.hasTimeMark_midnight (date : Date) : hasTimeMark date.midnight = true := by
  rw [hasTimeMark, Date.toList_midnight, List.contains_iff_mem]
  exact List.mem_append_right _ (by decide)

end Calendar

namespace Service

theorem instantBound_midnight {date : Date} (plain : date.IsPlain) :
    instantBound date.midnight = .ok (Instant.ofClock date .midnight 0) := by
  rw [instantBound, instantOfText?_midnight plain]

theorem costRange_midnight
    {first last : Date}
    (firstPlain : first.IsPlain)
    (lastPlain : last.IsPlain)
    (order : first.dayNumber ≤ last.dayNumber) :
    costRange first.midnight last.midnight =
      .ok (.timestamps (first.text ++ startOfDay) (last.text ++ startOfDay)) := by
  have inOrder : Instant.ofClock first .midnight 0 ≤ Instant.ofClock last .midnight 0 := by
    show (Instant.ofClock first .midnight 0).isLE (Instant.ofClock last .midnight 0) = true
    have sameNano : (Instant.ofClock first .midnight 0).nano =
        (Instant.ofClock last .midnight 0).nano := rfl
    rw [Instant.isLE, Instant.second_midnight, Instant.second_midnight, sameNano]
    simp only [Nat.le_refl, decide_true, Bool.and_true, Bool.or_eq_true, decide_eq_true_eq,
      beq_iff_eq]
    omega
  have marks : (hasTimeMark first.midnight && hasTimeMark last.midnight) = true := by
    rw [Date.hasTimeMark_midnight, Date.hasTimeMark_midnight, Bool.and_self]
  simp only [costRange, Date.trim_midnight, if_pos marks, timestampRange,
    instantBound_midnight firstPlain, instantBound_midnight lastPlain]
  rw [← Instant.text_midnight, ← Instant.text_midnight]
  exact if_pos inOrder

end Service

end UsageLedger
