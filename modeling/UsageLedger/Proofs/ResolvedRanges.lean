import UsageLedger.Proofs.TimeSpellings

/-!
# The range that two bounds select

`Selects` says what two bounds can select, apart from how they are read: a
range of instants if both carry a time of day, and otherwise a range of dates,
of which only what stands before a `T` is read.  `costRange_eq_ok_iff` says
that exactly these ranges are selected.

A range is written in order and selects itself, where its years have four
digits (`cost_ranges_are_canonical`), and bounds that denote the same instants
select the same range however they are spelled.  A time of day that cannot be
read is refused beside another one, but beside a bare date it is cut off
unread (`malformed_times_are_refused_or_cut`).
-/

namespace UsageLedger

open UsageLedger.Calendar
open UsageLedger.Service
open UsageLedger.Store
open UsageLedger.Text

/-! ## Dates in order -/

namespace Calendar

theorem Date.le_iff {first second : Date} :
    first ≤ second ↔ first.dayNumber ≤ second.dayNumber := by
  have notAfter := Date.dayNumber_lt_of_parts first second
  have notBefore := Date.dayNumber_lt_of_parts second first
  have same : first.year = second.year → first.month = second.month →
      first.day = second.day → first.dayNumber = second.dayNumber := by
    intro year month day
    simp only [Date.dayNumber, year, month, day]
  show first.isLE second = true ↔ _
  simp only [Date.isLE, Bool.or_eq_true, Bool.and_eq_true, decide_eq_true_eq, beq_iff_eq]
  omega

theorem Date.text_le_text
    {first second : Date}
    (firstPlain : first.IsPlain)
    (secondPlain : second.IsPlain)
    (order : first ≤ second) :
    first.text ≤ second.text := by
  rw [Date.le_iff] at order
  rw [← not_lt, Date.text_eq_textThen, Date.text_eq_textThen,
    Date.textThen_lt_iff secondPlain firstPlain]
  simp only [List.lt_irrefl, and_false, or_false]
  omega

/-- A date is written with a sign in front if its year has not four digits. -/
theorem Date.chars_cases (date : Date) :
    (date.year < 0 ∧ ∃ rest, date.chars = '-' :: rest) ∨
      (9999 < date.year ∧ ∃ rest, date.chars = '+' :: rest) ∨
        (date.IsPlain ∧ ∃ digit rest, isDigit digit = true ∧ date.chars = digit :: rest) := by
  by_cases negative : date.year < 0
  · refine .inl ⟨negative, ?_⟩
    rw [Date.chars, yearChars, if_pos negative]
    exact ⟨_, rfl⟩
  · by_cases large : 9999 < date.year
    · refine .inr (.inl ⟨large, ?_⟩)
      rw [Date.chars, yearChars, if_neg negative, if_pos large]
      exact ⟨_, rfl⟩
    · have plain : date.IsPlain := ⟨by omega, by omega⟩
      have digits : ∀ digit ∈ padded 4 date.year.natAbs, isDigit digit = true :=
        fun _ => isDigit_of_mem_padded
      rcases List.exists_cons_of_ne_nil (padded_ne_nil 3 date.year.natAbs) with
        ⟨digit, rest, year⟩
      rw [year] at digits
      refine .inr (.inr ⟨plain, digit, ?_⟩)
      rw [Date.chars, plain.yearChars_eq, year]
      exact ⟨_, digits digit List.mem_cons_self, rfl⟩

/-- Whether the year of a date has four digits shows in its text. -/
theorem Date.isPlain_of_text_eq
    {first second : Date}
    (same : first.text = second.text)
    (plain : second.IsPlain) :
    first.IsPlain := by
  have chars : first.chars = second.chars := String.ofList_injective same
  rcases second.chars_cases with ⟨negative, -⟩ | ⟨large, -⟩ | ⟨-, digit, _, isOne, second⟩
  · exact absurd plain.1 (not_le.2 negative)
  · exact absurd plain.2 (not_le.2 large)
  · rw [second] at chars
    rcases first.chars_cases with ⟨-, _, first⟩ | ⟨-, _, first⟩ | ⟨isPlain, -⟩
    · rw [first] at chars
      cases chars
      exact absurd isOne (by decide)
    · rw [first] at chars
      cases chars
      exact absurd isOne (by decide)
    · exact isPlain

theorem Instant.isPlain_of_text_eq
    {first second : Instant}
    (same : first.text = second.text)
    (plain : second.date.IsPlain) :
    first.date.IsPlain := by
  have dates := congrArg dateOfTimestamp same
  rw [dateOfTimestamp_text, dateOfTimestamp_text] at dates
  exact Date.isPlain_of_text_eq dates plain

end Calendar

/-! ## Bounds -/

/-- Whether a bound carries a time of day. -/
def CarriesTime (text : String) : Prop :=
  'T' ∈ (trim text).toList

instance (text : String) : Decidable (CarriesTime text) :=
  inferInstanceAs (Decidable (_ ∈ _))

/-- A bound with a time of day, in any spelling of an instant. -/
structure IsMoment (text : String) (instant : Instant) : Prop where
  carried : CarriesTime text
  spelled : TimeSpelling (trim text).toList instant

/-- A bound that is a date up to its first `T`. -/
def IsDay (text : String) (date : Date) : Prop :=
  DateSpelling (beforeTimeMark (trim text).toList) date

/-- The ranges that two bounds can select. -/
inductive Selects (lower upper : String) : CostRange → Prop
  | timestamps {first last : Instant}
      (isLower : IsMoment lower first)
      (isUpper : IsMoment upper last)
      (order : first ≤ last) :
      Selects lower upper (.timestamps first.text last.text)
  | dates {first last : Date}
      (untimed : ¬ (CarriesTime lower ∧ CarriesTime upper))
      (isLower : IsDay lower first)
      (isUpper : IsDay upper last)
      (order : first ≤ last) :
      Selects lower upper (.dates first.text last.text)

namespace Service

theorem hasTimeMark_iff (text : String) : hasTimeMark (trim text) = true ↔ CarriesTime text :=
  List.contains_iff_mem

theorem timed_iff (lower upper : String) :
    (hasTimeMark (trim lower) && hasTimeMark (trim upper)) = true ↔
      CarriesTime lower ∧ CarriesTime upper := by
  rw [Bool.and_eq_true, hasTimeMark_iff, hasTimeMark_iff]

theorem instantBound_eq_ok_iff {text : String} {instant : Instant} :
    instantBound text = .ok instant ↔ TimeSpelling text.toList instant := by
  rw [← instantOfText?_eq_some_iff, instantBound]
  cases instantOfText? text <;> simp

theorem dateBound_eq_ok_iff {text : String} {date : Date} :
    dateBound text = .ok date ↔ DateSpelling (beforeTimeMark text.toList) date := by
  rw [← dateOfChars?_eq_some_iff, dateBound]
  cases dateOfChars? (beforeTimeMark text.toList) <;> simp

/-- Two bounds in order make a range, and no others do. -/
theorem ordered_eq_ok_iff {order : Prop} [Decidable order] {made range : CostRange} :
    (if order then pure made else .error .reversedBounds : Except InputProblem CostRange) =
        .ok range ↔ order ∧ made = range := by
  by_cases holds : order
  · simp [holds, pure, Except.pure]
  · simp [holds]

/-- Exactly the ranges that two bounds can select are selected. -/
theorem costRange_eq_ok_iff {lower upper : String} {range : CostRange} :
    costRange lower upper = .ok range ↔ Selects lower upper range := by
  have timed := timed_iff lower upper
  unfold costRange
  dsimp only
  constructor
  · intro accepted
    split at accepted
    · rename_i marks
      simp only [timestampRange, bind_eq_ok_iff, instantBound_eq_ok_iff,
        ordered_eq_ok_iff] at accepted
      rcases accepted with ⟨first, isLower, last, isUpper, order, rfl⟩
      rcases timed.1 marks with ⟨lowerTime, upperTime⟩
      exact .timestamps ⟨lowerTime, isLower⟩ ⟨upperTime, isUpper⟩ order
    · rename_i marks
      simp only [dateRange, bind_eq_ok_iff, dateBound_eq_ok_iff, ordered_eq_ok_iff] at accepted
      rcases accepted with ⟨first, isLower, last, isUpper, order, rfl⟩
      exact .dates (fun both => marks (timed.2 both)) isLower isUpper order
  · intro selects
    cases selects with
    | timestamps isLower isUpper order =>
        rw [if_pos (timed.2 ⟨isLower.carried, isUpper.carried⟩)]
        simp only [timestampRange, bind_eq_ok_iff, instantBound_eq_ok_iff, ordered_eq_ok_iff]
        exact ⟨_, isLower.spelled, _, isUpper.spelled, order, rfl⟩
    | dates untimed isLower isUpper order =>
        rw [if_neg (fun marks => untimed (timed.1 marks))]
        simp only [dateRange, bind_eq_ok_iff, dateBound_eq_ok_iff, ordered_eq_ok_iff]
        exact ⟨_, isLower, _, isUpper, order, rfl⟩

/-- Bounds that carry the times of two instants select the range between them, in order. -/
theorem costRange_of_moments
    {lower upper : String}
    {first last : Instant}
    (isLower : IsMoment lower first)
    (isUpper : IsMoment upper last) :
    costRange lower upper =
      if first ≤ last then .ok (.timestamps first.text last.text)
      else .error .reversedBounds := by
  have marks := (timed_iff lower upper).2 ⟨isLower.carried, isUpper.carried⟩
  simp only [costRange, if_pos marks, timestampRange,
    instantBound_eq_ok_iff.2 isLower.spelled, instantBound_eq_ok_iff.2 isUpper.spelled]
  rfl

end Service

/-! ## Written bounds -/

namespace Calendar

/-- An instant is written without white space, and with a `T`. -/
theorem Instant.solid_chars (instant : Instant) :
    ∀ character ∈ instant.chars, isBlank character = false := by
  have solid : ∀ width value, ∀ character ∈ padded width value, isBlank character = false :=
    fun width value character member => isBlank_of_isDigit (isDigit_of_mem_padded member)
  simp only [Instant.chars, List.append_assoc, List.cons_append, List.forall_mem_append,
    List.forall_mem_cons, List.not_mem_nil, false_imp_iff, implies_true, and_true]
  exact ⟨instant.date.solid_chars, by decide, solid _ _, by decide, solid _ _, by decide,
    solid _ _, by decide, solid _ _, by decide⟩

theorem Instant.trim_text (instant : Instant) : trim instant.text = instant.text := by
  apply trim_of_solid
  rw [Instant.text, String.toList_ofList]
  exact instant.solid_chars

theorem Date.trim_text (date : Date) : trim date.text = date.text := by
  apply trim_of_solid
  rw [Date.text, String.toList_ofList]
  exact date.solid_chars

/-- What is past the millisecond is not written. -/
theorem Instant.text_cutToMilli (instant : Instant) : instant.cutToMilli.text = instant.text := by
  have whole : instant.nano / 1000000 * 1000000 / 1000000000 = instant.nano / 1000000000 := by
    omega
  have milli : instant.nano / 1000000 * 1000000 % 1000000000 / 1000000 =
      instant.nano % 1000000000 / 1000000 := by
    omega
  simp only [Instant.text, Instant.chars, Instant.date, Instant.secondOfDay,
    Instant.shownSecond, Instant.shownMilli, Instant.cutToMilli, nanosPerSecond, whole, milli]

theorem Instant.cutToMilli_le_cutToMilli {first second : Instant} (order : first ≤ second) :
    first.cutToMilli ≤ second.cutToMilli := by
  rw [Instant.le_iff] at order ⊢
  simp only [Instant.cutToMilli]
  omega

end Calendar

theorem isMoment_text {instant : Instant} (plain : instant.date.IsPlain) :
    IsMoment instant.text instant.cutToMilli where
  carried := by
    rw [CarriesTime, instant.trim_text, Instant.text, String.toList_ofList, Instant.chars]
    simp
  spelled := by
    rw [instant.trim_text, ← instantOfText?_eq_some_iff]
    exact instantOfText?_text plain

theorem not_carriesTime_text (date : Date) : ¬ CarriesTime date.text := by
  rw [CarriesTime, date.trim_text, Date.text, String.toList_ofList]
  exact Date.not_mem_chars (by decide) date

/-- What stands before a `T` is everything where there is none. -/
theorem beforeTimeMark_of_not_mem {characters : List Char} (without : 'T' ∉ characters) :
    beforeTimeMark characters = characters := by
  rw [beforeTimeMark, List.takeWhile_eq_self_iff]
  intro character member
  rw [bne_iff_ne]
  rintro rfl
  exact without member

theorem isDay_text {date : Date} (plain : date.IsPlain) : IsDay date.text date := by
  have without := not_carriesTime_text date
  rw [CarriesTime, date.trim_text] at without
  rw [IsDay, date.trim_text, beforeTimeMark_of_not_mem without, Date.text,
    String.toList_ofList]
  exact dateSpelling_chars plain.inRange

/-! ## Ranges are canonical -/

def CostRange.lower : CostRange → String
  | .dates lower _ => lower
  | .timestamps lower _ => lower

def CostRange.upper : CostRange → String
  | .dates _ upper => upper
  | .timestamps _ upper => upper

/-- A range whose bounds lie in the years 0 to 9999 of universal time. -/
inductive CostRange.IsPlain : CostRange → Prop
  | dates {first last : Date} (firstPlain : first.IsPlain) (lastPlain : last.IsPlain) :
      IsPlain (.dates first.text last.text)
  | timestamps {first last : Instant}
      (firstPlain : first.date.IsPlain) (lastPlain : last.date.IsPlain) :
      IsPlain (.timestamps first.text last.text)

/-- What holds of a range with the bounds that select it. -/
structure CostRange.IsCanonical (range : CostRange) (lower upper : String) : Prop where
  kind : (∃ first last, range = .timestamps first last) ↔
    CarriesTime lower ∧ CarriesTime upper
  ordered : range.lower ≤ range.upper
  again : costRange range.lower range.upper = .ok range

/-- Two bounds that denote instants, in any spelling. -/
structure Denote (lower upper : String) (first last : Instant) : Prop where
  lower : TimeSpelling (trim lower).toList first
  upper : TimeSpelling (trim upper).toList last

theorem isCanonical_of_timestamps
    {lower upper : String}
    {first last : Instant}
    (firstPlain : first.date.IsPlain)
    (lastPlain : last.date.IsPlain)
    (isLower : IsMoment lower first)
    (isUpper : IsMoment upper last)
    (order : first ≤ last) :
    (CostRange.timestamps first.text last.text).IsCanonical lower upper where
  kind := iff_of_true ⟨_, _, rfl⟩ ⟨isLower.carried, isUpper.carried⟩
  ordered := Instant.text_le_text firstPlain lastPlain order
  again := by
    have selects := Selects.timestamps (isMoment_text firstPlain) (isMoment_text lastPlain)
      (Instant.cutToMilli_le_cutToMilli order)
    rw [Instant.text_cutToMilli, Instant.text_cutToMilli] at selects
    exact costRange_eq_ok_iff.2 selects

theorem isCanonical_of_dates
    {lower upper : String}
    {first last : Date}
    (firstPlain : first.IsPlain)
    (lastPlain : last.IsPlain)
    (untimed : ¬ (CarriesTime lower ∧ CarriesTime upper))
    (order : first ≤ last) :
    (CostRange.dates first.text last.text).IsCanonical lower upper where
  kind := by
    refine iff_of_false ?_ untimed
    rintro ⟨_, _, same⟩
    cases same
  ordered := Date.text_le_text firstPlain lastPlain order
  again := costRange_eq_ok_iff.2
    (.dates (fun both => not_carriesTime_text first both.1) (isDay_text firstPlain)
      (isDay_text lastPlain) order)

/-- A selected range is written in order and selects itself. -/
theorem isCanonical_of_selects
    {lower upper : String}
    {range : CostRange}
    (selects : Selects lower upper range)
    (plain : range.IsPlain) :
    range.IsCanonical lower upper := by
  cases selects with
  | timestamps isLower isUpper order =>
      generalize written : CostRange.timestamps _ _ = range at plain
      cases plain with
      | dates => cases written
      | timestamps firstPlain lastPlain =>
          rw [← written]
          injection written with sameFirst sameLast
          exact isCanonical_of_timestamps (Instant.isPlain_of_text_eq sameFirst firstPlain)
            (Instant.isPlain_of_text_eq sameLast lastPlain) isLower isUpper order
  | dates untimed isLower isUpper order =>
      generalize written : CostRange.dates _ _ = range at plain
      cases plain with
      | timestamps => cases written
      | dates firstPlain lastPlain =>
          rw [← written]
          injection written with sameFirst sameLast
          exact isCanonical_of_dates (Date.isPlain_of_text_eq sameFirst firstPlain)
            (Date.isPlain_of_text_eq sameLast lastPlain) untimed order

/-! ## Bounds in other spellings -/

/-- A spelling of an instant without a `T` goes on after its date, so it is no date. -/
theorem not_dateSpelling_of_time
    {characters : List Char}
    {instant : Instant}
    (spelled : TimeSpelling characters instant)
    (without : 'T' ∉ characters)
    (date : Date) :
    ¬ DateSpelling characters date := by
  intro isDate
  cases spelled with
  | universal isLocal =>
      cases isLocal
      exact without (by simp)
  | offset written =>
      have separated : ∀ rest : List Char, ∀ character ∈ (written.separator :: rest).head?,
          isDigit character = false := by
        intro rest character first
        cases first
        rcases written.separator_cases with same | same | same <;> rw [same] <;> rfl
      have whole : readDate? (written.chars ++ []) = some (date, []) :=
        readDate?_of_spelling isDate ends_nil
      rw [List.append_nil, WrittenTime.chars, WrittenTime.timeChars] at whole
      simp only [List.append_assoc, List.cons_append,
        readDate?_of_spelling (dateSpelling_chars written.plain.inRange) (separated _)] at whole
      cases whole

/-- Bounds that denote instants select the range between them, if they select one. -/
theorem range_of_denote
    {lower upper : String}
    {first last : Instant}
    {range : CostRange}
    (denote : Denote lower upper first last)
    (accepted : costRange lower upper = .ok range) :
    range = .timestamps first.text last.text := by
  cases costRange_eq_ok_iff.1 accepted with
  | timestamps isLower isUpper order =>
      rw [isLower.spelled.unique denote.lower, isUpper.spelled.unique denote.upper]
  | dates untimed isLower isUpper order =>
      -- One of the bounds has no `T`, so it would be a date as a whole.
      rcases not_and_or.1 untimed with without | without
      · rw [IsDay, beforeTimeMark_of_not_mem without] at isLower
        exact absurd isLower (not_dateSpelling_of_time denote.lower without _)
      · rw [IsDay, beforeTimeMark_of_not_mem without] at isUpper
        exact absurd isUpper (not_dateSpelling_of_time denote.upper without _)

/--
A range that two bounds select is a range of instants exactly if both carry a
time of day, is written in order, and selects itself.  Bounds that denote the
same instants select the same range in any spelling, and where they carry
their times after a `T` they are also refused alike.
-/
theorem cost_ranges_are_canonical :
    (∀ lower upper range, costRange lower upper = .ok range → range.IsPlain →
      range.IsCanonical lower upper) ∧
    ∀ lower upper first last, Denote lower upper first last →
      ∀ lower' upper', Denote lower' upper' first last →
        (∀ range range', costRange lower upper = .ok range →
          costRange lower' upper' = .ok range' → range = range') ∧
        (CarriesTime lower ∧ CarriesTime upper → CarriesTime lower' ∧ CarriesTime upper' →
          costRange lower upper = costRange lower' upper') := by
  refine ⟨fun lower upper range accepted plain =>
    isCanonical_of_selects (costRange_eq_ok_iff.1 accepted) plain, ?_⟩
  intro lower upper first last denote lower' upper' other
  constructor
  · intro range range' accepted accepted'
    rw [range_of_denote denote accepted, range_of_denote other accepted']
  · rintro ⟨lowerTime, upperTime⟩ ⟨lowerTime', upperTime'⟩
    rw [costRange_of_moments ⟨lowerTime, denote.lower⟩ ⟨upperTime, denote.upper⟩,
      costRange_of_moments ⟨lowerTime', other.lower⟩ ⟨upperTime', other.upper⟩]

/-- The first of March 2025 at a full minute. -/
def firstOfMarchAt (hour : Fin 24) (minute : Fin 60) : Instant :=
  Instant.ofClock firstOfMarch
    { ClockTime.midnight with
      hour := hour
      minute := minute
      hour_lt := hour.isLt
      minute_lt := minute.isLt } 0

theorem date_firstOfMarchAt (hour : Fin 24) (minute : Fin 60) :
    (firstOfMarchAt hour minute).date = firstOfMarch := by
  rw [firstOfMarchAt, Instant.date_ofClock]

/-- From eight to half past nine, in one spelling and another. -/
theorem denote_morning :
    Denote "2025-03-01T10:00:00+02:00" "2025-03-01T09:30"
        (firstOfMarchAt 8 0) (firstOfMarchAt 9 30) ∧
      Denote " 2025-3-1T8:0" "2025-03-01T04:30:00.0-05:00"
        (firstOfMarchAt 8 0) (firstOfMarchAt 9 30) := by
  refine ⟨⟨?_, ?_⟩, ?_, ?_⟩ <;> exact instantOfText?_eq_some_iff.1 (by decide +kernel)

theorem cost_ranges_are_canonical_respelled :
    ∃ range,
      costRange "2025-03-01T10:00:00+02:00" "2025-03-01T09:30" = .ok range ∧ range.IsPlain ∧
        range.IsCanonical "2025-03-01T10:00:00+02:00" "2025-03-01T09:30" ∧
        costRange " 2025-3-1T8:0" "2025-03-01T04:30:00.0-05:00" = .ok range := by
  have carried : CarriesTime "2025-03-01T10:00:00+02:00" ∧ CarriesTime "2025-03-01T09:30" := by
    decide +kernel
  have carriedToo : CarriesTime " 2025-3-1T8:0" ∧
      CarriesTime "2025-03-01T04:30:00.0-05:00" := by
    decide +kernel
  rcases denote_morning with ⟨denote, other⟩
  have accepted := costRange_of_moments ⟨carried.1, denote.lower⟩ ⟨carried.2, denote.upper⟩
  rw [if_pos (by decide +kernel)] at accepted
  have plainDate : ∀ hour minute, (firstOfMarchAt hour minute).date.IsPlain := by
    intro hour minute
    rw [date_firstOfMarchAt]
    decide
  have plain := CostRange.IsPlain.timestamps (plainDate 8 0) (plainDate 9 30)
  rcases cost_ranges_are_canonical with ⟨canonical, same⟩
  refine ⟨_, accepted, plain, canonical _ _ _ accepted plain, ?_⟩
  rw [← (same _ _ _ _ denote _ _ other).2 carried carriedToo, accepted]

/-! ## A time of day that cannot be read -/

/-- A bound with a `T` that spells no instant. -/
structure IsMalformed (text : String) : Prop where
  carried : CarriesTime text
  unread : ∀ instant, ¬ TimeSpelling (trim text).toList instant

/-- What becomes of bounds of which one has a time of day that cannot be read. -/
structure AnswersMalformed (lower upper : String) (outcome : Except InputProblem CostRange) :
    Prop where
  /-- Beside another time of day it is refused by name. -/
  refused : CarriesTime lower → CarriesTime upper →
    ∃ text, (text = lower ∨ text = upper) ∧ IsMalformed text ∧
      outcome = .error (.invalidDateTime (trim text))
  /-- Beside a bare date only what stands before its `T` is read, as of any other bound. -/
  cut : ¬ (CarriesTime lower ∧ CarriesTime upper) → ∀ range,
    outcome = .ok range ↔ ∃ first last, IsDay lower first ∧ IsDay upper last ∧
      first ≤ last ∧ range = .dates first.text last.text

theorem costRange_of_malformed
    {lower upper : String}
    (lowerTime : CarriesTime lower)
    (upperTime : CarriesTime upper)
    (malformed : IsMalformed lower ∨ IsMalformed upper) :
    ∃ text, (text = lower ∨ text = upper) ∧ IsMalformed text ∧
      costRange lower upper = .error (.invalidDateTime (trim text)) := by
  have marks := (timed_iff lower upper).2 ⟨lowerTime, upperTime⟩
  simp only [costRange, if_pos marks, timestampRange, instantBound]
  cases readLower : instantOfText? (trim lower) with
  | none =>
      refine ⟨lower, .inl rfl, ⟨lowerTime, fun instant spelled => ?_⟩, rfl⟩
      rw [← instantOfText?_eq_some_iff, readLower] at spelled
      cases spelled
  | some first =>
      rcases malformed with isLower | isUpper
      · exact absurd (instantOfText?_eq_some_iff.1 readLower) (isLower.unread first)
      · refine ⟨upper, .inr rfl, isUpper, ?_⟩
        cases readUpper : instantOfText? (trim upper) with
        | none => rfl
        | some last => exact absurd (instantOfText?_eq_some_iff.1 readUpper) (isUpper.unread last)

theorem costRange_of_untimed
    {lower upper : String}
    (untimed : ¬ (CarriesTime lower ∧ CarriesTime upper))
    (range : CostRange) :
    costRange lower upper = .ok range ↔ ∃ first last, IsDay lower first ∧ IsDay upper last ∧
      first ≤ last ∧ range = .dates first.text last.text := by
  rw [costRange_eq_ok_iff]
  constructor
  · intro selects
    cases selects with
    | timestamps isLower isUpper order => exact absurd ⟨isLower.carried, isUpper.carried⟩ untimed
    | dates _ isLower isUpper order => exact ⟨_, _, isLower, isUpper, order, rfl⟩
  · rintro ⟨first, last, isLower, isUpper, order, rfl⟩
    exact .dates untimed isLower isUpper order

/--
A time of day that cannot be read is refused if the other bound carries one as
well.  Otherwise it is never read: the bounds are accepted exactly if they are
dates up to their first `T`, in order.
-/
theorem malformed_times_are_refused_or_cut
    {lower upper : String}
    (malformed : IsMalformed lower ∨ IsMalformed upper) :
    AnswersMalformed lower upper (costRange lower upper) where
  refused lowerTime upperTime := costRange_of_malformed lowerTime upperTime malformed
  cut untimed := costRange_of_untimed untimed

theorem isMalformed_noon : IsMalformed "2025-03-01Tnoon" where
  carried := by decide +kernel
  unread instant spelled := by
    have unread : instantOfText? (trim "2025-03-01Tnoon") = none := by decide +kernel
    rw [← instantOfText?_eq_some_iff, unread] at spelled
    cases spelled

/-- Noon in words beside a bare date, and beside a time of day that can be read. -/
theorem malformed_times_are_refused_or_cut_noon :
    (IsMalformed "2025-03-01Tnoon" ∨ IsMalformed "2025-03-05") ∧
      AnswersMalformed "2025-03-01Tnoon" "2025-03-05"
        (costRange "2025-03-01Tnoon" "2025-03-05") ∧
      (IsMalformed "2025-03-05T10:00:00Z" ∨ IsMalformed "2025-03-01Tnoon") ∧
      (CarriesTime "2025-03-05T10:00:00Z" ∧ CarriesTime "2025-03-01Tnoon") ∧
      AnswersMalformed "2025-03-05T10:00:00Z" "2025-03-01Tnoon"
        (costRange "2025-03-05T10:00:00Z" "2025-03-01Tnoon") ∧
      costRange "2025-03-05T10:00:00Z" "2025-03-01Tnoon" =
        .error (.invalidDateTime "2025-03-01Tnoon") :=
  ⟨.inl isMalformed_noon, malformed_times_are_refused_or_cut (.inl isMalformed_noon),
    .inr isMalformed_noon, ⟨by decide +kernel, isMalformed_noon.carried⟩,
    malformed_times_are_refused_or_cut (.inr isMalformed_noon), by decide +kernel⟩

/-- Noon in words is accepted beside a bare date, as if it were the date alone. -/
theorem malformed_time_is_cut :
    CarriesTime "2025-03-01Tnoon" ∧
      (∀ instant, ¬ TimeSpelling (trim "2025-03-01Tnoon").toList instant) ∧
      costRange "2025-03-01Tnoon" "2025-03-05" = .ok (.dates "2025-03-01" "2025-03-05") :=
  ⟨isMalformed_noon.carried, isMalformed_noon.unread, by decide +kernel⟩

end UsageLedger
