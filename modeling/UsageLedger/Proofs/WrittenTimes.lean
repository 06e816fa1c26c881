import UsageLedger.Proofs.InstantOrder

/-!
# Times as they are written

RFC 3339 has many texts for one instant: three characters may separate date
and time, any number of places may follow the seconds, and the offset may be
any.  A `WrittenTime` is such a text in its parts.

`instantOfRfc3339Chars?_eq_some_iff` says that these texts are read, each as
the instant of its parts, and no others.
-/

namespace UsageLedger.Calendar

open UsageLedger.Text

/-! ## Reading the parts -/

theorem readExact?_eq_some_iff
    {width value : Nat}
    {characters rest : List Char} :
    readExact? (width + 1) characters = some (value, rest) ↔
      value < 10 ^ (width + 1) ∧ padded (width + 1) value ++ rest = characters := by
  constructor
  · intro read
    have joined := takeDigits_append (width + 1) characters
    have all := takeDigits_isDigit (width + 1) characters
    simp only [readExact?] at read
    split at read
    · rename_i length
      cases read
      rcases padded_naturalOf all length with ⟨fits, written⟩
      exact ⟨fits, by rw [written, joined]⟩
    · cases read
  · rintro ⟨fits, rfl⟩
    simp only [readExact?, takeDigits_padded fits, length_padded (Nat.succ_pos width) fits,
      if_true, naturalOf_padded fits]

theorem readMark?_eq_some_iff {mark : Char} {characters rest : List Char} :
    readMark? mark characters = some rest ↔ mark :: rest = characters := by
  cases characters with
  | nil => simp [readMark?]
  | cons character others =>
      by_cases same : character = mark
      · simp [readMark?, same, eq_comm]
      · simp [readMark?, same, Ne.symm same]

theorem readSeparator?_eq_some_iff {characters rest : List Char} :
    readSeparator? characters = some rest ↔
      ∃ separator, isTimeSeparator separator = true ∧ separator :: rest = characters := by
  constructor
  · intro read
    cases characters with
    | nil => cases read
    | cons character others =>
        simp only [readSeparator?] at read
        split at read
        · rename_i separates
          cases read
          exact ⟨character, separates, rfl⟩
        · cases read
  · rintro ⟨separator, separates, rfl⟩
    exact if_pos separates

theorem Date.ofParts?_eq_some_iff {year : Int} {month day : Nat} {date : Date} :
    Date.ofParts? year month day = some date ↔
      date.year = year ∧ date.month = month ∧ date.day = day := by
  constructor
  · intro found
    simp only [Date.ofParts?] at found
    split at found
    · cases found
      exact ⟨rfl, rfl, rfl⟩
    · cases found
  · rintro ⟨rfl, rfl, rfl⟩
    rw [Date.ofParts?, dif_pos ⟨⟨date.month_pos, date.month_le⟩, date.day_pos, date.day_le⟩]

theorem ClockTime.ofParts?_eq_some_iff
    {hour minute second nano : Nat}
    {clock : ClockTime} :
    ClockTime.ofParts? hour minute second nano = some clock ↔
      clock.hour = hour ∧ clock.minute = minute ∧ clock.second = second ∧
        clock.nano = nano := by
  constructor
  · intro found
    simp only [ClockTime.ofParts?] at found
    split at found
    · cases found
      exact ⟨rfl, rfl, rfl, rfl⟩
    · cases found
  · rintro ⟨rfl, rfl, rfl, rfl⟩
    rw [ClockTime.ofParts?,
      dif_pos ⟨⟨clock.hour_lt, clock.minute_lt⟩, clock.second_le, clock.nano_lt⟩]

/-- The characters of the places of a second: a point in front, or nothing if there are none. -/
def placesChars : List Char → List Char
  | [] => []
  | places => '.' :: places

theorem placesChars_of_ne_nil {places : List Char} (some : places ≠ []) :
    placesChars places = '.' :: places := by
  cases places with
  | nil => exact absurd rfl some
  | cons place more => rfl

theorem exists_places_of_readFraction?
    {characters rest : List Char}
    {nano : Nat}
    (read : readFraction? characters = some (nano, rest)) :
    ∃ places, (∀ place ∈ places, isDigit place = true) ∧ nanosOfPlaces places = nano ∧
      placesChars places ++ rest = characters := by
  simp only [readFraction?] at read
  split at read
  · rename_i others
    have joined := takeAllDigits_append others
    have all := takeAllDigits_isDigit others
    split at read
    · cases read
    · rename_i nonempty
      cases read
      refine ⟨_, all, rfl, ?_⟩
      rw [placesChars_of_ne_nil fun none => nonempty (List.isEmpty_iff.2 none),
        List.cons_append, joined]
  · cases read
    exact ⟨[], by simp, rfl, rfl⟩

theorem readFraction?_placesChars
    {places rest : List Char}
    (all : ∀ place ∈ places, isDigit place = true)
    (ends : ∀ character ∈ rest.head?, isDigit character = false ∧ character ≠ '.') :
    readFraction? (placesChars places ++ rest) = some (nanosOfPlaces places, rest) := by
  cases places with
  | nil =>
      have noPoint : ∀ others, rest ≠ '.' :: others := by
        rintro others rfl
        exact (ends '.' rfl).2 rfl
      show readFraction? rest = some (0, rest)
      unfold readFraction?
      split
      · exact absurd rfl (noPoint _)
      · rfl
  | cons place more =>
      have taken : takeAllDigits (place :: more ++ rest) = (place :: more, rest) :=
        takeAllDigits_of_digits all fun character member => (ends character member).1
      rw [placesChars_of_ne_nil (List.cons_ne_nil _ _), List.cons_append, readFraction?, taken]
      rfl

/-- An offset begins with a letter or a sign. -/
theorem head_of_readOffset?
    {offset : List Char}
    {found : Int × List Char}
    (read : readOffset? offset = some found) :
    ∀ character ∈ offset.head?, isDigit character = false ∧ character ≠ '.' := by
  cases offset with
  | nil => cases read
  | cons first rest =>
      intro character isFirst
      cases isFirst
      simp only [readOffset?] at read
      split at read
      · rename_i letter
        rcases letter with rfl | rfl <;> decide
      · rcases Option.bind_eq_some_iff.1 read with ⟨sign, isSign, -⟩
        simp only [offsetSign?] at isSign
        split at isSign
        · rename_i plus
          rw [plus]
          decide
        · split at isSign
          · rename_i minus
            rcases minus with rfl | rfl <;> decide
          · cases isSign

/-! ## Texts of times -/

/-- A text in RFC 3339, in its parts. -/
structure WrittenTime where
  date : Date
  plain : date.IsPlain
  separator : Char
  separates : isTimeSeparator separator = true
  clock : ClockTime
  places : List Char
  digits : ∀ place ∈ places, isDigit place = true
  nano_eq : nanosOfPlaces places = clock.nano
  offset : List Char
  minutesAhead : Int
  offset_reads : readOffset? offset = some (minutesAhead, [])

/-- What follows the date. -/
def WrittenTime.timeChars (written : WrittenTime) : List Char :=
  written.separator :: padded 2 written.clock.hour ++
    ':' :: padded 2 written.clock.minute ++
    ':' :: padded 2 written.clock.second ++
    placesChars written.places ++ written.offset

def WrittenTime.chars (written : WrittenTime) : List Char :=
  written.date.chars ++ written.timeChars

def WrittenTime.instant (written : WrittenTime) : Instant :=
  Instant.ofClock written.date written.clock written.minutesAhead

/-- The characters of a written time, one part after another. -/
theorem WrittenTime.chars_eq (written : WrittenTime) :
    written.chars =
      padded 4 written.date.year.natAbs ++ '-' :: (padded 2 written.date.month ++
        '-' :: (padded 2 written.date.day ++ written.separator ::
          (padded 2 written.clock.hour ++ ':' :: (padded 2 written.clock.minute ++
            ':' :: (padded 2 written.clock.second ++
              (placesChars written.places ++ written.offset)))))) := by
  simp only [WrittenTime.chars, WrittenTime.timeChars, Date.chars,
    written.plain.yearChars_eq, List.append_assoc, List.cons_append]

/-- What is read in RFC 3339 are the texts of written times. -/
theorem instantOfRfc3339Chars?_eq_some_iff
    {characters : List Char}
    {instant : Instant} :
    instantOfRfc3339Chars? characters = some instant ↔
      ∃ written : WrittenTime,
        written.chars = characters ∧ written.instant = instant := by
  -- From the outside in: the first part is read off before the reading of the others.
  dsimp only [instantOfRfc3339Chars?, bind]
  simp only [↓Option.bind_eq_some_iff, Prod.exists, readExact?_eq_some_iff,
    readMark?_eq_some_iff, readSeparator?_eq_some_iff, Date.ofParts?_eq_some_iff,
    ClockTime.ofParts?_eq_some_iff]
  constructor
  · rintro ⟨year, _, ⟨yearFits, rfl⟩, _, rfl, month, _, ⟨-, rfl⟩, _, rfl, day, _, ⟨-, rfl⟩,
      _, ⟨separator, separates, rfl⟩, hour, _, ⟨-, rfl⟩, _, rfl, minute, _, ⟨-, rfl⟩, _, rfl,
      second, _, ⟨-, rfl⟩, nano, offset, fraction, minutesAhead, rest, offsetReads,
      date, ⟨isYear, rfl, rfl⟩, clock, ⟨rfl, rfl, rfl, rfl⟩, whole⟩
    rcases exists_places_of_readFraction? fraction with ⟨places, digits, nano_eq, rfl⟩
    split at whole
    · rename_i ended
      rw [List.isEmpty_iff.1 ended] at offsetReads
      have plain : date.IsPlain := ⟨by omega, by omega⟩
      have sameYear : date.year.natAbs = year := by omega
      refine ⟨⟨date, plain, separator, separates, clock, places, digits, nano_eq, offset,
        minutesAhead, offsetReads⟩, ?_, Option.some.inj whole⟩
      rw [WrittenTime.chars_eq, sameYear]
    · cases whole
  · rintro ⟨written, rfl, rfl⟩
    have fraction := readFraction?_placesChars written.digits
      (head_of_readOffset? written.offset_reads)
    have year : written.date.year = (written.date.year.natAbs : Int) :=
      (Int.natAbs_of_nonneg written.plain.1).symm
    have hour := written.clock.hour_lt
    have minute := written.clock.minute_lt
    have second := written.clock.second_le
    refine ⟨_, _, ⟨written.plain.year_fits, written.chars_eq.symm⟩, _, rfl,
      _, _, ⟨written.date.month_fits, rfl⟩, _, rfl, _, _, ⟨written.date.day_fits, rfl⟩,
      _, ⟨_, written.separates, rfl⟩, _, _, ⟨by omega, rfl⟩, _, rfl,
      _, _, ⟨by omega, rfl⟩, _, rfl, _, _, ⟨by omega, rfl⟩, _, _, fraction,
      _, _, written.offset_reads, written.date, ⟨year, rfl, rfl⟩,
      written.clock, ⟨rfl, rfl, rfl, written.nano_eq.symm⟩, rfl⟩

end UsageLedger.Calendar
