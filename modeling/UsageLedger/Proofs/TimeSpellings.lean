import UsageLedger.Proofs.ListingBounds

/-!
# The spellings of an instant

A time of day is spelled in one of two ways: in RFC 3339, with an offset, or
leniently, as a date in any of its spellings, `T`, hours, minutes and perhaps
seconds, which are then universal time.  `TimeSpelling` gives both as a
grammar, apart from how they are read.

No text is spelled both ways, because only the first ends in an offset.  So
`instantOfText?_eq_some_iff` says that exactly the spellings of an instant are
read as that instant, and a text has at most one.  What is written for an
instant is among its spellings, to the millisecond.
-/

namespace UsageLedger.Calendar

open UsageLedger.Text

/-! ## The grammar -/

/-- A colon with seconds and their places, or nothing at all. -/
inductive SecondsSpelling : List Char → (second nano : Nat) → Prop
  | missing : SecondsSpelling [] 0 0
  | given {field places : List Char} {second : Nat}
      (isField : FieldSpelling 2 field second)
      (digits : ∀ place ∈ places, isDigit place = true) :
      SecondsSpelling (':' :: (field ++ placesChars places)) second (nanosOfPlaces places)

/-- A date and a time of day without an offset. -/
inductive LocalSpelling : List Char → Instant → Prop
  | parts {day hour minute seconds : List Char} {date : Date} {clock : ClockTime}
      (isDate : DateSpelling day date)
      (isHour : FieldSpelling 2 hour clock.hour)
      (isMinute : FieldSpelling 2 minute clock.minute)
      (isSeconds : SecondsSpelling seconds clock.second clock.nano) :
      LocalSpelling (day ++ 'T' :: (hour ++ ':' :: (minute ++ seconds)))
        (Instant.ofClock date clock 0)

/-- What a text with a time of day denotes. -/
inductive TimeSpelling : List Char → Instant → Prop
  | offset (written : WrittenTime) : TimeSpelling written.chars written.instant
  | universal {characters : List Char} {instant : Instant}
      (isLocal : LocalSpelling characters instant) : TimeSpelling characters instant

/-! ## What is read leniently is spelled so -/

theorem readSeconds?_sound
    {characters rest : List Char}
    {second nano : Nat}
    (read : readSeconds? characters = some ((second, nano), rest)) :
    ∃ seconds, characters = seconds ++ rest ∧ SecondsSpelling seconds second nano := by
  unfold readSeconds? at read
  split at read
  · simp only [bind, Option.bind_eq_some_iff, Prod.exists] at read
    rcases read with ⟨found, afterField, readField, places, remaining, readPlaces, same⟩
    cases same
    rcases readField?_sound readField with ⟨field, rfl, isField⟩
    rcases exists_places_of_readFraction? readPlaces with ⟨digits, all, rfl, rfl⟩
    refine ⟨_, ?_, .given isField all⟩
    simp only [List.cons_append, List.append_assoc]
  · cases read
    exact ⟨[], rfl, .missing⟩

theorem localSpelling_of_read
    {characters : List Char}
    {instant : Instant}
    (read : instantOfLocalChars? characters = some instant) :
    LocalSpelling characters instant := by
  simp only [instantOfLocalChars?, bind, Option.bind_eq_some_iff, Prod.exists] at read
  rcases read with ⟨date, _, readDate, _, timeMark, hour, _, readHour, _, minuteMark,
    minute, _, readMinute, second, nano, rest, readSeconds, clock, built, whole⟩
  rcases ClockTime.ofParts?_eq_some_iff.1 built with ⟨rfl, rfl, rfl, rfl⟩
  rcases readDate?_sound readDate with ⟨day, rfl, isDate⟩
  rcases readField?_sound readHour with ⟨hourChars, rfl, isHour⟩
  rcases readField?_sound readMinute with ⟨minuteChars, rfl, isMinute⟩
  rcases readSeconds?_sound readSeconds with ⟨seconds, rfl, isSeconds⟩
  cases readMark?_eq_some_iff.1 timeMark
  cases readMark?_eq_some_iff.1 minuteMark
  split at whole
  · rename_i ended
    cases whole
    rw [List.isEmpty_iff.1 ended, List.append_nil]
    exact .parts isDate isHour isMinute isSeconds
  · cases whole

/-! ## What is spelled leniently is read so -/

theorem head_placesChars (places : List Char) :
    ∀ character ∈ (placesChars places).head?, isDigit character = false := by
  intro character first
  cases places with
  | nil => cases first
  | cons place more =>
      cases first
      decide

theorem SecondsSpelling.head {seconds : List Char} {second nano : Nat}
    (isSeconds : SecondsSpelling seconds second nano) :
    ∀ character ∈ seconds.head?, isDigit character = false := by
  intro character first
  cases isSeconds with
  | missing => cases first
  | given isField digits =>
      cases first
      decide

theorem readSeconds?_of_spelling
    {seconds : List Char}
    {second nano : Nat}
    (isSeconds : SecondsSpelling seconds second nano) :
    readSeconds? seconds = some ((second, nano), []) := by
  cases isSeconds with
  | missing => rfl
  | given isField digits =>
      rename_i field places
      have readField := readField?_of_spelling isField (head_placesChars places)
      have readPlaces : readFraction? (placesChars places ++ []) =
          some (nanosOfPlaces places, []) :=
        readFraction?_placesChars digits ends_nil
      rw [List.append_nil] at readPlaces
      simp only [readSeconds?, bind, Option.bind, readField, readPlaces]

theorem read_of_localSpelling
    {characters : List Char}
    {instant : Instant}
    (isLocal : LocalSpelling characters instant) :
    instantOfLocalChars? characters = some instant := by
  rcases isLocal with ⟨isDate, isHour, isMinute, isSeconds⟩
  rename_i day hour minute seconds date clock
  have marked : ∀ mark, isDigit mark = false → ∀ others : List Char,
      ∀ character ∈ (mark :: others).head?, isDigit character = false := by
    intro mark noDigit others character first
    cases first
    exact noDigit
  have readDate := readDate?_of_spelling isDate
    (marked 'T' rfl (hour ++ ':' :: (minute ++ seconds)))
  have readHour := readField?_of_spelling isHour (marked ':' rfl (minute ++ seconds))
  have readMinute := readField?_of_spelling isMinute isSeconds.head
  have built := ClockTime.ofParts?_eq_some_iff.2
    (show clock.hour = clock.hour ∧ clock.minute = clock.minute ∧
      clock.second = clock.second ∧ clock.nano = clock.nano from ⟨rfl, rfl, rfl, rfl⟩)
  simp only [instantOfLocalChars?, bind, Option.bind, readDate, readMark?, if_true, readHour,
    readMinute, readSeconds?_of_spelling isSeconds, built, List.isEmpty_nil]

/-- Exactly the lenient spellings of an instant are read without an offset. -/
theorem instantOfLocalChars?_eq_some_iff {characters : List Char} {instant : Instant} :
    instantOfLocalChars? characters = some instant ↔ LocalSpelling characters instant :=
  ⟨localSpelling_of_read, read_of_localSpelling⟩

/-! ## Both forms -/

/-- A time in RFC 3339 is not spelled leniently as well: its offset would be left over. -/
theorem WrittenTime.not_localSpelling (written : WrittenTime) (instant : Instant) :
    ¬ LocalSpelling written.chars instant := by
  intro isLocal
  have read := read_of_localSpelling isLocal
  have hour := written.clock.hour_lt
  have minute := written.clock.minute_lt
  have second := written.clock.second_le
  have colon : ∀ rest : List Char, ∀ character ∈ (':' :: rest).head?,
      isDigit character = false := by
    intro rest character first
    cases first
    rfl
  have separated : ∀ rest : List Char, ∀ character ∈ (written.separator :: rest).head?,
      isDigit character = false := by
    intro rest character first
    cases first
    rcases written.separator_cases with same | same | same <;> rw [same] <;> rfl
  have beforeOffset : ∀ character ∈ (placesChars written.places ++ written.offset).head?,
      isDigit character = false := by
    intro character first
    cases places : written.places with
    | nil =>
        rw [places] at first
        exact (head_of_readOffset? written.offset_reads character first).1
    | cons place more =>
        rw [places] at first
        cases first
        rfl
  rw [WrittenTime.chars, WrittenTime.timeChars] at read
  simp only [List.append_assoc, List.cons_append, instantOfLocalChars?, bind, Option.bind,
    readDate?_of_spelling (dateSpelling_chars written.plain.inRange) (separated _)] at read
  by_cases mark : written.separator = 'T'
  · have readHour := readField?_of_spelling
      (fieldSpelling_padded (show written.clock.hour < 10 ^ (1 + 1) by omega)) (colon
        (padded 2 written.clock.minute ++ ':' :: (padded 2 written.clock.second ++
          (placesChars written.places ++ written.offset))))
    have readMinute := readField?_of_spelling
      (fieldSpelling_padded (show written.clock.minute < 10 ^ (1 + 1) by omega)) (colon
        (padded 2 written.clock.second ++ (placesChars written.places ++ written.offset)))
    have readSecond := readField?_of_spelling
      (fieldSpelling_padded (show written.clock.second < 10 ^ (1 + 1) by omega)) beforeOffset
    have readPlaces := readFraction?_placesChars written.digits
      (head_of_readOffset? written.offset_reads)
    have left : written.offset.isEmpty = false := by
      cases offset : written.offset with
      | nil =>
          have reads := written.offset_reads
          rw [offset] at reads
          cases reads
      | cons first rest => rfl
    simp only [mark, readMark?, if_true, readHour, readMinute, readSeconds?, bind, Option.bind,
      readSecond, readPlaces, left, Bool.false_eq_true, if_false] at read
    split at read <;> cases read
  · simp only [readMark?, if_neg mark] at read
    cases read

/-- Exactly the spellings of an instant are read as that instant. -/
theorem instantOfText?_eq_some_iff {text : String} {instant : Instant} :
    instantOfText? text = some instant ↔ TimeSpelling text.toList instant := by
  rw [instantOfText?, Option.or_eq_some_iff]
  constructor
  · rintro (offset | ⟨-, universal⟩)
    · rcases instantOfRfc3339Chars?_eq_some_iff.1 offset with ⟨written, same, rfl⟩
      rw [← same]
      exact .offset written
    · exact .universal (instantOfLocalChars?_eq_some_iff.1 universal)
  · intro spelled
    generalize characters_eq : text.toList = characters at spelled
    cases spelled with
    | offset written =>
        exact .inl (instantOfRfc3339Chars?_eq_some_iff.2 ⟨written, characters_eq.symm, rfl⟩)
    | universal isLocal =>
        subst characters_eq
        refine .inr ⟨?_, read_of_localSpelling isLocal⟩
        cases read : instantOfRfc3339? text with
        | none => rfl
        | some other =>
            rcases instantOfRfc3339Chars?_eq_some_iff.1 read with ⟨written, same, -⟩
            rw [← same] at isLocal
            exact absurd isLocal (written.not_localSpelling instant)

theorem TimeSpelling.unique {characters : List Char} {first second : Instant}
    (one : TimeSpelling characters first)
    (other : TimeSpelling characters second) :
    first = second := by
  rw [← String.toList_ofList (l := characters), ← instantOfText?_eq_some_iff] at one other
  exact Option.some.inj (one.symm.trans other)

/-! ## The written form -/

section Shown

variable (instant : Instant)

theorem Instant.hourOfDay_lt : instant.secondOfDay / 3600 < 24 := by
  have inDay := instant.secondOfDay_lt
  omega

theorem Instant.minuteOfHour_lt : instant.secondOfDay / 60 % 60 < 60 :=
  Nat.mod_lt _ (Nat.succ_pos 59)

theorem Instant.shownSecond_le : instant.shownSecond ≤ 60 := by
  have leap := instant.leap_last
  have nano := instant.nano_lt
  simp only [Instant.shownSecond, Instant.secondOfDay, secondsPerDay, nanosPerSecond] at *
  omega

theorem Instant.nanosOfMilli_lt : instant.shownMilli * 1000000 < nanosPerSecond := by
  have fits := instant.shownMilli_fits
  unfold nanosPerSecond
  omega

theorem Instant.isDigit_of_mem_milli :
    ∀ place ∈ padded 3 instant.shownMilli, isDigit place = true :=
  fun _ => isDigit_of_mem_padded

theorem Instant.nanosOfPlaces_milli :
    nanosOfPlaces (padded 3 instant.shownMilli) = instant.shownMilli * 1000000 := by
  have three := length_padded (by decide) instant.shownMilli_fits
  have taken : (padded 3 instant.shownMilli).take 9 = padded 3 instant.shownMilli :=
    List.take_of_length_le (by omega)
  simp only [nanosOfPlaces, taken, three, naturalOf_padded instant.shownMilli_fits]

end Shown

theorem isTimeSeparator_mark : isTimeSeparator 'T' = true := rfl

theorem readOffset?_universal : readOffset? ['Z'] = some (0, []) := rfl

/-- The time of day that is written for an instant. -/
def Instant.shownClock (instant : Instant) : ClockTime where
  hour := instant.secondOfDay / 3600
  minute := instant.secondOfDay / 60 % 60
  second := instant.shownSecond
  nano := instant.shownMilli * 1000000
  hour_lt := instant.hourOfDay_lt
  minute_lt := instant.minuteOfHour_lt
  second_le := instant.shownSecond_le
  nano_lt := instant.nanosOfMilli_lt

/-- What is written for an instant, in its parts. -/
def Instant.written (instant : Instant) (plain : instant.date.IsPlain) : WrittenTime where
  date := instant.date
  plain := plain
  separator := 'T'
  separates := isTimeSeparator_mark
  clock := instant.shownClock
  places := padded 3 instant.shownMilli
  digits := instant.isDigit_of_mem_milli
  nano_eq := instant.nanosOfPlaces_milli
  offset := ['Z']
  minutesAhead := 0
  offset_reads := readOffset?_universal

theorem Instant.chars_written {instant : Instant} (plain : instant.date.IsPlain) :
    (instant.written plain).chars = instant.chars := by
  rw [WrittenTime.chars, WrittenTime.timeChars, Instant.chars]
  simp only [Instant.written, Instant.shownClock, placesChars_of_ne_nil (padded_ne_nil 2 _),
    List.append_assoc, List.cons_append]

/-- A leap second is shown as the second 60, and no other one is. -/
theorem Instant.shownSecond_eq_sixty_iff {instant : Instant} :
    instant.shownSecond = 60 ↔ nanosPerSecond ≤ instant.nano := by
  have leap := instant.leap_last
  have nano := instant.nano_lt
  simp only [Instant.shownSecond, Instant.secondOfDay, secondsPerDay, nanosPerSecond] at *
  omega

/-- What is written for an instant leaves out what it is past its millisecond. -/
theorem Instant.instant_written {instant : Instant} (plain : instant.date.IsPlain) :
    (instant.written plain).instant = instant.cutToMilli := by
  have leap := instant.leap_last
  have nano := instant.nano_lt
  refine Instant.ext ?_ ?_
  · simp only [WrittenTime.instant, Instant.written, Instant.shownClock, Instant.ofClock,
      Instant.cutToMilli, Instant.date, Date.dayNumber_ofDayNumber, Instant.shownSecond,
      Instant.secondOfDay, secondsPerDay, nanosPerSecond] at *
    omega
  · simp only [WrittenTime.instant, Instant.written, Instant.shownClock, Instant.ofClock,
      Instant.cutToMilli, Instant.shownMilli, Instant.shownSecond_eq_sixty_iff, nanosPerSecond] at *
    split <;> omega

theorem timeSpelling_chars {instant : Instant} (plain : instant.date.IsPlain) :
    TimeSpelling instant.chars instant.cutToMilli := by
  rw [← Instant.chars_written plain, ← Instant.instant_written plain]
  exact .offset _

/-- What is written for an instant is read as the instant, cut to the millisecond. -/
theorem instantOfText?_text {instant : Instant} (plain : instant.date.IsPlain) :
    instantOfText? instant.text = some instant.cutToMilli := by
  rw [instantOfText?_eq_some_iff, Instant.text, String.toList_ofList]
  exact timeSpelling_chars plain

end UsageLedger.Calendar
