import Mathlib.Data.List.TakeWhile
import UsageLedger.Proofs.WrittenTimes

/-!
# The spellings of a date

A date that is read leniently has many spellings: white space in front of each
number, fewer digits, a sign and zeros in front of the year.  `DateSpelling`
gives them as a grammar, apart from how they are read, and
`dateOfChars?_eq_some_iff` says that exactly they are read, each as its date.

The written form of a date is one of its spellings, also where the year needs
a sign, so every date that can be read is read back from what is written for
it (`dateOfText?_text`).
-/

namespace UsageLedger.Calendar

open UsageLedger.Text

/-! ## The grammar -/

/-- Some digits after white space, no more than a limit. -/
inductive FieldSpelling (limit : Nat) : List Char → Nat → Prop
  | digits {blanks digits : List Char}
      (blank : ∀ character ∈ blanks, isBlank character = true)
      (all : ∀ digit ∈ digits, isDigit digit = true)
      (nonempty : digits ≠ [])
      (short : digits.length ≤ limit) :
      FieldSpelling limit (blanks ++ digits) (naturalOf digits)

/-- Up to four digits, or a sign and any digits, after white space. -/
inductive YearSpelling : List Char → Int → Prop
  | unsigned {characters : List Char} {value : Nat}
      (field : FieldSpelling 4 characters value) :
      YearSpelling characters value
  | positive {blanks digits : List Char}
      (blank : ∀ character ∈ blanks, isBlank character = true)
      (all : ∀ digit ∈ digits, isDigit digit = true)
      (nonempty : digits ≠ []) :
      YearSpelling (blanks ++ '+' :: digits) (naturalOf digits)
  | negative {blanks digits : List Char}
      (blank : ∀ character ∈ blanks, isBlank character = true)
      (all : ∀ digit ∈ digits, isDigit digit = true)
      (nonempty : digits ≠ []) :
      YearSpelling (blanks ++ '-' :: digits) (-(naturalOf digits : Int))

/-- Year, month and day of a date, with hyphens between them. -/
inductive DateSpelling : List Char → Date → Prop
  | parts {year month day : List Char} {date : Date}
      (isYear : YearSpelling year date.year)
      (isMonth : FieldSpelling 2 month date.month)
      (isDay : FieldSpelling 2 day date.day)
      (inRange : yearInRange date.year = true) :
      DateSpelling (year ++ '-' :: (month ++ '-' :: day)) date

/-! ## What is read is spelled -/

/-- The white space in front of some characters and what is behind it. -/
theorem exists_blanks (characters : List Char) :
    ∃ blanks, characters = blanks ++ dropBlank characters ∧
      ∀ character ∈ blanks, isBlank character = true :=
  ⟨characters.takeWhile isBlank, List.takeWhile_append_dropWhile.symm,
    List.all_eq_true.1 List.all_takeWhile⟩

theorem readField?_sound
    {limit value : Nat}
    {characters rest : List Char}
    (read : readField? limit characters = some (value, rest)) :
    ∃ field, characters = field ++ rest ∧ FieldSpelling limit field value := by
  rcases exists_blanks characters with ⟨blanks, parts, blank⟩
  have taken := takeDigits_append limit (dropBlank characters)
  have all := takeDigits_isDigit limit (dropBlank characters)
  have short := takeDigits_length_le limit (dropBlank characters)
  unfold readField? at read
  generalize takeDigits limit (dropBlank characters) = split at read taken all short
  rcases split with ⟨digits, remaining⟩
  dsimp only at read taken all short
  split at read
  · cases read
  · rename_i notEmpty
    cases read
    refine ⟨blanks ++ digits, ?_, .digits blank all ?_ short⟩
    · rw [List.append_assoc, taken, ← parts]
    · rintro rfl
      exact notEmpty rfl

theorem readUnbounded?_sound
    {value : Nat}
    {characters rest : List Char}
    (read : readUnbounded? characters = some (value, rest)) :
    ∃ digits, characters = digits ++ rest ∧ (∀ digit ∈ digits, isDigit digit = true) ∧
      digits ≠ [] ∧ naturalOf digits = value := by
  have taken := takeAllDigits_append characters
  have all := takeAllDigits_isDigit characters
  unfold readUnbounded? at read
  generalize takeAllDigits characters = split at read taken all
  rcases split with ⟨digits, remaining⟩
  dsimp only at read taken all
  split at read
  · cases read
  · rename_i notEmpty
    cases read
    refine ⟨digits, taken.symm, all, ?_, rfl⟩
    rintro rfl
    exact notEmpty rfl

theorem readYear?_sound
    {year : Int}
    {characters rest : List Char}
    (read : readYear? characters = some (year, rest)) :
    ∃ spelling, characters = spelling ++ rest ∧ YearSpelling spelling year := by
  rcases exists_blanks characters with ⟨blanks, parts, blank⟩
  unfold readYear? at read
  split at read
  · rename_i others begins
    rcases Option.map_eq_some_iff.1 read with ⟨⟨value, remaining⟩, unbounded, same⟩
    cases same
    rcases readUnbounded?_sound unbounded with ⟨digits, rfl, all, nonempty, rfl⟩
    refine ⟨blanks ++ '-' :: digits, ?_, .negative blank all nonempty⟩
    rw [List.append_assoc, List.cons_append, ← begins, ← parts]
  · rename_i others begins
    rcases Option.map_eq_some_iff.1 read with ⟨⟨value, remaining⟩, unbounded, same⟩
    cases same
    rcases readUnbounded?_sound unbounded with ⟨digits, rfl, all, nonempty, rfl⟩
    refine ⟨blanks ++ '+' :: digits, ?_, .positive blank all nonempty⟩
    rw [List.append_assoc, List.cons_append, ← begins, ← parts]
  · rcases Option.map_eq_some_iff.1 read with ⟨⟨value, remaining⟩, field, same⟩
    cases same
    rcases readField?_sound field with ⟨spelling, spelled, isField⟩
    rcases isField with ⟨blankToo, all, nonempty, short⟩
    rename_i blanksToo digits
    refine ⟨blanks ++ (blanksToo ++ digits), ?_, .unsigned ?_⟩
    · rw [List.append_assoc, ← spelled, ← parts]
    · rw [← List.append_assoc]
      exact .digits (List.forall_mem_append.2 ⟨blank, blankToo⟩) all nonempty short

theorem readDate?_sound
    {characters rest : List Char}
    {date : Date}
    (read : readDate? characters = some (date, rest)) :
    ∃ spelling, characters = spelling ++ rest ∧ DateSpelling spelling date := by
  simp only [readDate?, bind, Option.bind_eq_some_iff] at read
  rcases read with ⟨⟨year, afterYear⟩, readYear, afterMark, yearMark, ⟨month, afterMonth⟩,
    readMonth, beforeDay, monthMark, ⟨day, remaining⟩, readDay, built⟩
  split at built
  · rename_i inRange
    rcases Option.map_eq_some_iff.1 built with ⟨found, parts, same⟩
    cases same
    rcases Date.ofParts?_eq_some_iff.1 parts with ⟨rfl, rfl, rfl⟩
    rcases readYear?_sound readYear with ⟨yearChars, rfl, isYear⟩
    rcases readField?_sound readMonth with ⟨monthChars, rfl, isMonth⟩
    rcases readField?_sound readDay with ⟨dayChars, rfl, isDay⟩
    cases readMark?_eq_some_iff.1 yearMark
    cases readMark?_eq_some_iff.1 monthMark
    refine ⟨_, ?_, .parts isYear isMonth isDay inRange⟩
    simp only [List.append_assoc, List.cons_append]
  · cases built

/-! ## What is spelled is read -/

theorem takeDigits_of_short
    {digits rest : List Char}
    (all : ∀ digit ∈ digits, isDigit digit = true)
    {limit : Nat}
    (short : digits.length ≤ limit)
    (ends : ∀ character ∈ rest.head?, isDigit character = false) :
    takeDigits limit (digits ++ rest) = (digits, rest) := by
  induction digits generalizing limit with
  | nil =>
      cases limit with
      | zero => rfl
      | succ limit =>
          cases rest with
          | nil => rfl
          | cons character others => simp [takeDigits, ends character rfl]
  | cons digit digits hypothesis =>
      rcases List.forall_mem_cons.1 all with ⟨first, later⟩
      cases limit with
      | zero => exact absurd short (Nat.not_succ_le_zero _)
      | succ limit =>
          simp only [List.cons_append, takeDigits, first, if_true,
            hypothesis later (Nat.le_of_succ_le_succ short)]

theorem dropBlank_append
    {blanks : List Char}
    (blank : ∀ character ∈ blanks, isBlank character = true)
    (rest : List Char) :
    dropBlank (blanks ++ rest) = dropBlank rest :=
  List.dropWhile_append_of_pos blank

theorem isBlank_of_isDigit {character : Char} (digit : isDigit character = true) :
    isBlank character = false := by
  simp only [isDigit, Bool.and_eq_true, decide_eq_true_eq] at digit
  have lower : 48 ≤ character.toNat := digit.1
  have upper : character.toNat ≤ 57 := digit.2
  simp [isBlank, blankRanges]
  omega

/-- White space ends at the first digit. -/
theorem dropBlank_append_digits
    {blanks digits : List Char}
    (blank : ∀ character ∈ blanks, isBlank character = true)
    (all : ∀ digit ∈ digits, isDigit digit = true)
    (nonempty : digits ≠ [])
    (rest : List Char) :
    dropBlank (blanks ++ digits ++ rest) = digits ++ rest := by
  rw [List.append_assoc, dropBlank_append blank]
  cases digits with
  | nil => exact absurd rfl nonempty
  | cons digit others =>
      exact dropBlank_cons_of_not_blank _ (isBlank_of_isDigit (all digit List.mem_cons_self))

theorem readField?_of_spelling
    {limit value : Nat}
    {field rest : List Char}
    (isField : FieldSpelling limit field value)
    (ends : ∀ character ∈ rest.head?, isDigit character = false) :
    readField? limit (field ++ rest) = some (value, rest) := by
  rcases isField with ⟨blank, all, nonempty, short⟩
  rw [readField?, dropBlank_append_digits blank all nonempty, takeDigits_of_short all short ends]
  exact if_neg (by simpa using nonempty)

theorem readUnbounded?_of_digits
    {digits rest : List Char}
    (all : ∀ digit ∈ digits, isDigit digit = true)
    (nonempty : digits ≠ [])
    (ends : ∀ character ∈ rest.head?, isDigit character = false) :
    readUnbounded? (digits ++ rest) = some (naturalOf digits, rest) := by
  rw [readUnbounded?, takeAllDigits_of_digits all ends]
  exact if_neg (by simpa using nonempty)

theorem readYear?_of_spelling
    {year : Int}
    {spelling rest : List Char}
    (isYear : YearSpelling spelling year)
    (ends : ∀ character ∈ rest.head?, isDigit character = false) :
    readYear? (spelling ++ rest) = some (year, rest) := by
  cases isYear with
  | unsigned field =>
      rcases field with ⟨blank, all, nonempty, short⟩
      rename_i blanks digits
      have field := readField?_of_spelling
        (.digits (List.forall_mem_nil _) all nonempty short) ends
      rw [List.nil_append] at field
      rw [readYear?, dropBlank_append_digits blank all nonempty]
      cases digits with
      | nil => exact absurd rfl nonempty
      | cons digit others =>
          have isOne := all digit List.mem_cons_self
          split
          · rename_i begins
            cases begins
            exact absurd isOne (by decide)
          · rename_i begins
            cases begins
            exact absurd isOne (by decide)
          · rw [field]
            rfl
  | positive blank all nonempty =>
      have unbounded := readUnbounded?_of_digits all nonempty ends
      rw [readYear?, List.append_assoc, dropBlank_append blank, List.cons_append,
        dropBlank_cons_of_not_blank _ (by decide)]
      simp only [unbounded, Option.map_some]
  | negative blank all nonempty =>
      have unbounded := readUnbounded?_of_digits all nonempty ends
      rw [readYear?, List.append_assoc, dropBlank_append blank, List.cons_append,
        dropBlank_cons_of_not_blank _ (by decide)]
      simp only [unbounded, Option.map_some]

/-- Nothing has no first character that could go on with what was read. -/
theorem ends_nil {property : Char → Prop} :
    ∀ character ∈ ([] : List Char).head?, property character := by
  simp

theorem readDate?_of_spelling
    {spelling rest : List Char}
    {date : Date}
    (isDate : DateSpelling spelling date)
    (ends : ∀ character ∈ rest.head?, isDigit character = false) :
    readDate? (spelling ++ rest) = some (date, rest) := by
  rcases isDate with ⟨isYear, isMonth, isDay, inRange⟩
  rename_i year month day
  have marked : ∀ others : List Char, ∀ character ∈ ('-' :: others).head?,
      isDigit character = false := by
    intro others character first
    cases first
    decide
  have readYear := readYear?_of_spelling isYear (marked (month ++ '-' :: (day ++ rest)))
  have readMonth := readField?_of_spelling isMonth (marked (day ++ rest))
  have readDay := readField?_of_spelling isDay ends
  have parts := Date.ofParts?_eq_some_iff.2
    (show date.year = date.year ∧ date.month = date.month ∧ date.day = date.day from
      ⟨rfl, rfl, rfl⟩)
  simp only [List.append_assoc, List.cons_append, readDate?, readYear, bind, Option.bind,
    readMark?, if_true, readMonth, readDay, inRange, parts, Option.map]

/-- Exactly the spellings of a date are read as that date. -/
theorem dateOfChars?_eq_some_iff {characters : List Char} {date : Date} :
    dateOfChars? characters = some date ↔ DateSpelling characters date := by
  constructor
  · intro read
    unfold dateOfChars? at read
    split at read
    · rename_i found whole
      cases read
      rcases readDate?_sound whole with ⟨spelling, rfl, isDate⟩
      rwa [List.append_nil]
    · cases read
  · intro isDate
    have read : readDate? (characters ++ []) = some (date, []) :=
      readDate?_of_spelling isDate ends_nil
    rw [List.append_nil] at read
    rw [dateOfChars?, read]

example :
    dateOfText? " +02025-3- 1" = some ⟨2025, 3, 1, by decide, by decide, by decide, by decide⟩ := by
  decide +kernel

/-! ## The written form -/

theorem naturalOf_replicate_append (count : Nat) (digits : List Char) :
    naturalOf (List.replicate count '0' ++ digits) = naturalOf digits := by
  induction count with
  | zero => rfl
  | succ count hypothesis =>
      rw [← hypothesis, List.replicate_succ]
      rfl

/-- A number that needs more digits than its width is read back as well. -/
theorem naturalOf_padded_any (width value : Nat) : naturalOf (padded width value) = value := by
  have wide : value < 10 ^ (value + 1) :=
    (Nat.lt_succ_self value).trans (Nat.lt_pow_self (by decide))
  have read := naturalOf_padded wide
  rw [padded, naturalOf_replicate_append] at read ⊢
  exact read

theorem padded_ne_nil (width value : Nat) : padded (width + 1) value ≠ [] := by
  intro empty
  have length := congrArg List.length empty
  rw [padded, List.length_append, List.length_replicate, List.length_nil] at length
  omega

theorem fieldSpelling_padded {width value : Nat} (fits : value < 10 ^ (width + 1)) :
    FieldSpelling (width + 1) (padded (width + 1) value) value := by
  have spelling := FieldSpelling.digits (List.forall_mem_nil _)
    (fun _ => isDigit_of_mem_padded) (padded_ne_nil width value)
    (length_padded (Nat.succ_pos width) fits).le
  rwa [List.nil_append, naturalOf_padded_any] at spelling

theorem yearSpelling_yearChars (year : Int) : YearSpelling (yearChars year) year := by
  have all : ∀ digit ∈ padded 4 year.natAbs, isDigit digit = true :=
    fun _ => isDigit_of_mem_padded
  have value := naturalOf_padded_any 4 year.natAbs
  rw [yearChars]
  split
  · have spelling := YearSpelling.negative (List.forall_mem_nil _) all (padded_ne_nil 3 _)
    rwa [List.nil_append, value, show -(year.natAbs : Int) = year by omega] at spelling
  · split
    · have spelling := YearSpelling.positive (List.forall_mem_nil _) all (padded_ne_nil 3 _)
      rwa [List.nil_append, value, show (year.natAbs : Int) = year by omega] at spelling
    · have spelling := YearSpelling.unsigned
        (fieldSpelling_padded (show year.natAbs < 10 ^ (3 + 1) by omega))
      rwa [show (year.natAbs : Int) = year by omega] at spelling

theorem dateSpelling_chars {date : Date} (inRange : yearInRange date.year = true) :
    DateSpelling date.chars date := by
  have spelling := DateSpelling.parts (yearSpelling_yearChars date.year)
    (fieldSpelling_padded date.month_fits) (fieldSpelling_padded date.day_fits) inRange
  simpa only [Date.chars, List.append_assoc, List.cons_append] using spelling

/-- Every date that can be read is read back from its written form. -/
theorem dateOfText?_text {date : Date} (inRange : yearInRange date.year = true) :
    dateOfText? date.text = some date := by
  rw [dateOfText?, Date.text, String.toList_ofList]
  exact dateOfChars?_eq_some_iff.2 (dateSpelling_chars inRange)

theorem DateSpelling.inRange {characters : List Char} {date : Date}
    (isDate : DateSpelling characters date) :
    yearInRange date.year = true := by
  cases isDate
  assumption

end UsageLedger.Calendar
