import UsageLedger.Calendar.Date
import UsageLedger.Text.Blank
import UsageLedger.Text.Digits

/-!
# The text of a date

`Date.text` writes year, month and day with at least four, two and two digits;
a year before 0 or after 9999 carries a sign.  `readDate?` is more lenient than
that: it takes one or two digits for month and day, up to four for a year
without a sign and any number for one with a sign, and skips white space in
front of each number.  `dateOfText?` reads a whole text this way.
-/

namespace UsageLedger.Calendar

open UsageLedger.Text

/-- A year with at least four digits, signed outside 0 to 9999. -/
def yearChars (year : Int) : List Char :=
  if year < 0 then '-' :: padded 4 year.natAbs
  else if 9999 < year then '+' :: padded 4 year.natAbs
  else padded 4 year.natAbs

/-- The characters of a date, parts joined by hyphens. -/
def Date.chars (date : Date) : List Char :=
  yearChars date.year ++ '-' :: padded 2 date.month ++ '-' :: padded 2 date.day

def Date.text (date : Date) : String :=
  String.ofList date.chars

/-- Whether a year is in the calendar; others are neither read nor reckoned to. -/
def yearInRange (year : Int) : Bool :=
  -262143 ≤ year && year ≤ 262142

/-- Splits off one to `limit` digits after white space. -/
def readField? (limit : Nat) (characters : List Char) :
    Option (Nat × List Char) :=
  let (digits, rest) := takeDigits limit (dropBlank characters)
  if digits.isEmpty then none else some (naturalOf digits, rest)

/-- Splits off at least one digit. -/
def readUnbounded? (characters : List Char) : Option (Nat × List Char) :=
  let (digits, rest) := takeAllDigits characters
  if digits.isEmpty then none else some (naturalOf digits, rest)

/-- Splits off a year after white space: up to four digits, or a sign and any number. -/
def readYear? (characters : List Char) : Option (Int × List Char) :=
  match dropBlank characters with
  | '-' :: rest =>
    (readUnbounded? rest).map fun (value, remaining) => (-(value : Int), remaining)
  | '+' :: rest =>
    (readUnbounded? rest).map fun (value, remaining) => ((value : Int), remaining)
  | rest =>
    (readField? 4 rest).map fun (value, remaining) => ((value : Int), remaining)

/-- Splits off a given character. -/
def readMark? (mark : Char) : List Char → Option (List Char)
  | [] => none
  | character :: rest => if character = mark then some rest else none

/-- Splits off a date in the lenient form. -/
def readDate? (characters : List Char) : Option (Date × List Char) := do
  let (year, afterYear) ← readYear? characters
  let (month, afterMonth) ← readField? 2 (← readMark? '-' afterYear)
  let (day, rest) ← readField? 2 (← readMark? '-' afterMonth)
  if yearInRange year then
    (Date.ofParts? year month day).map fun date => (date, rest)
  else none

/-- The date that a whole text gives in the lenient form. -/
def dateOfChars? (characters : List Char) : Option Date :=
  match readDate? characters with
  | some (date, []) => some date
  | _ => none

/-- The date that a whole text gives in the lenient form. -/
def dateOfText? (text : String) : Option Date :=
  dateOfChars? text.toList

/-- The characters before the first `T`, all of them if there is none. -/
def beforeTimeMark (characters : List Char) : List Char :=
  characters.takeWhile (· != 'T')

end UsageLedger.Calendar
