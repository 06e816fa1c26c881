import UsageLedger.Calendar.DateText
import UsageLedger.Calendar.Instant

/-!
# The text of an instant

`Instant.text` is the one form that is written: universal time with three
places, cut and not rounded, and a leap second as second 60.  Two forms are
read.  `instantOfRfc3339?` takes RFC 3339 exactly, with any offset below a day
and any number of places; `instantOfLocal?` takes a lenient date, `T`, hours,
minutes and optional seconds without an offset, as universal time.
`instantOfText?` tries the first and then the second.
-/

namespace UsageLedger.Calendar

open UsageLedger.Text

/-- The second within the minute as written, 60 for a leap second. -/
def Instant.shownSecond (instant : Instant) : Nat :=
  instant.secondOfDay % 60 + instant.nano / nanosPerSecond

/-- The milliseconds as written. -/
def Instant.shownMilli (instant : Instant) : Nat :=
  instant.nano % nanosPerSecond / 1000000

/-- The characters of an instant: date, `T`, time of day with three places, `Z`. -/
def Instant.chars (instant : Instant) : List Char :=
  instant.date.chars ++ 'T' :: padded 2 (instant.secondOfDay / 3600) ++
    ':' :: padded 2 (instant.secondOfDay / 60 % 60) ++
    ':' :: padded 2 instant.shownSecond ++
    '.' :: padded 3 instant.shownMilli ++ ['Z']

def Instant.text (instant : Instant) : String :=
  String.ofList instant.chars

/-- Splits off exactly `width` digits. -/
def readExact? (width : Nat) (characters : List Char) :
    Option (Nat × List Char) :=
  let (digits, rest) := takeDigits width characters
  if digits.length = width then some (naturalOf digits, rest) else none

/-- The nanoseconds that digits after a point denote; those after the ninth do not count. -/
def nanosOfPlaces (digits : List Char) : Nat :=
  let counted := digits.take 9
  naturalOf counted * Nat.pow 10 (9 - counted.length)

/-- Splits off a point with at least one digit after it, if a point comes next. -/
def readFraction? : List Char → Option (Nat × List Char)
  | '.' :: rest =>
    let (digits, remaining) := takeAllDigits rest
    if digits.isEmpty then none else some (nanosOfPlaces digits, remaining)
  | rest => some (0, rest)

/-- The sign of an offset, `1` or `-1`. -/
def offsetSign? (character : Char) : Option Int :=
  if character = '+' then some 1
  else if character = '-' ∨ character = '\u2212' then some (-1)
  else none

/-- Splits off an offset, as minutes ahead of universal time. -/
def readOffset? : List Char → Option (Int × List Char)
  | [] => none
  | character :: rest =>
    if character = 'Z' ∨ character = 'z' then some (0, rest)
    else do
      let sign ← offsetSign? character
      let (hours, afterHours) ← readExact? 2 rest
      let (minutes, remaining) ← readExact? 2 (← readMark? ':' afterHours)
      if hours < 24 ∧ minutes < 60 then
        some (sign * (hours * 60 + minutes : Nat), remaining)
      else none

/-- Whether a character may stand between date and time in RFC 3339. -/
def isTimeSeparator (character : Char) : Bool :=
  character == 'T' || character == 't' || character == ' '

/-- Splits off the separator of date and time. -/
def readSeparator? : List Char → Option (List Char)
  | [] => none
  | character :: rest => if isTimeSeparator character then some rest else none

/-- The instant that characters give in RFC 3339. -/
def instantOfRfc3339Chars? (characters : List Char) : Option Instant := do
  let (year, afterYear) ← readExact? 4 characters
  let (month, afterMonth) ← readExact? 2 (← readMark? '-' afterYear)
  let (day, afterDay) ← readExact? 2 (← readMark? '-' afterMonth)
  let (hour, afterHour) ← readExact? 2 (← readSeparator? afterDay)
  let (minute, afterMinute) ← readExact? 2 (← readMark? ':' afterHour)
  let (second, afterSecond) ← readExact? 2 (← readMark? ':' afterMinute)
  let (nano, afterFraction) ← readFraction? afterSecond
  let (minutesAhead, rest) ← readOffset? afterFraction
  let date ← Date.ofParts? year month day
  let clock ← ClockTime.ofParts? hour minute second nano
  if rest.isEmpty then some (Instant.ofClock date clock minutesAhead) else none

/-- The instant that a whole text gives in RFC 3339. -/
def instantOfRfc3339? (text : String) : Option Instant :=
  instantOfRfc3339Chars? text.toList

/-- Splits off seconds with an optional fraction after a colon; without a colon there are none. -/
def readSeconds? : List Char → Option ((Nat × Nat) × List Char)
  | ':' :: rest => do
    let (second, afterSecond) ← readField? 2 rest
    let (nano, remaining) ← readFraction? afterSecond
    some ((second, nano), remaining)
  | rest => some ((0, 0), rest)

/-- The instant that characters give as date, `T` and time of day in universal time. -/
def instantOfLocalChars? (characters : List Char) : Option Instant := do
  let (date, afterDate) ← readDate? characters
  let (hour, afterHour) ← readField? 2 (← readMark? 'T' afterDate)
  let (minute, afterMinute) ← readField? 2 (← readMark? ':' afterHour)
  let ((second, nano), rest) ← readSeconds? afterMinute
  let clock ← ClockTime.ofParts? hour minute second nano
  if rest.isEmpty then some (Instant.ofClock date clock 0) else none

/-- The instant that a whole text gives without an offset. -/
def instantOfLocal? (text : String) : Option Instant :=
  instantOfLocalChars? text.toList

/-- The instant of a text with a time of day; without an offset it is universal time. -/
def instantOfText? (text : String) : Option Instant :=
  (instantOfRfc3339? text).or (instantOfLocal? text)

/-- The latency between two texts in RFC 3339, in milliseconds. -/
def latency? (start stop : Option String) : Option Int := do
  let started ← instantOfRfc3339? (← start)
  let stopped ← instantOfRfc3339? (← stop)
  some (millisecondsBetween started stopped)

end UsageLedger.Calendar
