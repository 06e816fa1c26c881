import UsageLedger.Calendar.InstantText
import UsageLedger.Decimal.Literal
import UsageLedger.Toml.Basic
import UsageLedger.Width

/-!
# TOML scalars

Integers in four bases and floats may have single underscores between digits.
A time is a date, a time of day or both, with an offset only behind both.
`scalar?` reads a whole word as a number, a truth value or a time.
-/

namespace UsageLedger.Toml

open UsageLedger.Calendar
open UsageLedger.Decimal
open UsageLedger.Text

/-- The digits of a run in which single underscores stand between digits. -/
def joinDigits? (isDigitOf : Char → Bool) : List Char → Option (List Char)
  | [] => none
  | [character] => if isDigitOf character then some [character] else none
  | first :: '_' :: rest =>
    if isDigitOf first then (joinDigits? isDigitOf rest).map (first :: ·) else none
  | first :: rest =>
    if isDigitOf first then (joinDigits? isDigitOf rest).map (first :: ·) else none

/-- The value of a digit of some base up to sixteen. -/
def baseDigit? (base : Nat) (character : Char) : Option Nat :=
  let code := character.toLower.toNat
  let value :=
    if 48 ≤ code ∧ code ≤ 57 then code - 48
    else if 97 ≤ code ∧ code ≤ 102 then code - 87
    else 16
  if value < base then some value else none

/-- An integer of 64 bits. -/
def boundedInteger? (value : Int) : Option Value :=
  if leastSigned ≤ value ∧ value ≤ largestSigned then some (.integer value)
  else none

def basedInteger? (base : Nat) (characters : List Char) : Option Value := do
  let digits ← joinDigits? (fun character => (baseDigit? base character).isSome) characters
  boundedInteger?
    (digits.foldl
      (fun value digit => base * value + ((baseDigit? base digit).getD 0 : Nat)) (0 : Nat))

/-- The digits of a whole number: a zero alone, or digits that start with none. -/
def wholeDigits? (characters : List Char) : Option (List Char) :=
  match joinDigits? isDigit characters with
  | some ('0' :: _ :: _) => none
  | other => other

/-- An integer in base ten. -/
def decimalInteger? (characters : List Char) : Option Value := do
  let (negative, unsigned) := readSign characters
  let digits ← wholeDigits? unsigned
  let value : Int := naturalOf digits
  boundedInteger? (if negative then -value else value)

/-- An integer in any base. -/
def integer? : List Char → Option Value
  | '0' :: 'x' :: rest => basedInteger? 16 rest
  | '0' :: 'o' :: rest => basedInteger? 8 rest
  | '0' :: 'b' :: rest => basedInteger? 2 rest
  | characters => decimalInteger? characters

/-- The power of ten of a float. -/
def power? (characters : List Char) : Option Int := do
  let (negative, unsigned) := readSign characters
  let digits ← joinDigits? isDigit unsigned
  let value : Int := naturalOf digits
  some (if negative then -value else value)

/-- Splits characters at the first one that satisfies a condition, which is left out. -/
def splitFirst? (condition : Char → Bool) (characters : List Char) :
    List Char × Option (List Char) :=
  let before := characters.takeWhile fun character => !condition character
  match characters.dropWhile fun character => !condition character with
  | [] => (before, none)
  | _ :: after => (before, some after)

/-- A part that may be missing but must be right if it is there. -/
def optionalPart? {α : Type} (read? : List Char → Option α) :
    Option (List Char) → Option (Option α)
  | none => some none
  | some characters => (read? characters).map some

/--
A float in digits: a whole number with places, a power of ten or both.  It must
not be too large, but may be too small.
-/
def digitsFloat? (characters : List Char) : Option Value := do
  let (negative, unsigned) := readSign characters
  let (mantissa, exponent) :=
    splitFirst? (fun character => character == 'e' || character == 'E') unsigned
  let (whole, fraction) := splitFirst? (· == '.') mantissa
  let digits ← wholeDigits? whole
  let places ← optionalPart? (joinDigits? isDigit) fraction
  let power ← optionalPart? power? exponent
  if places.isNone && power.isNone then none
  else
    let decimals := places.getD []
    let literal : Literal :=
      ⟨negative, naturalOf (digits ++ decimals),
        power.getD 0 - decimals.length⟩
    let value := literal.toFloat
    if value == infinity then none else some (.real value)

def float? (characters : List Char) : Option Value :=
  let (negative, word) := readSign characters
  if word = "inf".toList then some (.real (if negative then -infinity else infinity))
  else if word = "nan".toList then some (.real notANumber)
  else digitsFloat? characters

/-- Splits off a date. -/
def readDay? (characters : List Char) : Option (List Char) := do
  let (year, afterYear) ← readExact? 4 characters
  let (month, afterMonth) ← readExact? 2 (← readMark? '-' afterYear)
  let (day, rest) ← readExact? 2 (← readMark? '-' afterMonth)
  (Date.ofParts? year month day).map fun _ => rest

/-- Splits off a time of day. -/
def readClock? (characters : List Char) : Option (List Char) := do
  let (hour, afterHour) ← readExact? 2 characters
  let (minute, afterMinute) ← readExact? 2 (← readMark? ':' afterHour)
  let (second, afterSecond) ← readExact? 2 (← readMark? ':' afterMinute)
  let (nano, rest) ← readFraction? afterSecond
  (ClockTime.ofParts? hour minute second nano).map fun _ => rest

/-- Whether characters are nothing or an offset from universal time. -/
def isOffset (characters : List Char) : Bool :=
  match characters with
  | [] => true
  | _ =>
    match readOffset? characters with
    | some (_, []) => characters.all fun character => character.toNat < 0x80
    | _ => false

/-- Whether characters are a date, a time of day or both. -/
def isTime (characters : List Char) : Bool :=
  match readDay? characters with
  | some [] => true
  | some (separator :: rest) =>
    isTimeSeparator separator && ((readClock? rest).map isOffset).getD false
  | none => ((readClock? characters).map List.isEmpty).getD false

def scalar? (word : List Char) : Option Value :=
  if word = "true".toList then some (.bool true)
  else if word = "false".toList then some (.bool false)
  else if isTime word then some (.time (String.ofList word))
  else (float? word).or (integer? word)

end UsageLedger.Toml
