import UsageLedger.Decimal.Binary
import UsageLedger.Text.Blank
import UsageLedger.Text.Digits

/-!
# Decimal literals and the doubles they denote

A literal is an optional sign, digits with at most one point among or around
them, and an optional power of ten; at least one digit stands before the power.
`Literal.toFloat` is the double nearest to the number the literal denotes, and
`realOfText?` reads a whole text, in which the words for infinity and for
"not a number" are literals too.
-/

namespace UsageLedger.Decimal

open UsageLedger.Text

/-- The number `± digits · 10 ^ exponent`. -/
structure Literal where
  negative : Bool
  digits : Nat
  exponent : Int
  deriving DecidableEq, Repr

/-- The double that is no number. -/
def notANumber : Float := 0.0 / 0.0

/-- The double nearest to the literal, sign aside; too large a number is infinite. -/
def Literal.magnitude (literal : Literal) : Float :=
  if literal.digits = 0 then 0.0
  else
    let size := ((digitsOf literal.digits).length : Int) + literal.exponent
    if 310 < size then infinity
    else if size < -330 then 0.0
    else if 0 ≤ literal.exponent then
      Float.ofScientific literal.digits false literal.exponent.toNat
    else
      Float.ofScientific literal.digits true literal.exponent.natAbs

/-- The double nearest to the literal. -/
def Literal.toFloat (literal : Literal) : Float :=
  if literal.negative then -literal.magnitude else literal.magnitude

/-- Splits off a sign, which is positive when none is written. -/
def readSign : List Char → Bool × List Char
  | '-' :: rest => (true, rest)
  | '+' :: rest => (false, rest)
  | rest => (false, rest)

/-- Splits off a power of ten: `e` or `E`, an optional sign, at least one digit. -/
def readPower : List Char → Int × List Char
  | [] => (0, [])
  | character :: rest =>
    if character = 'e' ∨ character = 'E' then
      let (negative, unsigned) := readSign rest
      let (digits, remaining) := takeAllDigits unsigned
      if digits.isEmpty then (0, character :: rest)
      else
        let power : Int := naturalOf digits
        (if negative then -power else power, remaining)
    else (0, character :: rest)

/-- Splits off the digits after a point, if a point comes first. -/
def readPlaces : List Char → List Char × List Char
  | '.' :: rest => takeAllDigits rest
  | rest => ([], rest)

/-- A literal as it is written: its sign, the digits around its point and its power of ten. -/
structure Parts where
  negative : Bool
  whole : List Char
  places : List Char
  power : Int
  deriving DecidableEq, Repr

/-- The number that all digits of a literal denote, its point aside. -/
def Parts.digits (parts : Parts) : Nat :=
  naturalOf (parts.whole ++ parts.places)

/-- The literal with its parts put together. -/
def Parts.literal (parts : Parts) : Literal :=
  ⟨parts.negative, parts.digits, parts.power - parts.places.length⟩

/-- Splits off the longest literal at the start of a text, in its parts. -/
def readParts? (characters : List Char) : Option (Parts × List Char) :=
  let (negative, unsigned) := readSign characters
  let (whole, afterWhole) := takeAllDigits unsigned
  let (places, afterPlaces) := readPlaces afterWhole
  if whole.isEmpty && places.isEmpty then none
  else
    let (power, rest) := readPower afterPlaces
    some (⟨negative, whole, places, power⟩, rest)

/-- Splits off the longest literal at the start of a text. -/
def readLiteral? (characters : List Char) : Option (Literal × List Char) :=
  (readParts? characters).map fun (parts, rest) => (parts.literal, rest)

/-- The words that denote a double that is not finite, in small letters. -/
def nonFiniteWord? (word : List Char) : Option Float :=
  if word = "inf".toList ∨ word = "infinity".toList then some infinity
  else if word = "nan".toList then some notANumber
  else none

/-- The double that a whole text denotes, words in any letter case included. -/
def realOfText? (text : String) : Option Float :=
  match readLiteral? text.toList with
  | some (literal, []) => some literal.toFloat
  | some _ => none
  | none =>
    let (negative, word) := readSign text.toList
    (nonFiniteWord? (word.map Char.toLower)).map fun value =>
      if negative then -value else value

end UsageLedger.Decimal
