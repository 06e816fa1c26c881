import UsageLedger.Decimal.Literal
import UsageLedger.Decimal.Shortest
import UsageLedger.Decimal.Wide

/-!
# Numbers of columns as texts

Columns turn texts into doubles and doubles into texts by way of numbers of 64
binary digits, which is not always as exact as it could be.  Of a text, the
digits count that fill 64 bits, and the power of ten is multiplied in step by
step.  Of a double, fifteen digits are written, from the seventeen or more
that it has once it is scaled to a whole number.
-/

namespace UsageLedger.Store

open UsageLedger.Decimal
open UsageLedger.Text

/-- The white space that may stand around the text of a number. -/
def isNumberSpace (character : Char) : Bool :=
  character == ' ' || (9 ≤ character.toNat && character.toNat ≤ 13)

/-- The least number whose further digits do not count. -/
def fullDigits : Nat := 1844674407370955160

/-- The digits of a number that count, and how many at its end do not. -/
def countedDigits (digits : Nat) : Nat × Nat :=
  if fullDigits ≤ digits / 10 then
    let (counted, dropped) := countedDigits (digits / 10)
    (counted, dropped + 1)
  else (digits, 0)
termination_by digits
decreasing_by
  simp only [fullDigits] at *
  omega

/-- The least power of ten that is too long to be read as it is written. -/
def longPower : Nat := 100000

/-- A written power of ten as it counts: one that is too long counts as one of five digits. -/
def countedPower (power : Int) : Int :=
  if power.natAbs < longPower then power
  else if power < 0 then -10000 else 10000

/-- The digits from which on a positive power of ten is not moved into them. -/
def roomyDigits : Nat := 1844674407370954956

/-- Moves as much of a power of ten into the digits as there is room for. -/
def absorbPower (number : Scientific) : (fuel : Nat) → Scientific
  | 0 => number
  | fuel + 1 =>
    if 0 < number.exponent ∧ number.digits < roomyDigits then
      absorbPower ⟨number.digits * 10, number.exponent - 1⟩ fuel
    else if number.exponent < 0 ∧ number.digits % 10 = 0 then
      absorbPower ⟨number.digits / 10, number.exponent + 1⟩ fuel
    else number

/-- The double that a literal in a column denotes, sign aside. -/
def columnMagnitude (parts : Parts) : Float :=
  if parts.digits = 0 then 0.0
  else
    let (counted, dropped) := countedDigits parts.digits
    let power := countedPower parts.power - parts.places.length + dropped
    let number := absorbPower ⟨counted, power⟩ 20
    (Wide.scale ⟨number.digits, 0⟩ number.exponent).toFloat

/-- The double that a literal in a column denotes. -/
def columnReal (parts : Parts) : Float :=
  if parts.negative then -columnMagnitude parts else columnMagnitude parts

/-- The literal at the start of a text, white space aside, and what follows it. -/
def leadingParts? (text : String) : Option (Parts × List Char) :=
  readParts? (text.toList.dropWhile isNumberSpace)

/-- The number at the start of a text, zero if there is none. -/
def leadingReal (text : String) : Float :=
  match leadingParts? text with
  | some (parts, _) => columnReal parts
  | none => 0.0

/-- A number in the course of scaling: the scaled number times a power of ten. -/
structure Scaling where
  scaled : Wide
  power : Int

/-- Scales by a number of places as long as a condition holds. -/
def Scaling.repeatWhile (condition : Wide → Bool) (places : Int) (scaling : Scaling) :
    (fuel : Nat) → Scaling
  | 0 => scaling
  | fuel + 1 =>
    if condition scaling.scaled then
      Scaling.repeatWhile condition places
        ⟨scaling.scaled.times (Wide.powerOfTen places), scaling.power - places⟩ fuel
    else scaling

/-- Whether a wide number is at least a power of ten. -/
def reachesPower (power : Int) (value : Wide) : Bool :=
  (Wide.powerOfTen power).atMost value

/-- Scales a positive number until it has eighteen or nineteen whole digits. -/
def Scaling.settle (value : Wide) : Scaling :=
  let start : Scaling := ⟨value, 0⟩
  if reachesPower 19 value then
    let byHundreds := start.repeatWhile (reachesPower 119) (-100) 400
    let byTens := byHundreds.repeatWhile (reachesPower 29) (-10) 400
    byTens.repeatWhile (reachesPower 19) (-1) 400
  else
    let byHundreds := start.repeatWhile (fun scaled => !reachesPower (-97) scaled) 100 400
    let byTens := byHundreds.repeatWhile (fun scaled => !reachesPower 7 scaled) 10 400
    byTens.repeatWhile (fun scaled => !reachesPower 17 scaled) 1 400

/--
Doubles in text columns have a point up to fifteen whole digits and down to
three zeros after it.
-/
def columnLayout : Layout := ⟨15, -4, true, 2, true⟩

/-- The digits that doubles in text columns have at most. -/
def columnDigits : Nat := 15

/-- The first digits of a number, a half upwards. -/
def firstDigits (number : Scientific) : Scientific :=
  let surplus := (digitsOf number.digits).length - columnDigits
  let step := Nat.pow 10 surplus
  Scientific.strip ⟨(number.digits + step / 2) / step, number.exponent + surplus⟩ 20

/-- The decimal that stands for a double in a text column. -/
def columnDecimal (value : Binary) : Scientific :=
  if value.significand = 0 then ⟨0, 0⟩
  else
    let settled := Scaling.settle ⟨value.significand, value.exponent⟩
    firstDigits ⟨settled.scaled.floor, settled.power⟩

/-- A double as a text column stores it, or infinity by name. -/
def realText (value : Float) : String :=
  match Binary.ofFloat? value with
  | none => if value < 0.0 then "-Inf" else "Inf"
  | some exact =>
    let decimal := columnDecimal exact
    let written := decimal.write columnLayout
    String.ofList
      (if exact.negative && decimal.digits != 0 then '-' :: written else written)

end UsageLedger.Store
