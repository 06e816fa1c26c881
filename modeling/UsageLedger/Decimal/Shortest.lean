import UsageLedger.Decimal.Binary
import UsageLedger.Text.Digits

/-!
# The shortest decimal that reads back

Every finite double is the nearest double to each number of an interval around
it, ends included when the significand is even.  `shortest` searches the
decimal grids from coarse to fine and takes the first point it finds inside
the interval, the nearer one where a grid has two.  `Layout` says how a decimal
is written out.
-/

namespace UsageLedger.Decimal

open UsageLedger.Text

/-- The number `digits · 10 ^ exponent`. -/
structure Scientific where
  digits : Nat
  exponent : Int
  deriving DecidableEq, Repr

/-- Three points in quarters of the unit `2 ^ (exponent - 2)`: the value and its interval. -/
structure Interval where
  low : Nat
  value : Nat
  high : Nat
  closed : Bool

/-- The numbers for which the double with these parts is the nearest one. -/
def Interval.around (significand : Nat) (exponent : Int) : Interval where
  low :=
    if significand = hiddenBit ∧ leastExponent < exponent then 4 * significand - 1
    else 4 * significand - 2
  value := 4 * significand
  high := 4 * significand + 2
  closed := significand % 2 == 0

/-- The natural numbers that the two sides of a comparison are multiplied by. -/
structure Scale where
  quarter : Nat
  grid : Nat

/-- Common multiples for quarters of `2 ^ exponent` and for steps of `10 ^ step`. -/
def Scale.of (exponent step : Int) : Scale where
  quarter :=
    (if 2 ≤ exponent then Nat.pow 2 (exponent - 2).toNat else 1) *
      (if step < 0 then Nat.pow 10 step.natAbs else 1)
  grid :=
    (if exponent < 2 then Nat.pow 2 (2 - exponent).toNat else 1) *
      (if 0 ≤ step then Nat.pow 10 step.toNat else 1)

/-- Whether a grid point lies in the interval. -/
def Scale.holds (scale : Scale) (interval : Interval) (point : Nat) : Bool :=
  let low := interval.low * scale.quarter
  let high := interval.high * scale.quarter
  let position := point * scale.grid
  if interval.closed then low ≤ position && position ≤ high
  else low < position && position < high

/-- The grid point of a step that lies in the interval, the nearer of two. -/
def gridPoint? (interval : Interval) (exponent step : Int) : Option Nat :=
  let scale := Scale.of exponent step
  let value := interval.value * scale.quarter
  let below := value / scale.grid
  let hitBelow := scale.holds interval below && below != 0
  let hitAbove := scale.holds interval (below + 1)
  if hitBelow && hitAbove then
    let distance := value - below * scale.grid
    let remaining := (below + 1) * scale.grid - value
    if distance < remaining || (distance == remaining && below % 2 == 0) then
      some below
    else
      some (below + 1)
  else if hitBelow then some below
  else if hitAbove then some (below + 1)
  else none

/-- Counts the zeros after the point of a quotient below one. -/
def leadingZeros (numerator denominator : Nat) : (fuel : Nat) → Nat
  | 0 => 0
  | fuel + 1 =>
    if denominator ≤ numerator * 10 then 0
    else leadingZeros (numerator * 10) denominator fuel + 1

/-- The power of ten just above a positive value: `10 ^ (p - 1) ≤ value < 10 ^ p`. -/
def decimalSize (interval : Interval) (exponent : Int) : Int :=
  let scale := Scale.of exponent 0
  let numerator := interval.value * scale.quarter
  if scale.grid ≤ numerator then (digitsOf (numerator / scale.grid)).length
  else -(leadingZeros numerator scale.grid 400 : Int)

/-- Drops the zeros at the end of the digits. -/
def Scientific.strip (value : Scientific) : (fuel : Nat) → Scientific
  | 0 => value
  | fuel + 1 =>
    if value.digits % 10 = 0 ∧ value.digits ≠ 0 then
      Scientific.strip ⟨value.digits / 10, value.exponent + 1⟩ fuel
    else value

/-- Tries grids with one more digit each time. -/
def searchGrids (interval : Interval) (exponent size : Int) :
    (places fuel : Nat) → Scientific
  | _, 0 => ⟨interval.value, 0⟩
  | places, fuel + 1 =>
    let step := size - places
    match gridPoint? interval exponent step with
    | some point => Scientific.strip ⟨point, step⟩ 20
    | none => searchGrids interval exponent size (places + 1) fuel

/-- The shortest decimal whose nearest double has these parts. -/
def shortest (significand : Nat) (exponent : Int) : Scientific :=
  if significand = 0 then ⟨0, 0⟩
  else
    let interval := Interval.around significand exponent
    searchGrids interval exponent (decimalSize interval exponent) 1 20

/-- How a decimal is written. -/
structure Layout where
  /-- The most digits before a point that is written without an exponent. -/
  largestPointPosition : Int
  /-- The first position of a point that is too far left to be written without an exponent. -/
  smallestPointPosition : Int
  /-- Whether a positive exponent has its sign. -/
  plusSign : Bool
  /-- The least number of digits of an exponent. -/
  exponentWidth : Nat
  /-- Whether a single digit before an exponent has a zero after its point. -/
  keepsPlace : Bool

/--
Decimals of JSON texts have a point up to sixteen whole digits and down to five
zeros after it.
-/
def Layout.json : Layout := ⟨16, -5, false, 1, false⟩

/-- An exponent as it is written. -/
def Layout.power (layout : Layout) (exponent : Int) : List Char :=
  let sign :=
    if exponent < 0 then ['-'] else if layout.plusSign then ['+'] else []
  'e' :: sign ++ padded layout.exponentWidth exponent.natAbs

/-- A decimal as text; a number without places keeps one zero after its point. -/
def Scientific.write (layout : Layout) (value : Scientific) : List Char :=
  let digits := digitsOf value.digits
  let point : Int := digits.length + value.exponent
  if value.digits = 0 then "0.0".toList
  else if 0 ≤ value.exponent ∧ point ≤ layout.largestPointPosition then
    digits ++ List.replicate value.exponent.toNat '0' ++ ".0".toList
  else if 0 < point ∧ point ≤ layout.largestPointPosition then
    digits.take point.toNat ++ '.' :: digits.drop point.toNat
  else if layout.smallestPointPosition < point ∧ point ≤ 0 then
    "0.".toList ++ List.replicate point.natAbs '0' ++ digits
  else
    let power := layout.power (point - 1)
    match digits with
    | first :: [] =>
      if layout.keepsPlace then first :: '.' :: '0' :: power else first :: power
    | first :: rest => first :: '.' :: rest ++ power
    | [] => power

/-- The text of a finite double; the others have none. -/
def floatText? (layout : Layout) (value : Float) : Option (List Char) :=
  (Binary.ofFloat? value).map fun binary =>
    let written := (shortest binary.significand binary.exponent).write layout
    if binary.negative then '-' :: written else written

end UsageLedger.Decimal
