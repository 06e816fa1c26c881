import UsageLedger.Store.Error
import UsageLedger.Store.NumberText
import UsageLedger.Width

/-!
# Stored values

A column of numbers holds integers, doubles or, when it was overwritten with a
text that is no number, that text.  Columns have a preference: an integer
column turns whole doubles and texts of numbers into integers, a column of
doubles turns integers and texts of numbers into doubles, a text column turns
numbers into texts.  A double is stored without the sign of a zero, and one
that is not a number is not stored at all.
-/

namespace UsageLedger.Store

open UsageLedger.Decimal
open UsageLedger.Text

/-- A stored value that is not missing. -/
inductive Cell where
  | integer (value : Int)
  | real (value : Float)
  | text (value : String)

/-- The kind of a stored value. -/
def Cell.kind : Cell → CellKind
  | .integer _ => .integer
  | .real _ => .real
  | .text _ => .text

/-- A count as it is stored: one that is too large becomes the largest integer. -/
def storedCount (count : Nat) : Cell :=
  .integer (min count largestSigned : Nat)

/-- A double without the sign of a zero. -/
def withoutZeroSign (value : Float) : Float :=
  if value == 0.0 then 0.0 else value

/-- A double as it is stored. -/
def storedReal (value : Float) : Cell :=
  .real (withoutZeroSign value)

/-- A double that may be missing; one that is not a number is. -/
def keptReal (value : Option Float) : Option Float :=
  value.filter fun kept => !kept.isNaN

/-- An integer column as a count; a negative integer counts as none. -/
def Cell.readCount (index : Nat) (column : String) : Cell → Except StoreError Nat
  | .integer value => .ok value.toNat
  | other => .error (.columnKind index column other.kind)

def Cell.readInteger (index : Nat) (column : String) : Cell → Except StoreError Int
  | .integer value => .ok value
  | other => .error (.columnKind index column other.kind)

/-- A column of doubles as a double. -/
def Cell.readReal (index : Nat) (column : String) : Cell → Except StoreError Float
  | .real value => .ok value
  | .integer value => .ok (Float.ofInt value)
  | .text _ => .error (.columnKind index column .text)

/-- The integer a double is equal to, when it is stored as one. -/
def wholeInteger? (value : Float) : Option Int := do
  let exact ← Binary.ofFloat? value
  let magnitude : Nat := exact.scaled 1
  let whole : Int := if exact.negative then -(magnitude : Int) else magnitude
  if Float.ofInt whole == value ∧ leastSigned < whole ∧ whole < largestSigned then
    some whole
  else none

/-- Whether a literal is written without point and power. -/
def isPlainInteger (characters : List Char) : Bool :=
  (readSign characters).2.all isDigit

/-- The number that a whole text denotes. -/
def numberOfText? (text : String) : Option Cell :=
  match leadingParts? text with
  | none => none
  | some (parts, rest) =>
    if rest.all isNumberSpace then
      let characters := text.toList.dropWhile isNumberSpace
      let written := characters.take (characters.length - rest.length)
      let value : Int :=
        if parts.negative then -(parts.digits : Int) else parts.digits
      if isPlainInteger written ∧ leastSigned ≤ value ∧ value ≤ largestSigned then
        some (.integer value)
      else some (.real (columnReal parts))
    else none

/-- A number as an integer column stores it. -/
def preferInteger : Cell → Cell
  | .real value =>
    match wholeInteger? value with
    | some whole => .integer whole
    | none => .real value
  | other => other

/-- A number as a column of doubles stores it. -/
def preferReal : Cell → Cell
  | .integer value => .real (Float.ofInt value)
  | .real value => storedReal value
  | other => other

/-- A value as an integer column stores it. -/
def Cell.forIntegers : Cell → Cell
  | .text value => preferInteger ((numberOfText? value).getD (.text value))
  | other => preferInteger other

/-- A value as a column of doubles stores it. -/
def Cell.forReals : Cell → Cell
  | .text value => preferReal ((numberOfText? value).getD (.text value))
  | other => preferReal other

/-- A value as a text column stores it. -/
def Cell.forTexts : Cell → String
  | .integer value => String.ofList (signedDigits value)
  | .real value => realText value
  | .text value => value

@[simp]
theorem readCount_storedCount
    (index : Nat)
    (column : String)
    (count : Nat) :
    (storedCount count).readCount index column =
      .ok (min count largestSigned) := by
  rfl

end UsageLedger.Store
