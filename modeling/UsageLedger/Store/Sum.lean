import UsageLedger.Store.Cell

/-!
# Sums of stored values

Integers are added exactly as long as the sum fits 64 bits.  From the first
value on that is no integer the sum is a double, which Neumaier's method keeps
close to the exact sum: beside the running sum it keeps a compensation, the
part of each term that the running sum lost.  A sum of integers alone that
leaves 64 bits fails.
-/

namespace UsageLedger.Store

/-- A sum in progress. -/
inductive RunningSum where
  | exact (total : Int)
  | compensated (overflowed : Bool) (sum compensation : Float)

/-- The integers from which on a double is given in two parts. -/
def splitBound : Int := 4503599627370496

/-- The parts of an integer whose doubles are exact. -/
def splitInteger (value : Int) : Int × Int :=
  if value ≤ -splitBound ∨ splitBound ≤ value then
    (value - value.tmod 16384, value.tmod 16384)
  else (value, 0)

/-- Adds a double, keeping what the running sum loses. -/
def neumaier (sum compensation term : Float) : Float × Float :=
  let total := sum + term
  let lost :=
    if term.abs < sum.abs then (sum - total) + term else (term - total) + sum
  (total, compensation + lost)

/-- Adds a double to a sum. -/
def RunningSum.addReal (overflowed : Bool) (sums : Float × Float) (term : Float) :
    RunningSum :=
  let (sum, compensation) := neumaier sums.1 sums.2 term
  .compensated overflowed sum compensation

/-- Adds an integer to running sums of doubles. -/
def addInteger (sums : Float × Float) (value : Int) : Float × Float :=
  if value ≤ -splitBound ∨ splitBound ≤ value then
    let (large, small) := splitInteger value
    let (sum, compensation) := neumaier sums.1 sums.2 (Float.ofInt large)
    neumaier sum compensation (Float.ofInt small)
  else neumaier sums.1 sums.2 (Float.ofInt value)

/-- The sum of integers so far as running sums of doubles. -/
def startSums (total : Int) : Float × Float :=
  let (large, small) := splitInteger total
  (Float.ofInt large, Float.ofInt small)

/-- Whether an integer fits 64 bits. -/
def fitsInteger (value : Int) : Bool :=
  leastSigned ≤ value && value ≤ largestSigned

/-- The double that a value counts as. -/
def Cell.amount : Cell → Float
  | .integer value => Float.ofInt value
  | .real value => value
  | .text value => leadingReal value

/-- Adds a value to a sum. -/
def RunningSum.add : RunningSum → Cell → RunningSum
  | .exact total, .integer value =>
    if fitsInteger (total + value) then .exact (total + value)
    else
      let (sum, compensation) := addInteger (startSums total) value
      .compensated true sum compensation
  | .exact total, other => RunningSum.addReal false (startSums total) other.amount
  | .compensated overflowed sum compensation, .integer value =>
    let (total, lost) := addInteger (sum, compensation) value
    .compensated overflowed total lost
  | .compensated _ sum compensation, other =>
    RunningSum.addReal false (sum, compensation) other.amount

/-- The value of a sum. -/
def RunningSum.finish : RunningSum → Except StoreError Cell
  | .exact total => .ok (.integer total)
  | .compensated true _ _ => .error .integerOverflow
  | .compensated false sum compensation =>
    .ok (.real (if compensation.isFinite then sum + compensation else sum))

/-- The sum of values, an exact zero if there are none. -/
def sumCells (cells : List Cell) : Except StoreError Cell :=
  (cells.foldl RunningSum.add (.exact 0)).finish

end UsageLedger.Store
