import UsageLedger.Calendar.InstantText
import UsageLedger.Service.Error
import UsageLedger.Usage.Cost

/-!
# Bounds of queries

Two bounds that both have a time of day select a range of instants; otherwise
both are cut to their dates.  A listing bound with a time of day is an
instant; a bare date stands for its first moment as a lower bound and for its
last millisecond as an upper one.
-/

namespace UsageLedger.Service

open UsageLedger.Calendar
open UsageLedger.Text

/-- Whether a text has a time of day: it contains a `T`. -/
def hasTimeMark (text : String) : Bool :=
  text.toList.contains 'T'

/-- The instant of a bound with a time of day. -/
def instantBound (text : String) : Except InputProblem Instant :=
  match instantOfText? text with
  | some instant => .ok instant
  | none => .error (.invalidDateTime text)

/-- The date at the start of a bound. -/
def dateBound (text : String) : Except InputProblem Date :=
  match dateOfChars? (beforeTimeMark text.toList) with
  | some date => .ok date
  | none => .error (.invalidDate text)

/-- The range of instants between two trimmed bounds. -/
def timestampRange (lower upper : String) : Except InputProblem CostRange := do
  let first ← instantBound lower
  let last ← instantBound upper
  if first ≤ last then pure (.timestamps first.text last.text)
  else .error .reversedBounds

/-- The range of dates between two trimmed bounds. -/
def dateRange (lower upper : String) : Except InputProblem CostRange := do
  let first ← dateBound lower
  let last ← dateBound upper
  if first ≤ last then pure (.dates first.text last.text)
  else .error .reversedBounds

/-- The range that two bounds select. -/
def costRange (lower upper : String) : Except InputProblem CostRange :=
  let first := trim lower
  let last := trim upper
  if hasTimeMark first && hasTimeMark last then timestampRange first last
  else dateRange first last

/-- What stands behind the date of an upper bound without a time of day. -/
def endOfDay : String := "T23:59:59.999Z"

/-- Which side of a range a bound is on. -/
inductive BoundSide where
  | lower
  | upper
  deriving DecidableEq, Repr

/-- The date of a bound without a time of day, as it is compared with start times. -/
def dayBound (side : BoundSide) (date : Date) : String :=
  match side with
  | .lower => date.text
  | .upper => date.text ++ endOfDay

/-- A listing bound as it is compared with start times. -/
def requestBound (side : BoundSide) (text : String) : Except InputProblem String :=
  let bound := trim text
  if hasTimeMark bound then (instantBound bound).map Instant.text
  else
    match dateOfText? bound with
    | some date => .ok (dayBound side date)
    | none => .error (.invalidDate bound)

end UsageLedger.Service
