import UsageLedger.Calendar.InstantText
import UsageLedger.Usage.Import
import UsageLedger.Width

/-!
# The window of an import

The first import looks back a fixed number of days; a later one starts where
the last successful one ended.  Every window ends at the present instant.
Metrics are asked for by whole dates, observations by instants.  In the first
days of the calendar there is no date to look back to.
-/

namespace UsageLedger

open UsageLedger.Calendar

/-- What an import asks for. -/
@[ext]
structure ImportWindow where
  mode : ImportMode
  fromTimestamp : Option String
  fromDate : String
  toTimestamp : String
  toDate : String
  deriving DecidableEq, Repr

/-- The days that a full import looks back. -/
def lookbackDays : Nat := 90

/-- The text before the first `T` of a timestamp. -/
def dateOfTimestamp (timestamp : String) : String :=
  String.ofList (beforeTimeMark timestamp.toList)

/-- The window of the first import at an instant. -/
def ImportWindow.full (now : Instant) : ImportWindow where
  mode := .full
  fromTimestamp := none
  fromDate := (now.minusDays lookbackDays).date.text
  toTimestamp := now.text
  toDate := now.date.text

/-- The window of an import at an instant that starts where a run ended. -/
def ImportWindow.incremental (run : ImportRun) (now : Instant) : ImportWindow where
  mode := .incremental
  fromTimestamp := some run.toTimestamp
  fromDate := dateOfTimestamp run.toTimestamp
  toTimestamp := now.text
  toDate := now.date.text

/-- Whether the date that a full import looks back to is in the calendar. -/
def canLookBack (now : Instant) : Bool :=
  yearInRange (now.minusDays lookbackDays).date.year

/-- The window of an import at an instant, given the last successful run. -/
def ImportWindow.plan (lastSuccess : Option ImportRun) (now : Instant) :
    Except Overflow ImportWindow :=
  match lastSuccess with
  | some run => .ok (.incremental run now)
  | none => if canLookBack now then .ok (.full now) else .error .lookback

end UsageLedger
