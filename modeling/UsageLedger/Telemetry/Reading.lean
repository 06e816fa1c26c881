import UsageLedger.Calendar.InstantText
import UsageLedger.Decimal.Literal
import UsageLedger.Telemetry.Row
import UsageLedger.Usage.Record
import UsageLedger.Width

/-!
# Usage read from the rows of the telemetry service

A metric row becomes a daily metric when its time starts with a date, an
observation row becomes a request record when it has an id; the other rows are
left out and counted.  Numbers that cannot be read count as nothing: `amount?`
reads a finite double from a number or a text, `countOf` cuts it to a natural
number that fits a signed 64-bit integer.
-/

namespace UsageLedger.Telemetry

open UsageLedger.Calendar
open UsageLedger.Decimal
open UsageLedger.Text

/-- Rows that could be read, in order, and the number of those that could not. -/
structure Transformed (α : Type) where
  rows : List α
  skipped : Nat

/-- Reads rows, leaving out those that cannot be read. -/
def Transformed.of {α β : Type} (read? : α → Option β) (raw : List α) :
    Transformed β where
  rows := raw.filterMap read?
  skipped := raw.countP fun row => (read? row).isNone

/-- The double that a number or a text denotes. -/
def anyAmount? : Json → Option Float
  | .number number => some (Decode.nearest number)
  | .text value => realOfText? (trim value)
  | _ => none

/-- The finite double that a number or a text denotes. -/
def amount? (value : Json) : Option Float :=
  (anyAmount? value).filter Float.isFinite

/-- The whole part of a positive amount up to the largest count; zero for anything else. -/
def countOf (value : Json) : Nat :=
  match amount? value with
  | some amount =>
    if 0.0 < amount then min amount.toUInt64.toNat largestSigned else 0
  | none => 0

/-- The date at the start of a time, in its one written form. -/
def dateOfTime? (time : String) : Option String :=
  (dateOfChars? (trimChars (beforeTimeMark time.toList))).map Date.text

/-- The trimmed name of a model, or the name that stands for a missing or blank one. -/
def modelOrUnknown (model : Option String) : String :=
  match model with
  | some name => if isBlankText name then unknownModel else trim name
  | none => unknownModel

def MetricRow.metric? (row : MetricRow) : Option DailyMetric := do
  let date ← row.time.bind dateOfTime?
  some
    { date
      model := modelOrUnknown row.model
      inputTokens := countOf row.inputTokens
      outputTokens := countOf row.outputTokens
      totalTokens := countOf row.totalTokens
      requestCount := countOf row.count
      totalCost := (amount? row.totalCost).getD 0.0 }

/-- The count of the flat form, or of the nested one if the flat one is null. -/
def tokens (flat nested : Json) : Nat :=
  match flat with
  | .null => countOf nested
  | _ => countOf flat

/-- The id of an observation, unless it is empty. -/
def ObservationRow.id? (row : ObservationRow) : Option String :=
  row.id.filter fun id => !id.isEmpty

def ObservationRow.record? (row : ObservationRow) : Option RequestRecord := do
  let id ← row.id?
  let usage := row.usage.getD UsageRow.empty
  some
    { id
      traceId := row.traceId
      name := row.name
      model := row.model
      startedAt := row.startTime
      finishedAt := row.endTime
      inputTokens := tokens row.inputUsage usage.input
      outputTokens := tokens row.outputUsage usage.output
      totalTokens := tokens row.totalUsage usage.total
      cost := (amount? row.calculatedTotalCost).or (amount? row.totalCost)
      latencyMs := latency? row.startTime row.endTime }

def dailyMetrics (rows : List MetricRow) : Transformed DailyMetric :=
  Transformed.of MetricRow.metric? rows

def requestRecords (rows : List ObservationRow) : Transformed RequestRecord :=
  Transformed.of ObservationRow.record? rows

/-- Every row is either kept or counted as left out. -/
theorem Transformed.length_add_skipped
    {α β : Type}
    (read? : α → Option β)
    (raw : List α) :
    (Transformed.of read? raw).rows.length +
      (Transformed.of read? raw).skipped = raw.length := by
  induction raw with
  | nil => rfl
  | cons row rest hypothesis =>
    simp only [Transformed.of] at hypothesis ⊢
    cases found : read? row with
    | none => simp [found]; omega
    | some value => simp [found]; omega

end UsageLedger.Telemetry
