import UsageLedger.Json.Decode

/-!
# Rows of the telemetry service

The service answers with rows in which any field may be missing.  Texts must
be texts or null; numbers may arrive as numbers, as texts or as anything else,
so they are kept as JSON.
-/

namespace UsageLedger.Telemetry

open UsageLedger.Decode

/-- The usage of a model on a day as the service sums it up. -/
structure MetricRow where
  model : Option String
  time : Option String
  totalCost : Json
  inputTokens : Json
  outputTokens : Json
  totalTokens : Json
  count : Json

/-- The usage of an observation in its nested form. -/
structure UsageRow where
  input : Json
  output : Json
  total : Json

/-- The usage of an observation that has no nested form. -/
def UsageRow.empty : UsageRow := ⟨.null, .null, .null⟩

/-- One call of a model as the service reports it. -/
structure ObservationRow where
  id : Option String
  traceId : Option String
  name : Option String
  model : Option String
  startTime : Option String
  endTime : Option String
  usage : Option UsageRow
  inputUsage : Json
  outputUsage : Json
  totalUsage : Json
  calculatedTotalCost : Json
  totalCost : Json

/-- Any value, kept as it is. -/
def kept : Decoder Json :=
  fun value => value.keep

/-- A field for a text that may be missing. -/
def textField (name : String) : RecordField (Option String) :=
  .defaulted name (optional text) none

/-- A field for any value; a missing one is null. -/
def keptField (name : String) : RecordField Json :=
  .defaulted name kept .null

/-- The fields of a metric row. -/
def MetricRow.shape : Shape MetricRow :=
  (Shape.of MetricRow.mk)
    |>.with (textField "providedModelName")
    |>.with (textField "time_dimension")
    |>.with (keptField "sum_totalCost")
    |>.with (keptField "sum_inputTokens")
    |>.with (keptField "sum_outputTokens")
    |>.with (keptField "sum_totalTokens")
    |>.with (keptField "count_count")

/-- The fields of nested usage. -/
def UsageRow.shape : Shape UsageRow :=
  (Shape.of UsageRow.mk)
    |>.with (keptField "input")
    |>.with (keptField "output")
    |>.with (keptField "total")

/-- The fields of an observation row. -/
def ObservationRow.shape : Shape ObservationRow :=
  (Shape.of ObservationRow.mk)
    |>.with (textField "id")
    |>.with (textField "traceId")
    |>.with (textField "name")
    |>.with (textField "model")
    |>.with (textField "startTime")
    |>.with (textField "endTime")
    |>.with (.defaulted "usage" (optional UsageRow.shape.decode) none)
    |>.with (keptField "inputUsage")
    |>.with (keptField "outputUsage")
    |>.with (keptField "totalUsage")
    |>.with (keptField "calculatedTotalCost")
    |>.with (keptField "totalCost")

/-- The answer to a question for metrics. -/
structure MetricsAnswer where
  data : List MetricRow

/-- The fields of an answer with metrics. -/
def MetricsAnswer.shape : Shape MetricsAnswer :=
  (Shape.of MetricsAnswer.mk)
    |>.with (.defaulted "data" (list MetricRow.shape.decode) [])

/-- What an answer says about the page after it. -/
structure PageMark where
  cursor : Option String

/-- The fields of a page mark. -/
def PageMark.shape : Shape PageMark :=
  (Shape.of PageMark.mk)
    |>.with (textField "cursor")

/-- The answer to a question for observations. -/
structure ObservationsAnswer where
  data : List ObservationRow
  mark : Option PageMark

/-- The fields of an answer with observations. -/
def ObservationsAnswer.shape : Shape ObservationsAnswer :=
  (Shape.of ObservationsAnswer.mk)
    |>.with (.defaulted "data" (list ObservationRow.shape.decode) [])
    |>.with (.defaulted "meta" (optional PageMark.shape.decode) none)

/-- The cursor of the page after an answer. -/
def ObservationsAnswer.nextCursor? (answer : ObservationsAnswer) : Option String :=
  answer.mark.bind PageMark.cursor

end UsageLedger.Telemetry
