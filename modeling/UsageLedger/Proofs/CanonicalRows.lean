import Mathlib.Data.List.Forall2
import UsageLedger.Proofs.LenientDates
import UsageLedger.Proofs.ModelNames
import UsageLedger.Proofs.Rollups

/-!
# What rows of the telemetry service become

A row of metrics is kept if its time begins with a date, in any spelling, and
an observation if it has an id; the others are counted and left out, and the
rows that are kept stay in their order.  Whatever a row looked like, what it
becomes is canonical: its date is the written form of a date, its model is
trimmed and not empty, its counts fit a signed integer and its costs are
finite.

The columns of the store hold such values as they are.  A count is not cut, and
of a cost at most the sign of a zero is lost, which no comparison sees.
-/

namespace UsageLedger

open UsageLedger.Calendar
open UsageLedger.Store
open UsageLedger.Text

namespace Telemetry

/-! ## Rows that are kept -/

/-- Which rows are kept, in their order, and what they become. -/
structure Transformed.Keeps {α β : Type} (keeps : α → Prop) [DecidablePred keeps]
    (becomes : α → β → Prop) (raw : List α) (result : Transformed β) : Prop where
  counted : result.rows.length + result.skipped = raw.length
  kept : List.Forall₂ becomes (raw.filter fun row => keeps row) result.rows
  skipped : result.skipped = raw.countP fun row => ¬ keeps row

theorem Transformed.keeps_of
    {α β : Type}
    {keeps : α → Prop}
    [DecidablePred keeps]
    {becomes : α → β → Prop}
    {read? : α → Option β}
    (isSome_iff : ∀ row, (read? row).isSome = true ↔ keeps row)
    (become : ∀ row value, read? row = some value → becomes row value)
    (raw : List α) :
    (Transformed.of read? raw).Keeps keeps becomes raw where
  counted := Transformed.length_add_skipped read? raw
  kept := by
    rw [Transformed.of]
    induction raw with
    | nil => exact .nil
    | cons row rest hypothesis =>
        cases read : read? row with
        | none =>
            have left : ¬ keeps row := by
              rw [← isSome_iff, read]
              exact Bool.false_ne_true
            rw [List.filter_cons_of_neg (by simpa using left), List.filterMap_cons_none read]
            exact hypothesis
        | some value =>
            have isKept : keeps row := by
              rw [← isSome_iff, read]
              rfl
            rw [List.filter_cons_of_pos (by simpa using isKept),
              List.filterMap_cons_some read]
            exact .cons (become row value read) hypothesis
  skipped := by
    refine List.countP_congr fun row _ => ?_
    rw [decide_eq_true_eq, ← isSome_iff, Option.isNone_iff_eq_none, Bool.not_eq_true,
      Option.isSome_eq_false_iff, Option.isNone_iff_eq_none]

/-- A row of metrics for a date, which stands in front of the mark of a time of day. -/
def MetricRow.IsOn (row : MetricRow) (date : Date) : Prop :=
  ∃ time, row.time = some time ∧ DateSpelling (trimChars (beforeTimeMark time.toList)) date

def MetricRow.IsDated (row : MetricRow) : Prop :=
  ∃ date, row.IsOn date

/-- An observation that has an id. -/
def ObservationRow.IsIdentified (row : ObservationRow) : Prop :=
  ∃ id, row.id = some id ∧ id ≠ ""

end Telemetry

/-! ## What they become -/

/-- A metric in the one form in which its day and its model are written. -/
structure DailyMetric.IsCanonical (metric : DailyMetric) : Prop where
  date : ∃ date : Date, dateOfText? metric.date = some date ∧ date.text = metric.date
  model : IsTidy metric.model
  inputTokens : metric.inputTokens ≤ largestSigned
  outputTokens : metric.outputTokens ≤ largestSigned
  totalTokens : metric.totalTokens ≤ largestSigned
  requestCount : metric.requestCount ≤ largestSigned
  totalCost : metric.totalCost.isFinite = true

/-- A record with an id whose numbers are in range. -/
structure RequestRecord.IsCanonical (record : RequestRecord) : Prop where
  id : record.id ≠ ""
  inputTokens : record.inputTokens ≤ largestSigned
  outputTokens : record.outputTokens ≤ largestSigned
  totalTokens : record.totalTokens ≤ largestSigned
  cost : ∀ cost, record.cost = some cost → cost.isFinite = true

namespace Telemetry

/-- What a row of metrics becomes. -/
structure MetricRow.Becomes (row : MetricRow) (metric : DailyMetric) : Prop where
  date : ∃ date, row.IsOn date ∧ metric.date = date.text
  model : metric.model = modelOrUnknown row.model
  canonical : metric.IsCanonical

/-- What an observation becomes. -/
structure ObservationRow.Becomes (row : ObservationRow) (record : RequestRecord) : Prop where
  id : row.id = some record.id
  canonical : record.IsCanonical

theorem dateOfTime?_eq_some_iff {time text : String} :
    dateOfTime? time = some text ↔
      ∃ date, DateSpelling (trimChars (beforeTimeMark time.toList)) date ∧ date.text = text := by
  simp only [dateOfTime?, Option.map_eq_some_iff, dateOfChars?_eq_some_iff]

theorem isTidy_modelOrUnknown (model : Option String) : IsTidy (modelOrUnknown model) := by
  have unknown : IsTidy unknownModel := ⟨by decide +kernel, by decide⟩
  unfold modelOrUnknown
  split
  · split
    · exact unknown
    · rename_i solid
      exact isTidy_trim (Bool.eq_false_iff.2 solid)
  · exact unknown

theorem tokens_le (flat nested : Json) : tokens flat nested ≤ largestSigned := by
  unfold tokens
  split <;> exact countOf_le _

theorem MetricRow.becomes_of_metric?
    {row : MetricRow}
    {metric : DailyMetric}
    (read : row.metric? = some metric) :
    row.Becomes metric := by
  rcases Option.bind_eq_some_iff.1 read with ⟨text, dated, built⟩
  rcases Option.bind_eq_some_iff.1 dated with ⟨time, given, ofTime⟩
  rcases dateOfTime?_eq_some_iff.1 ofTime with ⟨date, spelled, rfl⟩
  cases built
  exact
    { date := ⟨date, ⟨time, given, spelled⟩, rfl⟩
      model := rfl
      canonical :=
        { date := ⟨date, dateOfText?_text spelled.inRange, rfl⟩
          model := isTidy_modelOrUnknown row.model
          inputTokens := countOf_le _
          outputTokens := countOf_le _
          totalTokens := countOf_le _
          requestCount := countOf_le _
          totalCost := isFinite_getD_amount? row.totalCost } }

theorem MetricRow.isSome_metric?_iff (row : MetricRow) :
    row.metric?.isSome = true ↔ row.IsDated := by
  constructor
  · intro isSome
    rcases Option.isSome_iff_exists.1 isSome with ⟨metric, read⟩
    rcases (becomes_of_metric? read).date with ⟨date, isOn, -⟩
    exact ⟨date, isOn⟩
  · rintro ⟨date, time, given, spelled⟩
    have ofTime := dateOfTime?_eq_some_iff.2 ⟨date, spelled, rfl⟩
    rw [MetricRow.metric?, given, Option.bind_some, ofTime]
    rfl

theorem ObservationRow.becomes_of_record?
    {row : ObservationRow}
    {record : RequestRecord}
    (read : row.record? = some record) :
    row.Becomes record := by
  rcases Option.bind_eq_some_iff.1 read with ⟨id, identified, built⟩
  rcases Option.filter_eq_some_iff.1 identified with ⟨given, nonempty⟩
  cases built
  refine ⟨given, ?_, tokens_le _ _, tokens_le _ _, tokens_le _ _, ?_⟩
  · simpa using nonempty
  · intro cost isCost
    rcases Option.or_eq_some_iff.1 isCost with first | ⟨-, second⟩
    · exact isFinite_of_amount? first
    · exact isFinite_of_amount? second

theorem ObservationRow.isSome_record?_iff (row : ObservationRow) :
    row.record?.isSome = true ↔ row.IsIdentified := by
  constructor
  · intro isSome
    rcases Option.isSome_iff_exists.1 isSome with ⟨record, read⟩
    have becomes := becomes_of_record? read
    exact ⟨record.id, becomes.id, becomes.canonical.id⟩
  · rintro ⟨id, given, nonempty⟩
    have identified : row.id? = some id :=
      Option.filter_eq_some_iff.2 ⟨given, by simpa using nonempty⟩
    rw [ObservationRow.record?, identified]
    rfl

instance : DecidablePred MetricRow.IsDated :=
  fun row => decidable_of_iff _ row.isSome_metric?_iff

instance : DecidablePred ObservationRow.IsIdentified :=
  fun row => decidable_of_iff _ row.isSome_record?_iff

theorem keeps_dailyMetrics (raw : List MetricRow) :
    (Telemetry.dailyMetrics raw).Keeps MetricRow.IsDated MetricRow.Becomes raw :=
  Transformed.keeps_of MetricRow.isSome_metric?_iff
    (fun _ _ => MetricRow.becomes_of_metric?) raw

theorem keeps_requestRecords (raw : List ObservationRow) :
    (requestRecords raw).Keeps ObservationRow.IsIdentified ObservationRow.Becomes raw :=
  Transformed.keeps_of ObservationRow.isSome_record?_iff
    (fun _ _ => ObservationRow.becomes_of_record?) raw

theorem isCanonical_of_mem_dailyMetrics
    {raw : List MetricRow}
    {metric : DailyMetric}
    (member : metric ∈ (Telemetry.dailyMetrics raw).rows) :
    metric.IsCanonical := by
  rcases List.mem_filterMap.1 member with ⟨row, -, read⟩
  exact (MetricRow.becomes_of_metric? read).canonical

theorem isCanonical_of_mem_requestRecords
    {raw : List ObservationRow}
    {record : RequestRecord}
    (member : record ∈ (requestRecords raw).rows) :
    record.IsCanonical := by
  rcases List.mem_filterMap.1 member with ⟨row, -, read⟩
  exact (ObservationRow.becomes_of_record? read).canonical

end Telemetry

/-! ## Values that are read back -/

/-- Metrics that agree in everything, their costs as numbers. -/
structure DailyMetric.Agrees (read written : DailyMetric) : Prop where
  date : read.date = written.date
  model : read.model = written.model
  inputTokens : read.inputTokens = written.inputTokens
  outputTokens : read.outputTokens = written.outputTokens
  totalTokens : read.totalTokens = written.totalTokens
  requestCount : read.requestCount = written.requestCount
  totalCost : (read.totalCost == written.totalCost) = true

/-- Records that agree in everything, their costs as numbers. -/
structure RequestRecord.Agrees (read written : RequestRecord) : Prop where
  cost : Option.Rel (fun first second => (first == second) = true) read.cost written.cost
  others : { read with cost := none } = { written with cost := none }

theorem DailyMetric.IsCanonical.agrees_cut
    {metric : DailyMetric}
    (canonical : metric.IsCanonical) :
    (cutMetric metric).Agrees metric where
  date := rfl
  model := rfl
  inputTokens := min_eq_left canonical.inputTokens
  outputTokens := min_eq_left canonical.outputTokens
  totalTokens := min_eq_left canonical.totalTokens
  requestCount := min_eq_left canonical.requestCount
  totalCost := withoutZeroSign_beq (isNaN_eq_false_of_isFinite canonical.totalCost)

theorem RequestRecord.IsCanonical.agrees_cut
    {record : RequestRecord}
    (canonical : record.IsCanonical) :
    (cutRecord record).Agrees record where
  cost := by
    have finite := canonical.cost
    show Option.Rel _ ((keptReal record.cost).map withoutZeroSign) record.cost
    cases given : record.cost with
    | none => exact .none
    | some cost =>
        have isNumber := isNaN_eq_false_of_isFinite (finite cost given)
        rw [keptReal, Option.filter_some, isNumber]
        exact .some (withoutZeroSign_beq isNumber)
  others := by
    have input : cutCount record.inputTokens = record.inputTokens :=
      min_eq_left canonical.inputTokens
    have output : cutCount record.outputTokens = record.outputTokens :=
      min_eq_left canonical.outputTokens
    have total : cutCount record.totalTokens = record.totalTokens :=
      min_eq_left canonical.totalTokens
    rw [cutRecord, input, output, total]

end UsageLedger
