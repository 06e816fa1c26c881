import UsageLedger.Store.Basic
import UsageLedger.Store.Sum

/-!
# Daily metrics

Metrics are written by date and model and read by a range of dates.  A metric
has to have a cost, and a cost that is not a number is none.  Over a range of
start times metrics are computed from the request records instead: the records
that have a model are grouped by the day at the start of their time and by
model, and each group is counted and summed up.
-/

namespace UsageLedger.Store

/-- Whether a metric has a cost that can be stored. -/
def hasCost (metric : DailyMetric) : Bool :=
  !metric.totalCost.isNaN

/-- The column of the costs of metrics. -/
def metricCosts : String := "langfuse_daily_metrics.total_cost"

/-- The store with metrics written over it. -/
def withMetrics (store : Store) (metrics : List DailyMetric) : Store :=
  { store with
    metrics :=
      Table.putAll StoredMetric.key (metrics.map StoredMetric.ofMetric)
        store.metrics }

/--
Writes metrics; gives the number of metrics and the store with them.  If one of
them has no cost, none is written.
-/
def putMetrics (store : Store) (metrics : List DailyMetric) :
    Except StoreError Nat × Store :=
  if metrics.all hasCost then (.ok metrics.length, store.withMetrics metrics)
  else (.error (.missingValue metricCosts), store)

/-- Order by date, then by model. -/
def keyNoLater (first second : String × String) : Bool :=
  if first.1 = second.1 then decide (first.2 ≤ second.2)
  else decide (first.1 ≤ second.1)

/-- The stored metrics from one date text to another, both included, in order. -/
def metricRows (store : Store) (lower upper : String) : List StoredMetric :=
  (store.metrics.filter fun row => lower ≤ row.date ∧ row.date ≤ upper).mergeSort
    fun first second => keyNoLater first.key second.key

/-- The metrics from one date text to another, both included, by date and model. -/
def dailyMetrics (store : Store) (lower upper : String) :
    Except StoreError (List DailyMetric) :=
  (store.metricRows lower upper).mapM StoredMetric.read

/-- The day of a start time: its first ten characters, or those before a null character. -/
def dayOf (startedAt : String) : String :=
  String.ofList ((startedAt.toList.take 10).takeWhile (· != '\x00'))

/-- The day and the model that a record counts for. -/
def StoredRequest.group? (row : StoredRequest) : Option (String × String) := do
  let startedAt ← row.startedAt
  let model ← row.model
  some (dayOf startedAt, model)

/-- Whether a record started at or after one time and before another, as text. -/
def StoredRequest.startsWithin (lower upper : String) (row : StoredRequest) : Bool :=
  match row.startedAt with
  | some startedAt => lower ≤ startedAt && startedAt < upper
  | none => false

/-- Whether a record started no later than another. -/
def StoredRequest.startsNoLater (first second : StoredRequest) : Bool :=
  descending second.startedAt first.startedAt

/-- The records that started in a range and have a model, from the earliest start on. -/
def requestsWithin (store : Store) (lower upper : String) :
    List StoredRequest :=
  (store.requests.filter fun row =>
    row.startsWithin lower upper && row.model.isSome).mergeSort
    StoredRequest.startsNoLater

/-- The groups of some records, each once, by day and model. -/
def groupKeys (rows : List StoredRequest) : List (String × String) :=
  (rows.filterMap StoredRequest.group?).eraseDups.mergeSort keyNoLater

/-- A sum of doubles, or zero for one that is no number. -/
def Cell.numberOrZero : Cell → Cell
  | .real value => if value.isNaN then .integer 0 else .real value
  | other => other

/-- The metric of one group of records. -/
def groupMetric (key : String × String) (rows : List StoredRequest) :
    Except StoreError StoredMetric := do
  let inputTokens ← sumCells (rows.map StoredRequest.inputTokens)
  let outputTokens ← sumCells (rows.map StoredRequest.outputTokens)
  let totalTokens ← sumCells (rows.map StoredRequest.totalTokens)
  let totalCost ← sumCells (rows.filterMap StoredRequest.cost)
  pure
    { date := key.1
      model := key.2
      inputTokens
      outputTokens
      totalTokens
      requestCount := .integer rows.length
      totalCost := Cell.numberOrZero totalCost }

/-- The metrics of all groups of records. -/
def groupMetrics (rows : List StoredRequest) :
    Except StoreError (List StoredMetric) :=
  (groupKeys rows).mapM fun key =>
    groupMetric key (rows.filter fun row => row.group? == some key)

/-- Order by date, then from the highest cost on. -/
def costNoLater (first second : StoredMetric) : Bool :=
  if first.date = second.date then
    second.totalCost.amount ≤ first.totalCost.amount
  else decide (first.date ≤ second.date)

/--
The metrics of the records that started in a range, by date and from the
highest cost on; of equal costs by model.
-/
def metricsWithin (store : Store) (lower upper : String) :
    Except StoreError (List DailyMetric) := do
  let groups ← groupMetrics (store.requestsWithin lower upper)
  (groups.mergeSort costNoLater).mapM StoredMetric.read

end UsageLedger.Store
