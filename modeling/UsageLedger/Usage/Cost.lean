import UsageLedger.Usage.Record
import UsageLedger.Width

/-!
# Cost summaries

A cost summary has one bucket for each date of some metrics, in order of the
dates.  A bucket lists the usage of each metric of its date in the order of
the metrics, and adds up costs and request counts in that order.  The sums of
the request counts have to fit 64 bits.
-/

namespace UsageLedger

/-- The usage of one model inside a bucket. -/
structure ModelUsage where
  model : String
  inputTokens : Nat
  outputTokens : Nat
  totalTokens : Nat
  totalCost : Float
  requestCount : Nat

/-- The usage of all models on one date. -/
structure DailyCost where
  date : String
  totalCost : Float
  requestCount : Nat
  usage : List ModelUsage

/-- The buckets of some dates. -/
structure CostSummary where
  daily : List DailyCost

/--
Whole dates ask the daily metrics, both included; instants ask the requests,
the upper one excluded.
-/
inductive CostRange where
  | dates (lower upper : String)
  | timestamps (lower upper : String)
  deriving DecidableEq, Repr

/-- The usage entry of a metric. -/
def DailyMetric.usage (metric : DailyMetric) : ModelUsage where
  model := metric.model
  inputTokens := metric.inputTokens
  outputTokens := metric.outputTokens
  totalTokens := metric.totalTokens
  totalCost := metric.totalCost
  requestCount := metric.requestCount

/-- The bucket of the metrics of one date. -/
def DailyCost.ofMetrics (date : String) (metrics : List DailyMetric) :
    DailyCost where
  date := date
  totalCost := metrics.foldl (fun sum metric => sum + metric.totalCost) 0.0
  requestCount := metrics.foldl (fun sum metric => sum + metric.requestCount) 0
  usage := metrics.map DailyMetric.usage

/-- The dates of some metrics, each once, in order. -/
def metricDates (metrics : List DailyMetric) : List String :=
  (metrics.map DailyMetric.date).eraseDups.mergeSort fun first second =>
    decide (first ≤ second)

/-- The summary of some metrics. -/
def CostSummary.ofMetrics (metrics : List DailyMetric) : CostSummary where
  daily := (metricDates metrics).map fun date =>
    DailyCost.ofMetrics date (metrics.filter fun metric => metric.date == date)

/-- Whether the requests of every date can be counted in 64 bits. -/
def CostSummary.fits (summary : CostSummary) : Bool :=
  summary.daily.all fun bucket => bucket.requestCount ≤ largest64

end UsageLedger
