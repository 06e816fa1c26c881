import Mathlib.Algebra.Order.BigOperators.Group.List
import Mathlib.Algebra.Order.Ring.Nat
import UsageLedger.Proofs.Feeding
import UsageLedger.Service.Analytics

/-!
# Request counts of buckets

A bucket adds up the request counts of its entries, and the sum has to fit 64
bits: where that of one date does not, the query for the costs breaks off.  An
entry counts no more than a signed integer holds, so the counts of two entries
always fit; those of three need not, as `three_full_counts_break_off` shows.

`buckets_count_what_fits` says so of whatever imports and batches have brought
into a store, and of every pair of bounds that are dates: each date of the
stored metrics has a bucket, which lists the metrics of the date and counts
them exactly, unless there is a date whose counts do not fit.
-/

namespace UsageLedger

open UsageLedger.Service
open UsageLedger.Store

/-- The requests that the entries of a bucket count together. -/
def DailyCost.entryCount (bucket : DailyCost) : Nat :=
  (bucket.usage.map ModelUsage.requestCount).sum

/-- The requests that the metrics of one date count together. -/
def requestsOn (metrics : List DailyMetric) (date : String) : Nat :=
  ((metrics.filter fun metric => metric.date == date).map DailyMetric.requestCount).sum

/-- What the request count of a bucket has to do with those of its entries. -/
structure DailyCost.Counted (bucket : DailyCost) : Prop where
  entries : ∀ entry ∈ bucket.usage, entry.requestCount ≤ largestSigned
  exact : bucket.requestCount = bucket.entryCount
  fits : bucket.requestCount ≤ largest64

/-- A summary of some metrics by date whose buckets are counted. -/
structure CostSummary.Counted (metrics : List DailyMetric) (summary : CostSummary) :
    Prop where
  covers : ∀ metric ∈ metrics, ∃ bucket ∈ summary.daily, bucket.date = metric.date
  /-- A bucket lists the metrics of its date, in order. -/
  lists : ∀ bucket ∈ summary.daily,
    bucket.usage =
      (metrics.filter fun metric => metric.date == bucket.date).map DailyMetric.usage
  counted : ∀ bucket ∈ summary.daily, bucket.Counted

/-- What a query for the costs of some metrics answers. -/
structure CountsRequests (metrics : List DailyMetric)
    (answer : Except ServiceError CostSummary) : Prop where
  counted : (∀ date, requestsOn metrics date ≤ largest64) →
    ∃ summary, answer = .ok summary ∧ summary.Counted metrics
  /-- The query breaks off if the counts of one date do not fit. -/
  brokenOff : ∀ date, largest64 < requestsOn metrics date → answer = .error (.overflow .counts)
  /-- The counts of two metrics always fit. -/
  two : ∀ date, (metrics.filter fun metric => metric.date == date).length ≤ 2 →
    requestsOn metrics date ≤ largest64

/-! ## Adding up -/

theorem foldl_requestCount (metrics : List DailyMetric) (start : Nat) :
    metrics.foldl (fun sum metric => sum + metric.requestCount) start =
      start + (metrics.map DailyMetric.requestCount).sum := by
  induction metrics generalizing start with
  | nil => rfl
  | cons metric rest hypothesis =>
      rw [List.foldl_cons, hypothesis, List.map_cons, List.sum_cons, Nat.add_assoc]

theorem DailyCost.entryCount_ofMetrics (date : String) (metrics : List DailyMetric) :
    (DailyCost.ofMetrics date metrics).entryCount =
      (metrics.map DailyMetric.requestCount).sum := by
  unfold DailyCost.entryCount DailyCost.ofMetrics
  rw [List.map_map]
  rfl

theorem DailyCost.requestCount_ofMetrics (date : String) (metrics : List DailyMetric) :
    (DailyCost.ofMetrics date metrics).requestCount =
      (metrics.map DailyMetric.requestCount).sum :=
  (foldl_requestCount metrics 0).trans (Nat.zero_add _)

theorem mem_metricDates_iff {metrics : List DailyMetric} {date : String} :
    date ∈ metricDates metrics ↔ ∃ metric ∈ metrics, metric.date = date := by
  rw [metricDates, List.mem_mergeSort, List.mem_eraseDups, List.mem_map]

theorem CostSummary.fits_ofMetrics_iff {metrics : List DailyMetric} :
    (CostSummary.ofMetrics metrics).fits = true ↔
      ∀ date, requestsOn metrics date ≤ largest64 := by
  simp only [CostSummary.fits, CostSummary.ofMetrics, List.all_map, List.all_eq_true,
    Function.comp_apply, decide_eq_true_eq, DailyCost.requestCount_ofMetrics]
  refine ⟨fun fit date => ?_, fun fit date _ => fit date⟩
  by_cases shown : date ∈ metricDates metrics
  · exact fit date shown
  · -- A date that is not shown has no metrics to count.
    have none : (metrics.filter fun metric => metric.date == date) = [] := by
      refine List.filter_eq_nil_iff.2 fun metric isMetric sameDate => ?_
      exact shown (mem_metricDates_iff.2 ⟨metric, isMetric, beq_iff_eq.1 sameDate⟩)
    rw [requestsOn, none]
    exact Nat.zero_le _

/-- Of metrics whose counts fit signed integers, those of two fit. -/
theorem requestsOn_le_of_two
    {metrics : List DailyMetric}
    (small : ∀ metric ∈ metrics, metric.requestCount ≤ largestSigned)
    {date : String}
    (few : (metrics.filter fun metric => metric.date == date).length ≤ 2) :
    requestsOn metrics date ≤ largest64 := by
  have bounded : requestsOn metrics date ≤
      (metrics.filter fun metric => metric.date == date).length * largestSigned := by
    rw [requestsOn, ← List.length_map DailyMetric.requestCount]
    apply List.sum_le_card_nsmul
    intro count member
    rcases List.mem_map.1 member with ⟨metric, ofDate, rfl⟩
    exact small metric (List.mem_filter.1 ofDate).1
  -- Twice the largest signed integer is one less than the largest natural number of 64 bits.
  calc
    requestsOn metrics date
      ≤ (metrics.filter fun metric => metric.date == date).length * largestSigned := bounded
    _ ≤ 2 * largestSigned := Nat.mul_le_mul_right _ few
    _ ≤ largest64 := by decide

theorem CostSummary.counted_ofMetrics
    {metrics : List DailyMetric}
    (small : ∀ metric ∈ metrics, metric.requestCount ≤ largestSigned)
    (fit : ∀ date, requestsOn metrics date ≤ largest64) :
    CostSummary.Counted metrics (CostSummary.ofMetrics metrics) where
  covers metric isMetric :=
    ⟨_, List.mem_map_of_mem (mem_metricDates_iff.2 ⟨metric, isMetric, rfl⟩), rfl⟩
  lists bucket member := by
    rcases List.mem_map.1 member with ⟨date, -, rfl⟩
    rfl
  counted bucket member := by
    rcases List.mem_map.1 member with ⟨date, -, rfl⟩
    refine ⟨?_, ?_, ?_⟩
    · intro entry isEntry
      rcases List.mem_map.1 isEntry with ⟨metric, ofDate, rfl⟩
      exact small metric (List.mem_filter.1 ofDate).1
    · rw [DailyCost.requestCount_ofMetrics, DailyCost.entryCount_ofMetrics]
    · rw [DailyCost.requestCount_ofMetrics]
      exact fit date

/-! ## Costs between dates -/

/-- Costs of a range that is accepted are those of the metrics of the range, if they fit. -/
theorem Service.costs_of_range
    (store : Store)
    {query : CostQuery}
    {range : CostRange}
    (accepted : costRange query.lower query.upper = .ok range) :
    costs store query =
      (fromStore (rangeMetrics store range)).bind fun metrics =>
        (summarize metrics range).mapError ServiceError.overflow := by
  unfold costs
  rw [accepted]
  rfl

/-- What is answered for whole dates whose metrics can be read. -/
theorem Service.costs_of_dates
    {store : Store}
    {query : CostQuery}
    {lower upper : String}
    {metrics : List DailyMetric}
    (accepted : costRange query.lower query.upper = .ok (.dates lower upper))
    (answer : store.dailyMetrics lower upper = .ok metrics) :
    costs store query =
      if (CostSummary.ofMetrics metrics).fits then .ok (CostSummary.ofMetrics metrics)
      else .error (.overflow .counts) := by
  rw [costs_of_range store accepted, rangeMetrics, answer]
  show (summarize metrics (.dates lower upper)).mapError ServiceError.overflow = _
  rw [summarize]
  split <;> rfl

theorem Service.costs_of_timestamps
    (store : Store)
    {query : CostQuery}
    {lower upper : String}
    (accepted : costRange query.lower query.upper = .ok (.timestamps lower upper)) :
    costs store query =
      (fromStore (store.metricsWithin lower upper)).map CostSummary.ofMetrics := by
  rw [costs_of_range store accepted, rangeMetrics]
  cases fromStore (store.metricsWithin lower upper) <;> rfl

theorem countsRequests_of_dates
    {store : Store}
    {query : CostQuery}
    {lower upper : String}
    {metrics : List DailyMetric}
    (accepted : costRange query.lower query.upper = .ok (.dates lower upper))
    (answer : store.dailyMetrics lower upper = .ok metrics)
    (small : ∀ metric ∈ metrics, metric.requestCount ≤ largestSigned) :
    CountsRequests metrics (costs store query) where
  counted fit := by
    refine ⟨CostSummary.ofMetrics metrics, ?_, CostSummary.counted_ofMetrics small fit⟩
    rw [costs_of_dates accepted answer, if_pos (CostSummary.fits_ofMetrics_iff.2 fit)]
  brokenOff date exceeds := by
    rw [costs_of_dates accepted answer, if_neg]
    intro fit
    exact Nat.not_le.2 exceeds (CostSummary.fits_ofMetrics_iff.1 fit date)
  two date := requestsOn_le_of_two small

/--
Whatever was fed to a store, the buckets between two dates count exactly what
their entries count, unless the counts of one date do not fit 64 bits.
-/
theorem buckets_count_what_fits
    (feeds : List Feed)
    (query : CostQuery)
    {lower upper : String}
    (accepted : costRange query.lower query.upper = .ok (.dates lower upper)) :
    ∃ metrics,
      (Store.empty.fed feeds).dailyMetrics lower upper = .ok metrics ∧
        CountsRequests metrics (costs (Store.empty.fed feeds) query) := by
  rcases reachable_fed feeds with ⟨operations, fed⟩
  rcases dailyMetrics_after operations lower upper with ⟨metrics, answer, ranged⟩
  rw [fed] at answer
  refine ⟨metrics, answer, countsRequests_of_dates accepted answer ?_⟩
  -- A metric that is read was cut to what a column holds.
  intro metric isMetric
  rcases ranged.only metric isMetric with ⟨last, -, -, -, reads⟩
  rw [reads.requestCount]
  exact Nat.min_le_right _ _

/-- A metric of a day with as many requests as a column holds. -/
def fullMetric (model : String) : DailyMetric where
  date := "2025-03-01"
  model := model
  inputTokens := 0
  outputTokens := 0
  totalTokens := 0
  requestCount := largestSigned
  totalCost := 0.0

def fullMetrics : List DailyMetric :=
  [fullMetric "a", fullMetric "b", fullMetric "c"]

def fullDay : CostQuery := ⟨"2025-03-01", "2025-03-01"⟩

theorem costRange_fullDay :
    costRange fullDay.lower fullDay.upper = .ok (.dates "2025-03-01" "2025-03-01") := by
  rfl

theorem buckets_count_what_fits_full :
    costRange fullDay.lower fullDay.upper = .ok (.dates "2025-03-01" "2025-03-01") ∧
      ∃ metrics,
        (Store.empty.fed [.metrics fullMetrics]).dailyMetrics
            "2025-03-01" "2025-03-01" = .ok metrics ∧
          CountsRequests metrics (costs (Store.empty.fed [.metrics fullMetrics]) fullDay) :=
  ⟨costRange_fullDay,
    buckets_count_what_fits [.metrics fullMetrics] fullDay costRange_fullDay⟩

theorem dailyMetrics_fullMetrics :
    (Store.empty.fed [.metrics fullMetrics]).dailyMetrics "2025-03-01" "2025-03-01" =
      .ok (fullMetrics.map cutMetric) := by
  have inTable :
      ((Store.empty.fed [.metrics fullMetrics]).metrics.filter fun row =>
          "2025-03-01" ≤ row.date ∧ row.date ≤ "2025-03-01") =
        fullMetrics.map StoredMetric.ofMetric := by
    rfl
  have rows :
      (Store.empty.fed [.metrics fullMetrics]).metricRows "2025-03-01" "2025-03-01" =
        fullMetrics.map StoredMetric.ofMetric := by
    rw [metricRows, inTable]
    apply List.mergeSort_of_pairwise
    decide
  rw [dailyMetrics, rows]
  rfl

/-- The counts of three full metrics are not added up. -/
theorem three_full_counts_break_off :
    costRange fullDay.lower fullDay.upper = .ok (.dates "2025-03-01" "2025-03-01") ∧
      (Store.empty.fed [.metrics fullMetrics]).dailyMetrics "2025-03-01" "2025-03-01" =
        .ok (fullMetrics.map cutMetric) ∧
      requestsOn (fullMetrics.map cutMetric) "2025-03-01" = 27670116110564327421 ∧
      costs (Store.empty.fed [.metrics fullMetrics]) fullDay = .error (.overflow .counts) := by
  refine ⟨costRange_fullDay, dailyMetrics_fullMetrics, rfl, ?_⟩
  rw [costs_of_dates costRange_fullDay dailyMetrics_fullMetrics, if_neg]
  intro fit
  have small := CostSummary.fits_ofMetrics_iff.1 fit "2025-03-01"
  revert small
  decide

end UsageLedger
