import UsageLedger.Proofs.GroupedRequests

/-!
# Summaries of daily metrics

A summary of metrics can be grown one metric at a time: each is entered into
the bucket of its date, and a date without a bucket gets one in its place among
the others.  `BucketsOf` is what entering keeps, whatever came before, and it
leaves only one list of buckets, so growing a summary gives the one that is
defined date by date.

Between two dates the metrics are the stored rows, of which no two have the
same date and model.  `costs_list_stored_rows` says what is shown of any table:
every row of the range once, under its date and in order of the models.  A
negative integer in a column of counts is shown as none, as
`negative_count_is_cut` has it, and a value that is no number is answered by a
failure; the store itself writes neither.  The requests of each date have to fit
64 bits.
-/

namespace UsageLedger

open UsageLedger.Service
open UsageLedger.Store

/-! ## Growing a summary -/

def DailyCost.empty (date : String) : DailyCost :=
  ⟨date, 0.0, 0, []⟩

/-- A bucket with one more metric. -/
def DailyCost.add (bucket : DailyCost) (metric : DailyMetric) : DailyCost where
  date := bucket.date
  totalCost := bucket.totalCost + metric.totalCost
  requestCount := bucket.requestCount + metric.requestCount
  usage := bucket.usage ++ [metric.usage]

/-- Buckets in order of their dates with one more metric in the bucket of its date. -/
def enterMetric (metric : DailyMetric) : List DailyCost → List DailyCost
  | [] => [(DailyCost.empty metric.date).add metric]
  | bucket :: later =>
    if metric.date < bucket.date then
      (DailyCost.empty metric.date).add metric :: bucket :: later
    else if bucket.date = metric.date then bucket.add metric :: later
    else bucket :: enterMetric metric later

/-- Buckets in order of their dates, each of all metrics of its date. -/
structure BucketsOf (metrics : List DailyMetric) (buckets : List DailyCost) : Prop where
  ordered : (buckets.map DailyCost.date).Pairwise (· < ·)
  mem_dates : ∀ date,
    date ∈ buckets.map DailyCost.date ↔ date ∈ metrics.map DailyMetric.date
  bucket : ∀ bucket ∈ buckets,
    DailyCost.ofMetrics bucket.date
      (metrics.filter fun metric => metric.date == bucket.date) = bucket

theorem DailyCost.ofMetrics_append
    (date : String)
    (metrics : List DailyMetric)
    (metric : DailyMetric) :
    DailyCost.ofMetrics date (metrics ++ [metric]) =
      (DailyCost.ofMetrics date metrics).add metric := by
  simp only [DailyCost.ofMetrics, DailyCost.add, List.foldl_append, List.foldl_cons,
    List.foldl_nil, List.map_append, List.map_cons, List.map_nil]

theorem mem_dates_enterMetric
    {metric : DailyMetric}
    {buckets : List DailyCost}
    {date : String} :
    date ∈ (enterMetric metric buckets).map DailyCost.date ↔
      date ∈ buckets.map DailyCost.date ∨ date = metric.date := by
  induction buckets with
  | nil => simp [enterMetric, DailyCost.add, DailyCost.empty]
  | cons bucket later hypothesis =>
      rw [enterMetric]
      split
      · simp only [DailyCost.add, DailyCost.empty, List.map_cons, List.mem_cons]
        tauto
      · split
        · rename_i same
          simp only [DailyCost.add, same, List.map_cons, List.mem_cons]
          tauto
        · rw [List.map_cons, List.mem_cons, hypothesis, List.map_cons, List.mem_cons,
            or_assoc]

theorem ordered_enterMetric
    (metric : DailyMetric)
    {buckets : List DailyCost}
    (ordered : (buckets.map DailyCost.date).Pairwise (· < ·)) :
    ((enterMetric metric buckets).map DailyCost.date).Pairwise (· < ·) := by
  induction buckets with
  | nil => exact List.pairwise_singleton _ _
  | cons bucket later hypothesis =>
      rcases List.pairwise_cons.1 ordered with ⟨first, laterOrdered⟩
      rw [enterMetric]
      split
      · rename_i before
        refine List.pairwise_cons.2 ⟨?_, ordered⟩
        intro date member
        rcases List.mem_cons.1 member with rfl | inLater
        · exact before
        · exact lt_trans before (first date inLater)
      · rename_i notBefore
        split
        · exact ordered
        · rename_i different
          refine List.pairwise_cons.2 ⟨?_, hypothesis laterOrdered⟩
          intro date member
          rcases mem_dates_enterMetric.1 member with inLater | rfl
          · exact first date inLater
          · exact lt_of_le_of_ne (not_lt.1 notBefore) different

/-- A bucket after a metric was entered is of another date, was added to, or is new. -/
theorem cases_of_mem_enterMetric
    {metric : DailyMetric}
    {buckets : List DailyCost}
    (ordered : (buckets.map DailyCost.date).Pairwise (· < ·))
    {bucket : DailyCost}
    (member : bucket ∈ enterMetric metric buckets) :
    (bucket ∈ buckets ∧ bucket.date ≠ metric.date) ∨
      (∃ old ∈ buckets, old.date = metric.date ∧ bucket = old.add metric) ∨
      (metric.date ∉ buckets.map DailyCost.date ∧
        bucket = (DailyCost.empty metric.date).add metric) := by
  induction buckets with
  | nil => exact .inr (.inr ⟨List.not_mem_nil, List.mem_singleton.1 member⟩)
  | cons here later hypothesis =>
      rcases List.pairwise_cons.1 ordered with ⟨first, laterOrdered⟩
      rw [enterMetric] at member
      split at member
      · rename_i before
        have afterMetric : ∀ date ∈ (here :: later).map DailyCost.date, metric.date < date := by
          intro date isDate
          rcases List.mem_cons.1 isDate with rfl | inLater
          · exact before
          · exact lt_trans before (first date inLater)
        rcases List.mem_cons.1 member with isNew | isOld
        · exact .inr (.inr ⟨fun isDate => lt_irrefl _ (afterMetric _ isDate), isNew⟩)
        · exact .inl ⟨isOld, (afterMetric _ (List.mem_map_of_mem isOld)).ne'⟩
      · split at member
        · rename_i same
          rcases List.mem_cons.1 member with added | inLater
          · exact .inr (.inl ⟨here, List.mem_cons_self, same, added⟩)
          · refine .inl ⟨List.mem_cons_of_mem _ inLater, ?_⟩
            rw [← same]
            exact (first _ (List.mem_map_of_mem inLater)).ne'
        · rename_i different
          rcases List.mem_cons.1 member with rfl | inLater
          · exact .inl ⟨List.mem_cons_self, different⟩
          · rcases hypothesis laterOrdered inLater with ⟨isOld, other⟩ | ⟨old, isOld, added⟩ |
                ⟨fresh, isNew⟩
            · exact .inl ⟨List.mem_cons_of_mem _ isOld, other⟩
            · exact .inr (.inl ⟨old, List.mem_cons_of_mem _ isOld, added⟩)
            · refine .inr (.inr ⟨?_, isNew⟩)
              rw [List.map_cons, List.mem_cons, not_or]
              exact ⟨Ne.symm different, fresh⟩

theorem bucketsOf_nil : BucketsOf [] [] where
  ordered := List.Pairwise.nil
  mem_dates _ := Iff.rfl
  bucket _ member := absurd member List.not_mem_nil

/-- Entering a metric after some others. -/
theorem BucketsOf.enter
    {metrics : List DailyMetric}
    {buckets : List DailyCost}
    (grown : BucketsOf metrics buckets)
    (metric : DailyMetric) :
    BucketsOf (metrics ++ [metric]) (enterMetric metric buckets) where
  ordered := ordered_enterMetric metric grown.ordered
  mem_dates date := by
    rw [mem_dates_enterMetric, grown.mem_dates, List.map_append, List.mem_append,
      List.map_singleton, List.mem_singleton]
  bucket bucket member := by
    rw [List.filter_append]
    rcases cases_of_mem_enterMetric grown.ordered member with ⟨isOld, other⟩ |
        ⟨old, isOld, same, rfl⟩ | ⟨fresh, rfl⟩
    · rw [List.filter_singleton, beq_false_of_ne other.symm, Bool.cond_false,
        List.append_nil]
      exact grown.bucket bucket isOld
    · have date : (old.add metric).date = old.date := rfl
      rw [date, List.filter_singleton, beq_iff_eq.2 same.symm, Bool.cond_true,
        DailyCost.ofMetrics_append, grown.bucket old isOld]
    · have date : ((DailyCost.empty metric.date).add metric).date = metric.date := rfl
      have none : (metrics.filter fun other => other.date == metric.date) = [] := by
        rw [List.filter_eq_nil_iff]
        intro other isOther sameDate
        exact fresh ((grown.mem_dates _).2 (List.mem_map.2 ⟨other, isOther, eq_of_beq sameDate⟩))
      rw [date, none, List.filter_singleton, beq_self_eq_true, Bool.cond_true,
        DailyCost.ofMetrics_append]
      rfl

theorem bucketsOf_foldl (metrics : List DailyMetric) :
    BucketsOf metrics
      (metrics.foldl (fun buckets metric => enterMetric metric buckets) []) := by
  induction metrics using List.reverseRecOn with
  | nil => exact bucketsOf_nil
  | append_singleton earlier metric hypothesis =>
      rw [List.foldl_append]
      exact hypothesis.enter metric

theorem pairwise_metricDates (metrics : List DailyMetric) :
    (metricDates metrics).Pairwise (· < ·) := by
  have sorted : (metricDates metrics).Pairwise fun first second =>
      decide (first ≤ second) = true :=
    List.pairwise_mergeSort (sortsBy_text id).trans (sortsBy_text id).total _
  exact (sorted.and (nodup_metricDates metrics)).imp fun order =>
    lt_of_le_of_ne (of_decide_eq_true order.1) order.2

theorem bucketsOf_ofMetrics (metrics : List DailyMetric) :
    BucketsOf metrics (CostSummary.ofMetrics metrics).daily := by
  have dates : (CostSummary.ofMetrics metrics).daily.map DailyCost.date =
      metricDates metrics := by
    rw [CostSummary.ofMetrics, List.map_map]
    exact List.map_id _
  refine ⟨dates ▸ pairwise_metricDates metrics, ?_, ?_⟩
  · intro date
    rw [dates, mem_metricDates_iff, List.mem_map]
  · intro bucket member
    rcases List.mem_map.1 member with ⟨date, -, rfl⟩
    rfl

theorem BucketsOf.eq_map_dates
    {metrics : List DailyMetric}
    {buckets : List DailyCost}
    (grown : BucketsOf metrics buckets) :
    buckets = (buckets.map DailyCost.date).map fun date =>
      DailyCost.ofMetrics date (metrics.filter fun metric => metric.date == date) := by
  rw [List.map_map]
  exact ((List.map_congr_left grown.bucket).trans (List.map_id' buckets)).symm

/-- There is only one list of buckets for some metrics. -/
theorem BucketsOf.unique
    {metrics : List DailyMetric}
    {first second : List DailyCost}
    (one : BucketsOf metrics first)
    (other : BucketsOf metrics second) :
    first = second := by
  have sameDates : first.map DailyCost.date = second.map DailyCost.date := by
    refine List.Perm.eq_of_pairwise (fun _ _ _ _ less more => absurd more less.not_gt)
      one.ordered other.ordered ?_
    refine (List.perm_ext_iff_of_nodup (one.ordered.imp ne_of_lt)
      (other.ordered.imp ne_of_lt)).2 fun date => ?_
    rw [one.mem_dates, other.mem_dates]
  rw [one.eq_map_dates, sameDates, ← other.eq_map_dates]

/-- A summary that shows each of some metrics once, under its date. -/
structure CostSummary.Lists (metrics : List DailyMetric) (summary : CostSummary) : Prop where
  /-- The buckets are what entering one metric after another makes. -/
  grown : summary.daily =
    metrics.foldl (fun buckets metric => enterMetric metric buckets) []
  ordered : summary.daily.Pairwise fun first second => first.date < second.date
  dates : ∀ date,
    (∃ bucket ∈ summary.daily, bucket.date = date) ↔ ∃ metric ∈ metrics, metric.date = date
  /-- Within a date the metrics keep their order. -/
  usage : ∀ bucket ∈ summary.daily,
    bucket.usage =
      (metrics.filter fun metric => metric.date == bucket.date).map DailyMetric.usage
  cost : ∀ bucket ∈ summary.daily,
    bucket.totalCost = (bucket.usage.map ModelUsage.totalCost).foldl (· + ·) 0.0
  entries : summary.dated.Perm (metrics.map fun metric => (metric.date, metric.usage))

theorem lists_ofMetrics (metrics : List DailyMetric) :
    (CostSummary.ofMetrics metrics).Lists metrics where
  grown := (bucketsOf_ofMetrics metrics).unique (bucketsOf_foldl metrics)
  ordered := List.pairwise_map.1 (bucketsOf_ofMetrics metrics).ordered
  dates date := by
    simpa only [List.mem_map] using (bucketsOf_ofMetrics metrics).mem_dates date
  usage bucket member := by
    rw [← (bucketsOf_ofMetrics metrics).bucket bucket member]
    rfl
  cost bucket member := by
    rw [← (bucketsOf_ofMetrics metrics).bucket bucket member]
    simp only [DailyCost.ofMetrics, List.foldl_map]
    rfl
  entries := perm_dated_ofMetrics metrics

/-! ## Rows and the entries that show them -/

namespace Store

/-- A count that is shown for a cell: the integer in it, or none if that is negative. -/
inductive Cell.ShownAs : Cell → Nat → Prop
  | same (count : Nat) : ShownAs (.integer count) count
  | cut {value : Int} (negative : value < 0) : ShownAs (.integer value) 0

/-- The columns of a metric that are read as counts. -/
def countColumns : List (StoredMetric → Cell) :=
  [StoredMetric.inputTokens, StoredMetric.outputTokens, StoredMetric.totalTokens,
    StoredMetric.requestCount]

/-- A row whose columns can be read. -/
structure StoredMetric.HoldsNumbers (row : StoredMetric) : Prop where
  counts : ∀ column ∈ countColumns, (column row).IsInteger
  cost : row.totalCost.IsNumber

/-- An entry that shows a row. -/
structure StoredMetric.ShownBy (row : StoredMetric) (entry : ModelUsage) : Prop where
  model : entry.model = row.model
  inputTokens : row.inputTokens.ShownAs entry.inputTokens
  outputTokens : row.outputTokens.ShownAs entry.outputTokens
  totalTokens : row.totalTokens.ShownAs entry.totalTokens
  requestCount : row.requestCount.ShownAs entry.requestCount
  totalCost : entry.totalCost = row.totalCost.amount

theorem Cell.shownAs_of_readCount
    {cell : Cell}
    {index : Nat}
    {column : String}
    {count : Nat}
    (read : cell.readCount index column = .ok count) :
    cell.ShownAs count := by
  cases cell with
  | integer value =>
      cases read
      by_cases negative : value < 0
      · rw [Int.toNat_of_nonpos negative.le]
        exact .cut negative
      · have exact : ((value.toNat : Nat) : Int) = value := by omega
        rw [← exact, Int.toNat_natCast]
        exact .same _
  | real value => cases read
  | text value => cases read

/-- The requests that a row counts, none if its column holds something else. -/
def StoredMetric.requests (row : StoredMetric) : Nat :=
  match row.requestCount with
  | .integer value => value.toNat
  | _ => 0

/-- The requests that the rows of a date count together. -/
def requestsOf (store : Store) (date : String) : Nat :=
  ((store.metrics.filter fun row => row.date == date).map StoredMetric.requests).sum

theorem StoredMetric.requestCount_of_read
    {row : StoredMetric}
    {metric : DailyMetric}
    (read : row.read = .ok metric) :
    row.requests = metric.requestCount := by
  simp only [StoredMetric.read, bind_eq_ok_iff] at read
  rcases read with ⟨_, -, _, -, _, -, requests, counted, _, -, shown⟩
  cases shown
  rw [StoredMetric.requests]
  cases cell : row.requestCount with
  | integer value =>
      rw [cell] at counted
      cases counted
      rfl
  | real value =>
      rw [cell] at counted
      cases counted
  | text value =>
      rw [cell] at counted
      cases counted

theorem Cell.amount_of_readReal
    {cell : Cell}
    {index : Nat}
    {column : String}
    {amount : Float}
    (read : cell.readReal index column = .ok amount) :
    amount = cell.amount := by
  cases cell with
  | integer value =>
      cases read
      rfl
  | real value =>
      cases read
      rfl
  | text value => cases read

theorem StoredMetric.shownBy_of_read
    {row : StoredMetric}
    {metric : DailyMetric}
    (read : row.read = .ok metric) :
    row.ShownBy metric.usage := by
  simp only [StoredMetric.read, bind_eq_ok_iff] at read
  rcases read with ⟨_, input, _, output, _, total, _, requests, _, cost, shown⟩
  cases shown
  exact
    { model := rfl
      inputTokens := Cell.shownAs_of_readCount input
      outputTokens := Cell.shownAs_of_readCount output
      totalTokens := Cell.shownAs_of_readCount total
      requestCount := Cell.shownAs_of_readCount requests
      totalCost := Cell.amount_of_readReal cost }

/-- A count is read from an integer only. -/
theorem Cell.readCount_cases (cell : Cell) (index : Nat) (column : String) :
    (cell.IsInteger ∧ ∃ count, cell.readCount index column = .ok count) ∨
      (¬ cell.IsInteger ∧
        ∃ kind, cell.readCount index column = .error (.columnKind index column kind)) := by
  cases cell with
  | integer value => exact .inl ⟨⟨value, rfl⟩, _, rfl⟩
  | real value => exact .inr ⟨nofun, _, rfl⟩
  | text value => exact .inr ⟨nofun, _, rfl⟩

theorem Cell.readReal_cases (cell : Cell) (index : Nat) (column : String) :
    (cell.IsNumber ∧ ∃ amount, cell.readReal index column = .ok amount) ∨
      (¬ cell.IsNumber ∧
        cell.readReal index column = .error (.columnKind index column .text)) := by
  cases cell with
  | integer value => exact .inl ⟨trivial, _, rfl⟩
  | real value => exact .inl ⟨trivial, _, rfl⟩
  | text value => exact .inr ⟨id, rfl⟩

theorem StoredMetric.holdsNumbers_iff {row : StoredMetric} :
    row.HoldsNumbers ↔
      row.inputTokens.IsInteger ∧ row.outputTokens.IsInteger ∧ row.totalTokens.IsInteger ∧
        row.requestCount.IsInteger ∧ row.totalCost.IsNumber := by
  constructor
  · intro numbers
    have counts := numbers.counts
    simp only [countColumns, List.forall_mem_cons, List.not_mem_nil, false_imp_iff,
      implies_true, and_true] at counts
    exact ⟨counts.1, counts.2.1, counts.2.2.1, counts.2.2.2, numbers.cost⟩
  · rintro ⟨input, output, total, requests, cost⟩
    exact ⟨by simp [countColumns, input, output, total, requests], cost⟩

/-- A row is read if it holds numbers, and fails with a column that does not otherwise. -/
theorem StoredMetric.read_cases (row : StoredMetric) :
    (row.HoldsNumbers ∧ ∃ metric, row.read = .ok metric) ∨
      (¬ row.HoldsNumbers ∧
        ∃ index column kind, row.read = .error (.columnKind index column kind)) := by
  rw [holdsNumbers_iff, StoredMetric.read]
  -- The columns are read in turn, and the first that fails ends it.
  rcases row.inputTokens.readCount_cases 2 "input_tokens" with
    ⟨input, _, read⟩ | ⟨input, _, read⟩ <;> rw [read]
  · rcases row.outputTokens.readCount_cases 3 "output_tokens" with
      ⟨output, _, read⟩ | ⟨output, _, read⟩ <;> rw [read]
    · rcases row.totalTokens.readCount_cases 4 "total_tokens" with
        ⟨total, _, read⟩ | ⟨total, _, read⟩ <;> rw [read]
      · rcases row.requestCount.readCount_cases 5 "request_count" with
          ⟨requests, _, read⟩ | ⟨requests, _, read⟩ <;> rw [read]
        · rcases row.totalCost.readReal_cases 6 "total_cost" with
            ⟨cost, _, read⟩ | ⟨cost, read⟩ <;> rw [read]
          · exact .inl ⟨⟨input, output, total, requests, cost⟩, _, rfl⟩
          · exact .inr ⟨fun all => cost all.2.2.2.2, _, _, _, rfl⟩
        · exact .inr ⟨fun all => requests all.2.2.2.1, _, _, _, rfl⟩
      · exact .inr ⟨fun all => total all.2.2.1, _, _, _, rfl⟩
    · exact .inr ⟨fun all => output all.2.1, _, _, _, rfl⟩
  · exact .inr ⟨fun all => input all.1, _, _, _, rfl⟩

end Store

/-! ## Costs between two dates -/

/-- Steps of which one fails fail as one of them does. -/
theorem exists_error_of_mapM
    {α β ε : Type}
    {step : α → Except ε β}
    {inputs : List α}
    (fails : ∃ input ∈ inputs, ∃ failure, step input = .error failure) :
    ∃ input ∈ inputs, ∃ failure,
      step input = .error failure ∧ inputs.mapM step = .error failure := by
  induction inputs with
  | nil =>
      rcases fails with ⟨input, member, -⟩
      exact absurd member List.not_mem_nil
  | cons input rest hypothesis =>
      cases here : step input with
      | error failure =>
          refine ⟨input, List.mem_cons_self, failure, here, ?_⟩
          rw [List.mapM_cons, here]
          rfl
      | ok output =>
          have later : ∃ other ∈ rest, ∃ failure, step other = .error failure := by
            rcases fails with ⟨culprit, member, failure, failed⟩
            rcases List.mem_cons.1 member with rfl | inRest
            · rw [here] at failed
              cases failed
            · exact ⟨culprit, inRest, failure, failed⟩
          rcases hypothesis later with ⟨culprit, inRest, failure, failed, all⟩
          refine ⟨culprit, List.mem_cons_of_mem _ inRest, failure, failed, ?_⟩
          rw [List.mapM_cons, here, all]
          rfl

/-- A summary of the rows of a table between two dates. -/
structure ShowsRows (store : Store) (lower upper : String) (summary : CostSummary) : Prop where
  ordered : summary.daily.Pairwise fun first second => first.date < second.date
  dates : ∀ date,
    (∃ bucket ∈ summary.daily, bucket.date = date) ↔
      lower ≤ date ∧ date ≤ upper ∧ ∃ row ∈ store.metrics, row.date = date
  /-- A bucket has one entry for each row of its date, by model. -/
  usage : ∀ bucket ∈ summary.daily, ∃ rows : List StoredMetric,
    rows.Perm (store.metrics.filter fun row => row.date == bucket.date) ∧
      (rows.Pairwise fun first second => first.model < second.model) ∧
      List.Forall₂ StoredMetric.ShownBy rows bucket.usage
  cost : ∀ bucket ∈ summary.daily,
    bucket.totalCost = (bucket.usage.map ModelUsage.totalCost).foldl (· + ·) 0.0

/-- What costs between two dates are for a table. -/
structure AnswersDates (store : Store) (lower upper : String)
    (outcome : Except ServiceError CostSummary) : Prop where
  answered :
    (∀ row ∈ store.metrics, lower ≤ row.date → row.date ≤ upper → row.HoldsNumbers) →
    (∀ date, lower ≤ date → date ≤ upper → store.requestsOf date ≤ largest64) →
      ∃ summary, outcome = .ok summary ∧ ShowsRows store lower upper summary
  refused : ∀ row ∈ store.metrics, lower ≤ row.date → row.date ≤ upper → ¬ row.HoldsNumbers →
    ∃ index column kind, outcome = .error (.store (.columnKind index column kind))
  /-- A table that was written by the operations on the store holds counts and doubles. -/
  written : Reachable store → ∀ row ∈ store.metrics,
    (∀ column ∈ countColumns, (column row).IsCount) ∧ row.totalCost.IsReal

namespace Store

/-- Rows of a date in order of their keys are in order of their models. -/
theorem pairwise_model_metricRows
    {store : Store}
    (unique : (store.metrics.map StoredMetric.key).Nodup)
    (lower upper date : String) :
    ((store.metricRows lower upper).filter fun row => row.date == date).Pairwise
      fun first second => first.model < second.model := by
  have ordered := (pairwise_metricRows unique lower upper).filter fun row => row.date == date
  refine ordered.imp_of_mem ?_
  intro first second isFirst isSecond before
  have sameDate : first.key.1 = second.key.1 :=
    (eq_of_beq (List.mem_filter.1 isFirst).2).trans
      (eq_of_beq (List.mem_filter.1 isSecond).2).symm
  rcases before with earlier | ⟨-, smaller⟩
  · exact absurd sameDate earlier.ne
  · exact smaller

theorem perm_metricRows_of_date
    (store : Store)
    {lower upper date : String}
    (noEarlier : lower ≤ date)
    (noLater : date ≤ upper) :
    ((store.metricRows lower upper).filter fun row => row.date == date).Perm
      (store.metrics.filter fun row => row.date == date) := by
  refine ((List.mergeSort_perm _ _).filter _).trans (List.Perm.of_eq ?_)
  rw [List.filter_filter]
  refine List.filter_congr fun row _ => ?_
  by_cases same : row.date = date
  · simp [same, noEarlier, noLater]
  · simp [same]

/-- The metrics that are read for a date are those of its rows. -/
theorem forall₂_of_date
    {store : Store}
    {lower upper : String}
    {metrics : List DailyMetric}
    (read : store.dailyMetrics lower upper = .ok metrics)
    (date : String) :
    List.Forall₂ (fun row metric => row.read = .ok metric)
      ((store.metricRows lower upper).filter fun row => row.date == date)
      (metrics.filter fun metric => metric.date == date) := by
  refine List.rel_filter ?_ (forall₂_of_mapM read)
  intro row metric isRead
  have sameDate : metric.date = row.date := congrArg Prod.fst (key_of_readMetric isRead)
  show (row.date == date) = true ↔ (metric.date == date) = true
  rw [sameDate]

/-- The metrics that are read count the requests of the rows of their date. -/
theorem requestsOn_le_of_read
    {store : Store}
    {lower upper : String}
    {metrics : List DailyMetric}
    (read : store.dailyMetrics lower upper = .ok metrics)
    (date : String)
    (fits : lower ≤ date → date ≤ upper → store.requestsOf date ≤ largest64) :
    requestsOn metrics date ≤ largest64 := by
  have counted : (((store.metricRows lower upper).filter fun row => row.date == date).map
      StoredMetric.requests) =
        (metrics.filter fun metric => metric.date == date).map DailyMetric.requestCount := by
    rw [← List.forall₂_eq_eq_eq, List.forall₂_map_left_iff, List.forall₂_map_right_iff]
    exact (forall₂_of_date read date).imp fun _ _ => StoredMetric.requestCount_of_read
  rw [requestsOn, ← counted]
  by_cases inRange : lower ≤ date ∧ date ≤ upper
  · rw [((perm_metricRows_of_date store inRange.1 inRange.2).map _).sum_eq]
    exact fits inRange.1 inRange.2
  · -- No row of the range has another date.
    have none : ((store.metricRows lower upper).filter fun row => row.date == date) = [] := by
      refine List.filter_eq_nil_iff.2 fun row isRow sameDate => inRange ?_
      rw [← beq_iff_eq.1 sameDate]
      exact (mem_metricRows_iff.1 isRow).2
    rw [none]
    exact Nat.zero_le _

theorem counts_of_reachable
    {store : Store}
    (reachable : Reachable store) :
    ∀ row ∈ store.metrics,
      (∀ column ∈ countColumns, (column row).IsCount) ∧ row.totalCost.IsReal := by
  rcases reachable with ⟨operations, rfl⟩
  intro row member
  rcases metricTable.mem_rows_after_iff.1 member with ⟨metric, -, rfl⟩
  refine ⟨?_, _, rfl⟩
  intro column isColumn
  simp only [countColumns, List.mem_cons, List.not_mem_nil, or_false] at isColumn
  rcases isColumn with rfl | rfl | rfl | rfl <;> exact ⟨_, rfl⟩

end Store

theorem showsRows_of_read
    {store : Store}
    (unique : (store.metrics.map StoredMetric.key).Nodup)
    {lower upper : String}
    {metrics : List DailyMetric}
    (read : store.dailyMetrics lower upper = .ok metrics) :
    ShowsRows store lower upper (CostSummary.ofMetrics metrics) := by
  have lists := lists_ofMetrics metrics
  have keys := map_of_mapM StoredMetric.key (fun _ _ => key_of_readMetric) read
  have dates : ∀ date, (∃ bucket ∈ (CostSummary.ofMetrics metrics).daily, bucket.date = date) ↔
      lower ≤ date ∧ date ≤ upper ∧ ∃ row ∈ store.metrics, row.date = date := by
    intro date
    have sameDates := congrArg (List.map Prod.fst) keys
    rw [List.map_map, List.map_map] at sameDates
    have member : date ∈ metrics.map DailyMetric.date ↔
        date ∈ (store.metricRows lower upper).map StoredMetric.date :=
      iff_of_eq (congrArg (date ∈ ·) sameDates)
    rw [lists.dates, ← List.mem_map, member, List.mem_map]
    constructor
    · rintro ⟨row, isRow, rfl⟩
      rcases mem_metricRows_iff.1 isRow with ⟨stored, noEarlier, noLater⟩
      exact ⟨noEarlier, noLater, row, stored, rfl⟩
    · rintro ⟨noEarlier, noLater, row, stored, rfl⟩
      exact ⟨row, mem_metricRows_iff.2 ⟨stored, noEarlier, noLater⟩, rfl⟩
  refine ⟨lists.ordered, dates, ?_, lists.cost⟩
  intro bucket member
  rcases (dates bucket.date).1 ⟨bucket, member, rfl⟩ with ⟨noEarlier, noLater, -⟩
  refine ⟨(store.metricRows lower upper).filter fun row => row.date == bucket.date,
    perm_metricRows_of_date store noEarlier noLater,
    pairwise_model_metricRows unique lower upper bucket.date, ?_⟩
  rw [lists.usage bucket member, List.forall₂_map_right_iff]
  exact (forall₂_of_date read bucket.date).imp fun row metric isRead =>
    StoredMetric.shownBy_of_read isRead

theorem answersDates_of_range
    {store : Store}
    (unique : (store.metrics.map StoredMetric.key).Nodup)
    {query : CostQuery}
    {lower upper : String}
    (accepted : costRange query.lower query.upper = .ok (.dates lower upper)) :
    AnswersDates store lower upper (costs store query) := by
  refine ⟨?_, ?_, fun reachable => counts_of_reachable reachable⟩
  · intro numbers fit
    have reads : ∀ row ∈ store.metricRows lower upper,
        ∃ metric, row.read = .ok metric ∧ True := by
      intro row member
      rcases mem_metricRows_iff.1 member with ⟨stored, noEarlier, noLater⟩
      rcases row.read_cases with ⟨-, metric, read⟩ | ⟨none, -⟩
      · exact ⟨metric, read, trivial⟩
      · exact absurd (numbers row stored noEarlier noLater) none
    rcases mapM_of_succeeds reads with ⟨metrics, read, -⟩
    have answer : store.dailyMetrics lower upper = .ok metrics := read
    have summed := CostSummary.fits_ofMetrics_iff.2 fun date =>
      requestsOn_le_of_read answer date (fit date)
    refine ⟨CostSummary.ofMetrics metrics, ?_, showsRows_of_read unique answer⟩
    rw [costs_of_dates accepted answer, if_pos summed]
  · intro row stored noEarlier noLater none
    have fails : ∃ row ∈ store.metricRows lower upper, ∃ failure, row.read = .error failure := by
      refine ⟨row, mem_metricRows_iff.2 ⟨stored, noEarlier, noLater⟩, ?_⟩
      rcases row.read_cases with ⟨numbers, -⟩ | ⟨-, _, _, _, failed⟩
      · exact absurd numbers none
      · exact ⟨_, failed⟩
    rcases exists_error_of_mapM fails with ⟨culprit, -, failure, failed, all⟩
    have answer : store.dailyMetrics lower upper = .error failure := all
    rcases culprit.read_cases with ⟨-, metric, read⟩ | ⟨-, index, column, kind, unread⟩
    · rw [failed] at read
      cases read
    · rw [failed] at unread
      cases unread
      refine ⟨index, column, kind, ?_⟩
      rw [costs_of_range _ accepted, rangeMetrics, answer]
      rfl

/--
Costs between two dates show each stored row of the range once, by date and
model, and a summary of any metrics in any order loses none of them.
-/
theorem costs_list_stored_rows
    {store : Store}
    (unique : (store.metrics.map StoredMetric.key).Nodup)
    {query : CostQuery}
    {lower upper : String}
    (accepted : costRange query.lower query.upper = .ok (.dates lower upper)) :
    AnswersDates store lower upper (costs store query) ∧
      ∀ metrics, (CostSummary.ofMetrics metrics).Lists metrics :=
  ⟨answersDates_of_range unique accepted, lists_ofMetrics⟩

/-- Metrics of three days, of which the first one is not asked for, in no order. -/
def threeDays : List DailyMetric :=
  [⟨"2025-03-02", "gpt-4o", 10, 20, 30, 3, 0.25⟩, ⟨"2025-03-01", "o3", 1, 2, 3, 1, 0.5⟩,
    ⟨"2025-02-28", "o3", 4, 4, 8, 2, 1.0⟩, ⟨"2025-03-01", "gpt-4o", 5, 6, 11, 4, 0.125⟩]

def lastTwoDays : CostQuery := ⟨"2025-03-01", "2025-03-02"⟩

theorem costRange_lastTwoDays :
    costRange lastTwoDays.lower lastTwoDays.upper = .ok (.dates "2025-03-01" "2025-03-02") := by
  rfl

theorem costs_list_stored_rows_of_two_days :
    (((Store.empty.fed [.metrics threeDays]).metrics.map StoredMetric.key).Nodup ∧
        costRange lastTwoDays.lower lastTwoDays.upper =
          .ok (.dates "2025-03-01" "2025-03-02")) ∧
      (Store.empty.fed [.metrics threeDays]).requestsOf "2025-03-01" = 5 ∧
      AnswersDates (Store.empty.fed [.metrics threeDays]) "2025-03-01" "2025-03-02"
          (costs (Store.empty.fed [.metrics threeDays]) lastTwoDays) ∧
        ∀ metrics, (CostSummary.ofMetrics metrics).Lists metrics := by
  have unique : ((Store.empty.fed [.metrics threeDays]).metrics.map StoredMetric.key).Nodup := by
    decide
  exact ⟨⟨unique, costRange_lastTwoDays⟩, rfl,
    costs_list_stored_rows unique costRange_lastTwoDays⟩

/-! ## A negative count -/

/-- A table with one metric whose input tokens were overwritten. -/
def overwrittenRollup (inputTokens : Cell) : Store :=
  { Store.empty with
    metrics := [{ StoredMetric.ofMetric (fullMetric "a") with inputTokens }] }

theorem overwrite_rollup (inputTokens : Cell) :
    (Store.empty.after [.putMetrics [fullMetric "a"]]).overwrite metricsTable "input_tokens" "a"
        (some inputTokens) =
      .ok (1, overwrittenRollup inputTokens.forIntegers) := by
  have column : requireColumn metricColumns "input_tokens" = .ok () := by
    rw [requireColumn, columnName_inputTokens]
    rfl
  rw [overwrite, if_neg (by decide +kernel), if_pos rfl, overwriteMetrics, column]
  simp only [StoredMetric.overwrite, columnName_inputTokens]
  rfl

theorem metricRows_overwrittenRollup (inputTokens : Cell) :
    (overwrittenRollup inputTokens).metricRows "2025-03-01" "2025-03-01" =
      (overwrittenRollup inputTokens).metrics := by
  have inRange : ((overwrittenRollup inputTokens).metrics.filter fun row =>
      "2025-03-01" ≤ row.date ∧ row.date ≤ "2025-03-01") =
        (overwrittenRollup inputTokens).metrics := by
    simp [overwrittenRollup, StoredMetric.ofMetric, fullMetric]
  rw [metricRows, inRange]
  exact List.mergeSort_singleton _

theorem ofMetrics_singleton (metric : DailyMetric) :
    CostSummary.ofMetrics [metric] = ⟨[DailyCost.ofMetrics metric.date [metric]]⟩ := by
  have once : [metric.date].eraseDups = [metric.date] := by
    rw [List.eraseDups_cons]
    rfl
  have dates : metricDates [metric] = [metric.date] := by
    rw [metricDates, List.map_singleton, once, List.mergeSort_singleton]
  have ofDate : [metric].filter (fun other => other.date == metric.date) = [metric] := by
    rw [List.filter_singleton, beq_self_eq_true, Bool.cond_true]
  rw [CostSummary.ofMetrics, dates, List.map_singleton, ofDate]

/--
A stored count of minus five is shown as none, and with a text in its place
there is no summary.
-/
theorem negative_count_is_cut :
    (Store.empty.after [.putMetrics [fullMetric "a"]]).overwrite metricsTable "input_tokens" "a"
        (some (.integer (-5))) =
      .ok (1, overwrittenRollup (.integer (-5))) ∧
    (∃ summary bucket entry,
      costs (overwrittenRollup (.integer (-5))) fullDay = .ok summary ∧
        summary.daily = [bucket] ∧ bucket.usage = [entry] ∧ entry.inputTokens = 0) ∧
    (Store.empty.after [.putMetrics [fullMetric "a"]]).overwrite metricsTable "input_tokens" "a"
        (some (.text "many")) =
      .ok (1, overwrittenRollup (.text "many")) ∧
    costs (overwrittenRollup (.text "many")) fullDay =
      .error (.store (.columnKind 2 "input_tokens" .text)) := by
  refine ⟨overwrite_rollup _, ?_, overwrite_rollup _, ?_⟩
  · have answer : (overwrittenRollup (.integer (-5))).dailyMetrics "2025-03-01" "2025-03-01" =
        .ok [cutMetric (fullMetric "a")] := by
      rw [dailyMetrics, metricRows_overwrittenRollup]
      rfl
    refine ⟨CostSummary.mk [DailyCost.ofMetrics "2025-03-01" [cutMetric (fullMetric "a")]],
      DailyCost.ofMetrics "2025-03-01" [cutMetric (fullMetric "a")],
      (cutMetric (fullMetric "a")).usage, ?_, rfl, rfl, rfl⟩
    rw [costs_of_dates costRange_fullDay answer, ofMetrics_singleton]
    rfl
  · rw [costs_of_range _ costRange_fullDay, rangeMetrics, dailyMetrics,
      metricRows_overwrittenRollup]
    rfl

end UsageLedger
