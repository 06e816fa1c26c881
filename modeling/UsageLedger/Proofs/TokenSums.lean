import UsageLedger.Proofs.Buckets
import UsageLedger.Proofs.GroupSums
import UsageLedger.Proofs.Rollups

/-!
# Costs between two times

Each token count that an import stores fits a column of integers.  Costs
between two times add up the counts of a day and a model, and a sum need not
fit where its terms do.

`imported_sums_decide_costs` says what is answered after any imports: a summary
with the exact sums of every group if all of them fit, and the failure of the
sum otherwise.  `two_full_requests_overflow` is an import of two observations
after which the costs of their day cannot be asked for.
-/

namespace UsageLedger

open UsageLedger.Service
open UsageLedger.Store
open UsageLedger.Telemetry

/-- The records of a day and a model that started in a range. -/
def Store.group (store : Store) (lower upper : String) (key : String × String) :
    List StoredRequest :=
  store.requests.filter fun row =>
    row.startsWithin lower upper && row.group? == some key

/-- A summary of the groups of a range. -/
structure ShowsGroups (store : Store) (lower upper : String) (summary : CostSummary) :
    Prop where
  /-- Every entry has the exact sums of its group. -/
  sums : ∀ bucket ∈ summary.daily, ∀ entry ∈ bucket.usage,
    AddsUp (store.group lower upper (bucket.date, entry.model)) entry
  /-- Every group with a record has an entry. -/
  covers : ∀ date model, store.group lower upper (date, model) ≠ [] →
    ∃ bucket ∈ summary.daily, bucket.date = date ∧
      ∃ entry ∈ bucket.usage, entry.model = model

/-- The answer for the costs between two times. -/
structure AnswersTimes (store : Store) (lower upper : String)
    (answer : Except ServiceError CostSummary) : Prop where
  summed : (∀ key, SumsFit (store.group lower upper key)) →
    ∃ summary, answer = .ok summary ∧ ShowsGroups store lower upper summary
  overflows : ∀ key, ¬ SumsFit (store.group lower upper key) →
    answer = .error (.store .integerOverflow)

/-! ## Groups of a store -/

theorem Store.StoredRequest.group?_eq_some_iff
    {row : StoredRequest}
    {date model : String} :
    row.group? = some (date, model) ↔
      row.model = some model ∧ ∃ start, row.startedAt = some start ∧ dayOf start = date := by
  constructor
  · intro grouped
    rcases Option.bind_eq_some_iff.1 grouped with ⟨start, starts, grouped⟩
    rcases Option.bind_eq_some_iff.1 grouped with ⟨given, isModel, same⟩
    cases same
    exact ⟨isModel, start, starts, rfl⟩
  · rintro ⟨isModel, start, starts, rfl⟩
    rw [StoredRequest.group?, starts, isModel]
    rfl

theorem Store.StoredRequest.startsWithin_iff
    {lower upper : String}
    {row : StoredRequest} :
    row.startsWithin lower upper = true ↔
      ∃ start, row.startedAt = some start ∧ lower ≤ start ∧ start < upper := by
  cases starts : row.startedAt <;> simp [StoredRequest.startsWithin, starts]

/-- A request of a model that started on a day, from one text up to another. -/
structure Store.StoredRequest.CountsFor (lower upper date model : String)
    (row : StoredRequest) : Prop where
  model : row.model = some model
  started : ∃ start, row.startedAt = some start ∧ dayOf start = date ∧
    lower ≤ start ∧ start < upper

theorem mem_group_iff_countsFor
    {store : Store}
    {lower upper date model : String}
    {row : StoredRequest} :
    row ∈ store.group lower upper (date, model) ↔
      row ∈ store.requests ∧ row.CountsFor lower upper date model := by
  rw [Store.group, List.mem_filter, Bool.and_eq_true, beq_iff_eq,
    StoredRequest.startsWithin_iff, StoredRequest.group?_eq_some_iff]
  refine and_congr_right fun _ => ?_
  constructor
  · rintro ⟨⟨start, starts, within⟩, isModel, same, sameStarts, onDay⟩
    cases starts.symm.trans sameStarts
    exact ⟨isModel, start, starts, onDay, within⟩
  · rintro ⟨isModel, start, starts, onDay, within⟩
    exact ⟨⟨start, starts, within⟩, isModel, start, starts, onDay⟩

/-- The records are sorted before they are grouped; the groups are the same. -/
theorem perm_group
    (store : Store)
    (lower upper : String)
    (key : String × String) :
    (inGroup key (store.requestsWithin lower upper)).Perm (store.group lower upper key) := by
  have same :
      inGroup key (store.requests.filter fun row =>
          row.startsWithin lower upper && row.model.isSome) =
        store.group lower upper key := by
    rw [inGroup, Store.group, List.filter_filter]
    apply List.filter_congr
    intro row _
    -- A record of a group has a model, so asking for one leaves none of the group out.
    by_cases grouped : row.group? = some key
    · rw [(StoredRequest.group?_eq_some_iff.1 grouped).1, Option.isSome_some, Bool.and_true,
        Bool.and_comm]
    · rw [beq_eq_false_iff_ne.2 grouped, Bool.false_and, Bool.and_false]
  rw [← same]
  exact (List.mergeSort_perm _ _).filter _

/-! ## Summaries -/

/-- A summary of metrics that add up their groups, one for each group. -/
theorem showsGroups_ofMetrics
    {store : Store}
    {lower upper : String}
    {metrics : List DailyMetric}
    (covers : ∀ date model, store.group lower upper (date, model) ≠ [] →
      ∃ metric ∈ metrics, (metric.date, metric.model) = (date, model))
    (sums : ∀ metric ∈ metrics,
      AddsUp (store.group lower upper (metric.date, metric.model)) metric.usage) :
    ShowsGroups store lower upper (CostSummary.ofMetrics metrics) where
  sums bucket member entry isEntry := by
    rcases List.mem_map.1 member with ⟨date, -, rfl⟩
    rcases List.mem_map.1 isEntry with ⟨metric, ofDate, rfl⟩
    rcases List.mem_filter.1 ofDate with ⟨isMetric, sameDate⟩
    rw [beq_iff_eq] at sameDate
    subst sameDate
    exact sums metric isMetric
  covers date model nonempty := by
    rcases covers date model nonempty with ⟨metric, isMetric, sameKey⟩
    cases sameKey
    have hasDate := mem_metricDates_iff.2 ⟨metric, isMetric, rfl⟩
    refine ⟨_, List.mem_map_of_mem hasDate, rfl, metric.usage, ?_, rfl⟩
    apply List.mem_map_of_mem
    rw [List.mem_filter, beq_iff_eq]
    exact ⟨isMetric, rfl⟩

theorem numeric_of_reachable
    {store : Store}
    (reachable : Reachable store) :
    ∀ row ∈ store.requests, row.Numeric := by
  rcases reachable with ⟨operations, rfl⟩
  intro row member
  rcases requestTable.mem_rows_after_iff.1 member with ⟨record, -, rfl⟩
  exact numeric_ofRecord record

theorem answersTimes_of_reachable
    {store : Store}
    (reachable : Reachable store)
    {query : CostQuery}
    {lower upper : String}
    (accepted : costRange query.lower query.upper = .ok (.timestamps lower upper)) :
    AnswersTimes store lower upper (costs store query) := by
  have numeric : ∀ row ∈ store.requestsWithin lower upper, row.Numeric := by
    intro row member
    rw [requestsWithin, List.mem_mergeSort] at member
    exact numeric_of_reachable reachable row (List.mem_filter.1 member).1
  rw [costs_of_range _ accepted, rangeMetrics]
  constructor
  · intro fits
    have groupsFit : ∀ key, SumsFit (inGroup key (store.requestsWithin lower upper)) :=
      fun key => (sumsFit_of_perm (perm_group store lower upper key)).2 (fits key)
    rcases metricsWithin_of_fits numeric groupsFit with ⟨metrics, computed, covers, sums⟩
    refine ⟨CostSummary.ofMetrics metrics, ?_, ?_⟩
    · rw [computed]
      rfl
    · apply showsGroups_ofMetrics
      · intro date model nonempty
        apply covers
        rw [mem_groupKeys_iff]
        intro empty
        apply nonempty
        have same := perm_group store lower upper (date, model)
        rw [empty] at same
        exact same.nil_eq.symm
      · intro metric isMetric
        exact addsUp_of_perm (perm_group store lower upper _) (sums metric isMetric)
  · intro key exceeds
    have groupOver : ¬ SumsFit (inGroup key (store.requestsWithin lower upper)) :=
      fun fits => exceeds ((sumsFit_of_perm (perm_group store lower upper key)).1 fits)
    rw [metricsWithin_of_not_fits numeric groupOver]
    rfl

/-- Whatever was imported, costs between two times are answered if all sums fit, and only then. -/
theorem imported_sums_decide_costs
    (scenarios : List Scenario)
    (query : CostQuery)
    {lower upper : String}
    (accepted : costRange query.lower query.upper = .ok (.timestamps lower upper)) :
    AnswersTimes (Store.empty.fed (scenarios.map .imported)) lower upper
      (costs (Store.empty.fed (scenarios.map .imported)) query) :=
  answersTimes_of_reachable (reachable_fed _) accepted

/-- An observation of a model on a day that used as many tokens as a column holds. -/
def fullObservation (id : String) : ObservationRow where
  id := some id
  traceId := none
  name := none
  model := some "gpt-4o"
  startTime := some "2025-03-01T10:00:00Z"
  endTime := none
  usage := none
  inputUsage := .text "1e19"
  outputUsage := .null
  totalUsage := .null
  calculatedTotalCost := .null
  totalCost := .null

def fullImport : Scenario :=
  .delivering [] [fullObservation "a", fullObservation "b"]

def fullTimes : CostQuery := ⟨"2025-03-01T00:00:00Z", "2025-03-02T00:00:00Z"⟩

theorem costRange_fullTimes :
    costRange fullTimes.lower fullTimes.upper =
      .ok (.timestamps "2025-03-01T00:00:00.000Z" "2025-03-02T00:00:00.000Z") := by
  have range :
      (costRange fullTimes.lower fullTimes.upper).toOption =
        some (.timestamps "2025-03-01T00:00:00.000Z" "2025-03-02T00:00:00.000Z") := by
    decide +kernel
  cases answer : costRange fullTimes.lower fullTimes.upper with
  | error problem =>
      rw [answer] at range
      cases range
  | ok selected =>
      rw [answer] at range
      exact congrArg Except.ok (Option.some.inj range)

theorem imported_sums_decide_costs_full :
    costRange fullTimes.lower fullTimes.upper =
        .ok (.timestamps "2025-03-01T00:00:00.000Z" "2025-03-02T00:00:00.000Z") ∧
      AnswersTimes (Store.empty.fed [.imported fullImport])
        "2025-03-01T00:00:00.000Z" "2025-03-02T00:00:00.000Z"
        (costs (Store.empty.fed [.imported fullImport]) fullTimes) :=
  ⟨costRange_fullTimes,
    imported_sums_decide_costs [fullImport] fullTimes costRange_fullTimes⟩

/-- Two observations are imported, and then the costs of their day fail. -/
theorem two_full_requests_overflow :
    costRange fullTimes.lower fullTimes.upper =
        .ok (.timestamps "2025-03-01T00:00:00.000Z" "2025-03-02T00:00:00.000Z") ∧
      costs (Store.empty.fed [.imported fullImport]) fullTimes =
        .error (.store .integerOverflow) := by
  have requests :
      (Store.empty.fed [.imported fullImport]).requests =
        (Store.empty.putRequests
          (requestRecords [fullObservation "a", fullObservation "b"]).rows).2.requests := by
    rcases runImport_delivering [] [fullObservation "a", fullObservation "b"] with
      ⟨window, run, scene, -, performed, -, requests⟩
    rw [← requests]
    exact congrArg (fun ended => ended.2.store.requests) performed
  have sum :
      tokenSum StoredRequest.inputTokens
          ((Store.empty.fed [.imported fullImport]).group
            "2025-03-01T00:00:00.000Z" "2025-03-02T00:00:00.000Z"
            ("2025-03-01", "gpt-4o")) =
        18446744073709551614 := by
    rw [Store.group, requests]
    decide +kernel
  have answers :=
    answersTimes_of_reachable (reachable_fed [.imported fullImport]) costRange_fullTimes
  refine ⟨costRange_fullTimes, answers.overflows ("2025-03-01", "gpt-4o") ?_⟩
  intro fits
  have tooLarge := (sumsFit_iff.1 fits).1
  rw [sum] at tooLarge
  exact absurd tooLarge (by decide)

end UsageLedger
