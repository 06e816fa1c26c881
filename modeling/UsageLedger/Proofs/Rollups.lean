import UsageLedger.Proofs.Feeding

/-!
# The metrics of one import

The service delivers one row for each name of a model and each time.  A row is
stored under its day and its trimmed model, and a missing or blank model has a
name of its own, so rows that the service keeps apart can have one key.  The
last of them then replaces the others.

`import_counts_add_up` says what an import stores of the rows it fetched: the
last one with each key, and with it all the requests that were counted but
those of the rows that were replaced.  Nothing is replaced exactly when the
keys are pairwise different.  `replaced_row_is_not_counted` shows that
different names and times alone do not make them so.
-/

namespace UsageLedger

open UsageLedger.Calendar
open UsageLedger.Store
open UsageLedger.Telemetry

/-- The requests counted under a date and a model. -/
def Store.requestsUnder (store : Store) (key : String × String) : Nat :=
  match (Table.find? StoredMetric.key key store.metrics).map StoredMetric.read with
  | some (.ok metric) => metric.requestCount
  | _ => 0

namespace Telemetry

/-- The requests that the rows of the service count, except those that are left out. -/
def countedRequests (rows : List MetricRow) : Nat :=
  ((rows.filter fun row => row.metric?.isSome).map fun row => countOf row.count).sum

theorem countOf_le (value : Json) : countOf value ≤ largestSigned := by
  unfold countOf
  split
  · split
    · exact Nat.min_le_right _ _
    · exact Nat.zero_le _
  · exact Nat.zero_le _

theorem MetricRow.requestCount_of_metric?
    {row : MetricRow}
    {metric : DailyMetric}
    (read : row.metric? = some metric) :
    metric.requestCount = countOf row.count := by
  unfold MetricRow.metric? at read
  rcases Option.bind_eq_some_iff.1 read with ⟨date, -, read⟩
  cases read
  rfl

/-- The metrics of some rows count what the rows count. -/
theorem sum_requestCount_dailyMetrics (rows : List MetricRow) :
    ((Telemetry.dailyMetrics rows).rows.map DailyMetric.requestCount).sum =
      countedRequests rows := by
  show ((rows.filterMap MetricRow.metric?).map DailyMetric.requestCount).sum = _
  unfold countedRequests
  induction rows with
  | nil => rfl
  | cons row rest hypothesis =>
      cases read : row.metric? with
      | none => simpa [read] using hypothesis
      | some metric =>
          simpa [read, MetricRow.requestCount_of_metric? read] using hypothesis

/-- A row that counts requests of a model on one day. -/
def MetricRow.counting (model : Option String) (count : String) : MetricRow where
  model := model
  time := some "2025-03-01"
  totalCost := .null
  inputTokens := .null
  outputTokens := .null
  totalTokens := .null
  count := .text count

end Telemetry

/-- What is stored of the rows that an import fetched. -/
structure RollupStored (rows : List MetricRow) (store : Store) : Prop where
  /-- A key holds the last metric that was read under it. -/
  last : ∀ metric,
    Table.IsLast metricTable.keyOf (Telemetry.dailyMetrics rows).rows metric →
      Table.find? StoredMetric.key (metricTable.keyOf metric) store.metrics =
        some (StoredMetric.ofMetric metric)
  /-- All requests are counted, under the keys of the rows or in a row that was replaced. -/
  counts :
    (((Telemetry.dailyMetrics rows).rows.map metricTable.keyOf).dedup.map
        store.requestsUnder).sum +
      ((Table.overwritten metricTable.keyOf (Telemetry.dailyMetrics rows).rows).map
        DailyMetric.requestCount).sum = countedRequests rows
  /-- No row is replaced exactly when the keys are pairwise different. -/
  kept_iff :
    Table.overwritten metricTable.keyOf (Telemetry.dailyMetrics rows).rows = [] ↔
      ((Telemetry.dailyMetrics rows).rows.map metricTable.keyOf).Nodup
  /-- With pairwise different keys every row is stored, and all requests are counted. -/
  complete : ((Telemetry.dailyMetrics rows).rows.map metricTable.keyOf).Nodup →
    (∀ metric ∈ (Telemetry.dailyMetrics rows).rows,
      Table.find? StoredMetric.key (metricTable.keyOf metric) store.metrics =
        some (StoredMetric.ofMetric metric)) ∧
      (((Telemetry.dailyMetrics rows).rows.map metricTable.keyOf).map
        store.requestsUnder).sum = countedRequests rows

section Written

variable
    {rows : List MetricRow}
    {before : List StoredMetric}
    {store : Store}
    (written : store.metrics =
      Table.putAll StoredMetric.key
        ((Telemetry.dailyMetrics rows).rows.map StoredMetric.ofMetric) before)

include written

theorem find?_of_isLast
    {metric : DailyMetric}
    (isLast :
      Table.IsLast metricTable.keyOf (Telemetry.dailyMetrics rows).rows metric) :
    Table.find? StoredMetric.key (metricTable.keyOf metric) store.metrics =
      some (StoredMetric.ofMetric metric) := by
  have lastRow :
      Table.IsLast StoredMetric.key
        ((Telemetry.dailyMetrics rows).rows.map StoredMetric.ofMetric)
        (StoredMetric.ofMetric metric) :=
    Table.isLast_map_iff.2 ⟨metric, isLast, rfl⟩
  rw [written]
  exact lastRow.find?_putAll before

/-- Under the key of a row the last row with that key is counted. -/
theorem requestsUnder_eq
    {key : String × String}
    (member : key ∈ (Telemetry.dailyMetrics rows).rows.map metricTable.keyOf) :
    store.requestsUnder key =
      ((Table.find? metricTable.keyOf key (Telemetry.dailyMetrics rows).rows.reverse).map
        DailyMetric.requestCount).getD 0 := by
  rcases List.mem_map.1 member with ⟨metric, isRow, rfl⟩
  rcases Table.exists_isLast metricTable.keyOf isRow with ⟨last, isLast, sameKey⟩
  have inRange : last.requestCount ≤ largestSigned := by
    rcases List.mem_filterMap.1 isLast.mem with ⟨row, -, read⟩
    rw [MetricRow.requestCount_of_metric? read]
    exact countOf_le row.count
  rw [Store.requestsUnder, ← sameKey, find?_of_isLast written isLast,
    Table.find?_reverse_eq_some_iff.2 ⟨isLast, rfl⟩, Option.map_some,
    StoredMetric.read_ofMetric]
  exact Nat.min_eq_left inRange

theorem rollupStored_of_written : RollupStored rows store := by
  have counts :
      (((Telemetry.dailyMetrics rows).rows.map metricTable.keyOf).dedup.map
          store.requestsUnder).sum +
        ((Table.overwritten metricTable.keyOf (Telemetry.dailyMetrics rows).rows).map
          DailyMetric.requestCount).sum = countedRequests rows := by
    rw [← sum_requestCount_dailyMetrics,
      ← Table.sum_last_add_sum_overwritten metricTable.keyOf DailyMetric.requestCount
        (Telemetry.dailyMetrics rows).rows]
    congr 2
    refine List.map_congr_left fun key member => ?_
    exact requestsUnder_eq written (List.mem_dedup.1 member)
  refine ⟨fun metric => find?_of_isLast written, counts, Table.overwritten_eq_nil_iff, ?_⟩
  intro distinct
  constructor
  · intro metric member
    exact find?_of_isLast written (Table.isLast_of_nodup distinct member)
  · rw [Table.overwritten_eq_nil_iff.2 distinct, distinct.dedup] at counts
    exact counts

end Written

/-- An import that fetched some rows and gives back a run has stored them, up to replaced ones. -/
theorem import_counts_add_up
    (scenario : Scenario)
    (store : Store)
    {window : ImportWindow}
    {rows : List MetricRow}
    {run : ImportRun}
    {scene : Scene}
    (planned : store.planImport (scenario.reading 0) = .ok window)
    (given : scenario.metrics window.fromDate window.toDate = .ok rows)
    (performed : (runImport scenario.clock scenario.source).run ⟨store, 0, []⟩ =
      (.ok run, scene)) :
    RollupStored rows scene.store :=
  rollupStored_of_written (metrics_of_runImport planned given performed)

/-- Rows of a missing, a blank and a padded model, of which the first two have one key. -/
def unnamedRows : List MetricRow :=
  [.counting none "1", .counting (some "") "2", .counting (some " gpt-4o ") "4"]

/-- An import of rows into the empty store succeeds. -/
theorem runImport_delivering (rows : List MetricRow) (observations : List ObservationRow) :
    ∃ window run scene,
      Store.empty.planImport ((Scenario.delivering rows observations).reading 0) =
          .ok window ∧
        (runImport (Scenario.delivering rows observations).clock
            (Scenario.delivering rows observations).source).run ⟨Store.empty, 0, []⟩ =
          (.ok run, scene) ∧
        run.status = .success ∧
        scene.store.requests =
          (Store.empty.putRequests (requestRecords observations).rows).2.requests := by
  have inReach : canLookBack ((Scenario.delivering rows observations).reading 0) = true := by
    show canLookBack (Instant.ofNanos 0) = true
    decide +kernel
  obtain ⟨window, planned⟩ : ∃ window, Store.empty.planImport
      ((Scenario.delivering rows observations).reading 0) = .ok window := by
    rcases sound_empty.runs.planImport_cases
        ((Scenario.delivering rows observations).reading 0) with
      ⟨last, -, -, ⟨-, planned⟩ | ⟨tooEarly, -⟩⟩
    · exact ⟨_, planned⟩
    · exact absurd (Or.inr inReach) tooEarly
  have room : Store.empty.highestId < largestSigned := by decide
  rcases runImport_of_success reachable_empty room planned
      (show (Scenario.delivering rows observations).metrics _ _ = .ok rows from rfl)
      (show (Scenario.delivering rows observations).observations _ = .ok observations
        from rfl) with
    ⟨run, scene, performed, succeeded, requests⟩
  exact ⟨_, run, scene, planned, performed, succeeded, requests⟩

theorem requests_fed_delivering (rows : List MetricRow) (observations : List ObservationRow) :
    (Store.empty.fed [.imported (.delivering rows observations)]).requests =
      (Store.empty.putRequests (requestRecords observations).rows).2.requests := by
  rcases runImport_delivering rows observations with
    ⟨window, run, scene, -, performed, -, requests⟩
  rw [← requests]
  exact congrArg (fun ended => ended.2.store.requests) performed

theorem import_counts_add_up_unnamed :
    ∃ window run scene,
      Store.empty.planImport ((Scenario.delivering unnamedRows []).reading 0) =
          .ok window ∧
        (Scenario.delivering unnamedRows []).metrics window.fromDate window.toDate =
          .ok unnamedRows ∧
        (runImport (Scenario.delivering unnamedRows []).clock
            (Scenario.delivering unnamedRows []).source).run ⟨Store.empty, 0, []⟩ =
          (.ok run, scene) ∧
        RollupStored unnamedRows scene.store := by
  rcases runImport_delivering unnamedRows [] with
    ⟨window, run, scene, planned, performed, -, -⟩
  exact ⟨window, run, scene, planned, rfl, performed,
    import_counts_add_up (Scenario.delivering unnamedRows []) Store.empty planned rfl
      performed⟩

/-- Rows of pairwise different models and times are imported, and their requests do not add up. -/
theorem replaced_row_is_not_counted :
    ∃ window run scene,
      Store.empty.planImport ((Scenario.delivering unnamedRows []).reading 0) =
          .ok window ∧
        (Scenario.delivering unnamedRows []).metrics window.fromDate window.toDate =
          .ok unnamedRows ∧
        (runImport (Scenario.delivering unnamedRows []).clock
            (Scenario.delivering unnamedRows []).source).run ⟨Store.empty, 0, []⟩ =
          (.ok run, scene) ∧
        run.status = .success ∧
        (unnamedRows.map fun row => (row.model, row.time)).Nodup ∧
        (((Telemetry.dailyMetrics unnamedRows).rows.map metricTable.keyOf).dedup.map
          scene.store.requestsUnder).sum ≠ countedRequests unnamedRows := by
  rcases runImport_delivering unnamedRows [] with
    ⟨window, run, scene, planned, performed, succeeded, -⟩
  have stored : RollupStored unnamedRows scene.store :=
    rollupStored_of_written (metrics_of_runImport planned rfl performed)
  have replaced :
      ((Table.overwritten metricTable.keyOf (Telemetry.dailyMetrics unnamedRows).rows).map
        DailyMetric.requestCount).sum = 1 := by decide +kernel
  refine ⟨window, run, scene, planned, rfl, performed, succeeded, by decide, ?_⟩
  have counts := stored.counts
  omega

end UsageLedger
