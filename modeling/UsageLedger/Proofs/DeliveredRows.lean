import UsageLedger.Proofs.CanonicalRows
import UsageLedger.Proofs.GroupedRequests
import UsageLedger.Proofs.RepairedImports

/-!
# Rows that imports deliver

The rows that an import delivers are what its source answers to the calls that
are made of it.  `receives_afterImport` says what one import makes of them,
whichever exit it takes: it writes what they become, and nothing else, into
the tables of usage.  So any imports, one after another, write what all of
their rows become (`receives_afterImports`), and under each key the last of it
stays.

As these values are canonical, no two rows of the table of metrics are of one
day and one model, however the days and the models were spelled, and what is
read back is what was written.  `imported_rows_survive` puts this together
with what becomes of the rows before they are stored.
-/

namespace UsageLedger

open UsageLedger.Calendar
open UsageLedger.Store
open UsageLedger.Telemetry
open UsageLedger.Text

/-! ## What an import delivers -/

/-- The rows of metrics that a source answers to some calls. -/
def Scenario.metricRows (scenario : Scenario) (calls : List SourceCall) : List MetricRow :=
  calls.flatMap fun
    | .metrics fromDate toDate => (scenario.metrics fromDate toDate).toOption.getD []
    | .observations _ => []

/-- The observations that a source answers to some calls. -/
def Scenario.observationRows (scenario : Scenario) (calls : List SourceCall) :
    List ObservationRow :=
  calls.flatMap fun
    | .metrics _ _ => []
    | .observations fromStart => (scenario.observations fromStart).toOption.getD []

namespace Store

/-- The calls that an import makes of its source. -/
def importCalls (store : Store) (scenario : Scenario) : List SourceCall :=
  ((runImport scenario.clock scenario.source).run ⟨store, 0, []⟩).2.calls

/-- The rows that some imports deliver, one import after another. -/
def delivered {α : Type} (rows : Scenario → List SourceCall → List α) (store : Store) :
    List Scenario → List α
  | [] => []
  | scenario :: rest =>
    rows scenario (store.importCalls scenario) ++
      (store.afterImport scenario).delivered rows rest

/-- Between two stores what some rows become was written, and nothing else. -/
structure Receives (metricRows : List MetricRow) (observationRows : List ObservationRow)
    (before after : Store) : Prop where
  metrics : after.metrics =
    Table.putAll StoredMetric.key
      ((Telemetry.dailyMetrics metricRows).rows.map StoredMetric.ofMetric) before.metrics
  requests : after.requests =
    Table.putAll StoredRequest.id
      ((requestRecords observationRows).rows.map StoredRequest.ofRecord) before.requests

theorem Receives.of_same
    {before after : Store}
    (metrics : after.metrics = before.metrics)
    (requests : after.requests = before.requests) :
    Receives [] [] before after where
  metrics := metrics
  requests := requests

theorem Receives.trans
    {first second third : Store}
    {metricRows laterMetricRows : List MetricRow}
    {observationRows laterObservationRows : List ObservationRow}
    (earlier : Receives metricRows observationRows first second)
    (later : Receives laterMetricRows laterObservationRows second third) :
    Receives (metricRows ++ laterMetricRows) (observationRows ++ laterObservationRows)
      first third where
  metrics := by
    rw [later.metrics, earlier.metrics, ← Table.putAll_append, ← List.map_append]
    simp only [Telemetry.dailyMetrics, Transformed.of, List.filterMap_append]
  requests := by
    rw [later.requests, earlier.requests, ← Table.putAll_append, ← List.map_append]
    simp only [requestRecords, Transformed.of, List.filterMap_append]

/-- What fetching writes is what was delivered to its calls. -/
theorem receives_fetchAndStore
    (scenario : Scenario)
    (window : ImportWindow)
    (scene : Scene)
    (fresh : scene.calls = []) :
    Receives
      (scenario.metricRows ((fetchAndStore scenario.source window).run scene).2.calls)
      (scenario.observationRows ((fetchAndStore scenario.source window).run scene).2.calls)
      scene.store ((fetchAndStore scenario.source window).run scene).2.store := by
  cases given : scenario.metrics window.fromDate window.toDate with
  | error cause =>
      rw [run_fetch_of_metrics_error scenario scene given, fresh]
      constructor
      · simp [Scenario.metricRows, given, Except.toOption, Telemetry.dailyMetrics,
          Transformed.of]
      · simp [Scenario.observationRows, requestRecords, Transformed.of]
  | ok metricRows =>
      cases givenToo : scenario.observations window.fromTimestamp with
      | error cause =>
          rw [run_fetch_of_observations_error scenario scene given givenToo, fresh]
          constructor
          · simp [Scenario.metricRows, given, Except.toOption, withMetrics]
          · simp [Scenario.observationRows, givenToo, Except.toOption, requestRecords,
              Transformed.of, withMetrics]
      | ok observationRows =>
          rw [run_fetch_of_success scenario scene given givenToo, fresh]
          constructor
          · simp [Scenario.metricRows, given, Except.toOption, withMetrics, putRequests]
          · simp [Scenario.observationRows, givenToo, Except.toOption, withMetrics, putRequests]

/-- An import writes what it was delivered, whether it gives back a run or not. -/
theorem receives_afterImport (store : Store) (scenario : Scenario) :
    Receives (scenario.metricRows (store.importCalls scenario))
      (scenario.observationRows (store.importCalls scenario)) store
      (store.afterImport scenario) := by
  rw [importCalls, afterImport]
  cases planned : store.planImport (scenario.reading 0) with
  | error cause =>
      simp only [runImport, run_bind_state, Scenario.run_clock, Scene.run_look, planned]
      exact .of_same rfl rfl
  | ok window =>
      rcases createRun_usage store window.mode window.fromTimestamp window.toTimestamp
        window.toTimestamp with ⟨sameMetrics, sameRequests⟩
      cases created : store.openImport window with
      | mk result opened =>
          have created_eq : store.createRun window.mode window.fromTimestamp
            window.toTimestamp window.toTimestamp = (result, opened) := created
          rw [created_eq] at sameMetrics sameRequests
          have opening : Receives [] [] store opened := .of_same sameMetrics sameRequests
          cases result with
          | error cause =>
              simp only [runImport, run_bind_state, Scenario.run_clock, Scene.run_look, planned,
                Scene.run_change, created]
              exact opening
          | ok run =>
              have fetched := receives_fetchAndStore scenario window ⟨opened, 1, []⟩ rfl
              have closing := completeRun_usage
                ((fetchAndStore scenario.source window).run ⟨opened, 1, []⟩).2.store run.id
                (completionOf ((fetchAndStore scenario.source window).run ⟨opened, 1, []⟩).1
                  (scenario.reading
                    ((fetchAndStore scenario.source window).run ⟨opened, 1, []⟩).2.readings))
              have whole := (opening.trans fetched).trans (.of_same closing.1 closing.2)
              rw [List.append_nil, List.append_nil] at whole
              rw [run_runImport scenario ⟨store, 0, []⟩ planned created rfl]
              exact whole

/-- Any imports write what all of their rows become. -/
theorem receives_afterImports (store : Store) (scenarios : List Scenario) :
    Receives (store.delivered Scenario.metricRows scenarios)
      (store.delivered Scenario.observationRows scenarios) store
      (store.afterImports scenarios) := by
  induction scenarios generalizing store with
  | nil => exact .of_same rfl rfl
  | cons scenario rest hypothesis =>
      exact (receives_afterImport store scenario).trans (hypothesis (store.afterImport scenario))

end Store

/-! ## What is read back -/

namespace Store

namespace UsageTable

variable {α β κ : Type} [DecidableEq κ] (table : UsageTable α β κ)

/-- Rows that hold the last value that was written under each key, as it was up to some relation. -/
structure HoldsLast (agrees : β → β → Prop) (written : List β) (rows : List α) : Prop where
  unique : (rows.map table.key).Nodup
  reads : ∀ value, Table.IsLast table.keyOf written value →
    ∃ row read, Table.find? table.key (table.keyOf value) rows = some row ∧
      table.read row = .ok read ∧ agrees read value
  only : ∀ row ∈ rows, ∃ value,
    Table.IsLast table.keyOf written value ∧ table.stored value = row

theorem holdsLast_putAll
    {agrees : β → β → Prop}
    {written : List β}
    (kept : ∀ value ∈ written, agrees (table.cut value) value) :
    table.HoldsLast agrees written
      (Table.putAll table.key (written.map table.stored) []) where
  unique := Table.nodup_putAll_nil _ _
  reads value isLast := by
    have lastRow : Table.IsLast table.key (written.map table.stored) (table.stored value) :=
      Table.isLast_map_iff.2 ⟨value, isLast, rfl⟩
    exact ⟨_, _, lastRow.find?_putAll [], table.read_stored value, kept value isLast.mem⟩
  only row member := Table.isLast_map_iff.1 (Table.mem_putAll_nil_iff.1 member)

end UsageTable

/-- Metrics in order of their keys, each the last one written for a day and a model of a range. -/
structure ShowsLast (written : List DailyMetric) (lower upper : String)
    (metrics : List DailyMetric) : Prop where
  ordered : metrics.Pairwise fun first second =>
    KeyBefore (first.date, first.model) (second.date, second.model)
  shown : ∀ last, Table.IsLast metricTable.keyOf written last →
    lower ≤ last.date → last.date ≤ upper → ∃ metric ∈ metrics, metric.Agrees last
  only : ∀ metric ∈ metrics, ∃ last, Table.IsLast metricTable.keyOf written last ∧
    lower ≤ last.date ∧ last.date ≤ upper ∧ metric.Agrees last

/-- What the tables hold of values that were written, and how it is read back. -/
structure Survives (writtenMetrics : List DailyMetric) (writtenRecords : List RequestRecord)
    (store : Store) : Prop where
  metrics : metricTable.HoldsLast DailyMetric.Agrees writtenMetrics store.metrics
  requests : requestTable.HoldsLast RequestRecord.Agrees writtenRecords store.requests
  /-- No two metrics are of one day and one trimmed model. -/
  days : (store.metrics.map fun row => (dateOfText? row.date, trim row.model)).Nodup
  dated : ∀ row ∈ store.metrics, ∃ date : Date,
    dateOfText? row.date = some date ∧ date.text = row.date
  ranges : ∀ lower upper, ∃ shown,
    store.dailyMetrics lower upper = .ok shown ∧ ShowsLast writtenMetrics lower upper shown

section Written

variable
    {store : Store}
    {metrics : List DailyMetric}
    (canonical : ∀ metric ∈ metrics, metric.IsCanonical)
    (held : metricTable.HoldsLast DailyMetric.Agrees metrics store.metrics)

include canonical held

theorem exists_canonical_of_mem {row : StoredMetric} (member : row ∈ store.metrics) :
    ∃ metric, Table.IsLast metricTable.keyOf metrics metric ∧ metric.IsCanonical ∧
      StoredMetric.ofMetric metric = row := by
  rcases held.only row member with ⟨metric, isLast, same⟩
  exact ⟨metric, isLast, canonical metric isLast.mem, same⟩

theorem dated_of_holdsLast :
    ∀ row ∈ store.metrics, ∃ date : Date,
      dateOfText? row.date = some date ∧ date.text = row.date := by
  intro row member
  rcases exists_canonical_of_mem canonical held member with ⟨metric, -, isCanonical, rfl⟩
  exact isCanonical.date

theorem nodup_days_of_holdsLast :
    (store.metrics.map fun row => (dateOfText? row.date, trim row.model)).Nodup := by
  have distinct : store.metrics.Nodup := held.unique.of_map
  refine List.Nodup.map_on ?_ distinct
  intro first isFirst second isSecond same
  rcases Prod.mk.inj same with ⟨sameDay, sameModel⟩
  rcases exists_canonical_of_mem canonical held isFirst with ⟨one, -, oneCanonical, rfl⟩
  rcases exists_canonical_of_mem canonical held isSecond with ⟨other, -, otherCanonical, rfl⟩
  rcases oneCanonical.date with ⟨oneDate, oneRead, oneText⟩
  rcases otherCanonical.date with ⟨otherDate, otherRead, otherText⟩
  -- One day has one written form, and both dates are written in it.
  have sameDate : one.date = other.date := by
    rw [show (StoredMetric.ofMetric one).date = one.date from rfl,
      show (StoredMetric.ofMetric other).date = other.date from rfl, oneRead, otherRead] at sameDay
    rw [← oneText, ← otherText, Option.some.inj sameDay]
  have sameName : one.model = other.model := by
    rw [← oneCanonical.model.1, ← otherCanonical.model.1]
    exact sameModel
  exact List.inj_on_of_nodup_map held.unique isFirst isSecond (Prod.ext sameDate sameName)

theorem ranges_of_holdsLast (lower upper : String) :
    ∃ shown, store.dailyMetrics lower upper = .ok shown ∧ ShowsLast metrics lower upper shown := by
  have reads : ∀ row ∈ store.metricRows lower upper, ∃ metric,
      row.read = .ok metric ∧ ∃ last, Table.IsLast metricTable.keyOf metrics last ∧
        StoredMetric.ofMetric last = row ∧ metric.Agrees last := by
    intro row member
    rcases exists_canonical_of_mem canonical held (mem_metricRows_iff.1 member).1 with
      ⟨last, isLast, isCanonical, rfl⟩
    exact ⟨cutMetric last, StoredMetric.read_ofMetric last, last, isLast, rfl,
      isCanonical.agrees_cut⟩
  rcases mapM_of_succeeds reads with ⟨shown, read, ofRow, ofMetric⟩
  refine ⟨shown, read, ?_, ?_, ?_⟩
  · have keys := map_of_mapM StoredMetric.key (fun _ _ => key_of_readMetric) read
    have ordered := pairwise_metricRows held.unique lower upper
    rw [← List.pairwise_map, ← keys, List.pairwise_map] at ordered
    exact ordered
  · intro last isLast noEarlier noLater
    rcases held.reads last isLast with ⟨row, -, found, -, -⟩
    rcases (Table.find?_eq_some_iff held.unique).1 found with ⟨stored, sameKey⟩
    have sameDate : row.date = last.date := congrArg Prod.fst sameKey
    have inRange : row ∈ store.metricRows lower upper :=
      mem_metricRows_iff.2 ⟨stored, sameDate ▸ noEarlier, sameDate ▸ noLater⟩
    rcases ofRow row inRange with ⟨metric, isShown, other, isLastToo, rfl, agrees⟩
    -- Only one value is the last one under a key.
    have sameValue : other = last := isLastToo.unique isLast sameKey
    exact ⟨metric, isShown, sameValue ▸ agrees⟩
  · intro metric isShown
    rcases ofMetric metric isShown with ⟨row, inRange, last, isLast, rfl, agrees⟩
    rcases mem_metricRows_iff.1 inRange with ⟨-, noEarlier, noLater⟩
    exact ⟨last, isLast, noEarlier, noLater, agrees⟩

end Written

/-- The values that imports into an empty store write survive in its tables. -/
theorem survives_afterImports (scenarios : List Scenario) :
    Survives (Telemetry.dailyMetrics (Store.empty.delivered Scenario.metricRows scenarios)).rows
      (requestRecords (Store.empty.delivered Scenario.observationRows scenarios)).rows
      (Store.empty.afterImports scenarios) := by
  have received := receives_afterImports Store.empty scenarios
  have canonical : ∀ metric ∈ (Telemetry.dailyMetrics
      (Store.empty.delivered Scenario.metricRows scenarios)).rows, metric.IsCanonical :=
    fun metric member => isCanonical_of_mem_dailyMetrics member
  have metrics : metricTable.HoldsLast DailyMetric.Agrees
      (Telemetry.dailyMetrics (Store.empty.delivered Scenario.metricRows scenarios)).rows
      (Store.empty.afterImports scenarios).metrics := by
    rw [received.metrics]
    exact metricTable.holdsLast_putAll fun metric member => (canonical metric member).agrees_cut
  have requests : requestTable.HoldsLast RequestRecord.Agrees
      (requestRecords (Store.empty.delivered Scenario.observationRows scenarios)).rows
      (Store.empty.afterImports scenarios).requests := by
    rw [received.requests]
    exact requestTable.holdsLast_putAll fun record member =>
      (isCanonical_of_mem_requestRecords member).agrees_cut
  exact
    { metrics := metrics
      requests := requests
      days := nodup_days_of_holdsLast canonical metrics
      dated := dated_of_holdsLast canonical metrics
      ranges := ranges_of_holdsLast canonical metrics }

end Store

/--
Rows that are imported become canonical, in their order, and after any imports
into an empty store each day and model is held once, as the last row of it had
become.
-/
theorem imported_rows_survive :
    (∀ rows : List MetricRow,
      (Telemetry.dailyMetrics rows).Keeps MetricRow.IsDated MetricRow.Becomes rows) ∧
    (∀ rows : List ObservationRow,
      (requestRecords rows).Keeps ObservationRow.IsIdentified ObservationRow.Becomes rows) ∧
    ∀ scenarios : List Scenario,
      Survives (Telemetry.dailyMetrics (Store.empty.delivered Scenario.metricRows scenarios)).rows
        (requestRecords (Store.empty.delivered Scenario.observationRows scenarios)).rows
        (Store.empty.afterImports scenarios) :=
  ⟨keeps_dailyMetrics, keeps_requestRecords, survives_afterImports⟩

end UsageLedger
