import UsageLedger.Proofs.Feeding
import UsageLedger.Proofs.RequestPages
import UsageLedger.Proofs.TokenSums

/-!
# What a later import repairs

Attempts to import may fail halfway and leave rows behind, or succeed with
rows that are out of date.  An import that delivers all of their keys again
writes over whatever they left: under each key the tables of usage hold what
they would hold had the attempts never been made (`later_import_repairs`).

A table keeps its rows in the order in which their keys first came, which may
be that of an attempt.  This is all that remains of it, and neither the
metrics of a range nor the pages of requests show it.
-/

namespace UsageLedger

/-! ## Rows that are written again -/

namespace Table

variable {α κ : Type} [DecidableEq κ] {key : α → κ}

/-- The rows under a key change by rows with that key only. -/
theorem filter_key_put (wanted : κ) (row : α) (table : List α) :
    (put key row table).filter (fun other => key other = wanted) =
      if key row = wanted then put key row (table.filter fun other => key other = wanted)
      else table.filter fun other => key other = wanted := by
  by_cases same : key row = wanted
  · rw [if_pos same]
    induction table with
    | nil => simp [put, same]
    | cons old rest hypothesis =>
        by_cases found : key old = key row
        · simp [put, found, same]
        · have foundNot : key old ≠ wanted := same ▸ found
          simpa [put, found, foundNot] using hypothesis
  · rw [if_neg same]
    apply filter_put
    intro other sameKey
    rw [decide_eq_false_iff_not, sameKey]
    exact same

theorem filter_key_putAll (wanted : κ) (rows table : List α) :
    (putAll key rows table).filter (fun other => key other = wanted) =
      putAll key (rows.filter fun other => key other = wanted)
        (table.filter fun other => key other = wanted) := by
  induction rows generalizing table with
  | nil => rfl
  | cons row rest hypothesis =>
      rw [putAll_cons, hypothesis, filter_key_put, List.filter_cons]
      by_cases same : key row = wanted
      · rw [if_pos same, if_pos (decide_eq_true same), putAll_cons]
      · rw [if_neg same, if_neg (by simpa using same)]

/-- Before a row is written, rows with its key need not be. -/
theorem put_putAll_of_same
    {row : α}
    {rows : List α}
    (same : ∀ other ∈ rows, key other = key row)
    (table : List α) :
    put key row (putAll key rows table) = put key row table := by
  induction rows generalizing table with
  | nil => rfl
  | cons first rest hypothesis =>
      rcases List.forall_mem_cons.1 same with ⟨sameFirst, sameRest⟩
      rw [putAll_cons, hypothesis sameRest, put_put_of_eq sameFirst]

/-- Rows whose keys are all written again leave nothing behind under any key. -/
theorem filter_key_rewritten
    {earlier rows : List α}
    (covered : ∀ row ∈ earlier, key row ∈ rows.map key)
    (wanted : κ)
    (table : List α) :
    (putAll key rows (putAll key earlier table)).filter (fun other => key other = wanted) =
      (putAll key rows table).filter fun other => key other = wanted := by
  simp only [filter_key_putAll]
  cases again : rows.filter fun other => key other = wanted with
  | nil =>
      have absent : earlier.filter (fun other => key other = wanted) = [] := by
        rw [List.filter_eq_nil_iff] at again ⊢
        intro row member
        rcases List.mem_map.1 (covered row member) with ⟨later, isLater, sameKey⟩
        rw [← sameKey]
        exact again later isLater
      rw [absent, putAll_nil]
  | cons row rest =>
      have rowKey : key row = wanted := by
        have member : row ∈ rows.filter fun other => key other = wanted := by
          rw [again]
          exact List.mem_cons_self
        simpa using (List.mem_filter.1 member).2
      rw [putAll_cons, putAll_cons, put_putAll_of_same]
      intro other member
      have otherKey := (List.mem_filter.1 member).2
      rw [decide_eq_true_eq] at otherKey
      rw [otherKey, rowKey]

/-- Tables that hold the same rows under each key hold the same rows. -/
theorem perm_of_filter_key
    {first second : List α}
    (same : ∀ wanted : κ,
      first.filter (fun other => key other = wanted) =
        second.filter fun other => key other = wanted) :
    first.Perm second := by
  classical
  rw [List.perm_iff_count]
  intro row
  have counted : ∀ table : List α,
      (table.filter fun other => key other = key row).count row = table.count row :=
    fun table => List.count_filter (decide_eq_true rfl)
  rw [← counted first, same, counted]

theorem find?_of_filter_key
    {first second : List α}
    {wanted : κ}
    (same :
      first.filter (fun other => key other = wanted) =
        second.filter fun other => key other = wanted) :
    find? key wanted first = find? key wanted second := by
  rw [find?, find?, ← List.head?_filter, ← List.head?_filter, same]

end Table

open UsageLedger.Store
open UsageLedger.Telemetry

namespace Store

/-! ## Stores that hold the same usage -/

/-- Two stores hold the same usage; its order in the tables does not count. -/
structure SameUsage (first second : Store) : Prop where
  metrics : first.metrics.Perm second.metrics
  requests : first.requests.Perm second.requests
  metricUnder : ∀ key,
    Table.find? StoredMetric.key key first.metrics =
      Table.find? StoredMetric.key key second.metrics
  requestUnder : ∀ id,
    Table.find? StoredRequest.id id first.requests =
      Table.find? StoredRequest.id id second.requests
  counts : first.counts = second.counts

/-- Two stores give the same answers about usage that is listed. -/
structure SameAnswers (first second : Store) : Prop where
  dailyMetrics : ∀ lower upper,
    first.dailyMetrics lower upper = second.dailyMetrics lower upper
  requestPage : ∀ page limit filter,
    first.requestPage page limit filter = second.requestPage page limit filter

theorem sameUsage_of_filter_key
    {first second : Store}
    (metrics : ∀ key,
      first.metrics.filter (fun row => row.key = key) =
        second.metrics.filter fun row => row.key = key)
    (requests : ∀ id,
      first.requests.filter (fun row => row.id = id) =
        second.requests.filter fun row => row.id = id) :
    SameUsage first second where
  metrics := Table.perm_of_filter_key metrics
  requests := Table.perm_of_filter_key requests
  metricUnder key := Table.find?_of_filter_key (metrics key)
  requestUnder id := Table.find?_of_filter_key (requests id)
  counts := by
    rw [Store.counts, Store.counts, (Table.perm_of_filter_key metrics).length_eq,
      (Table.perm_of_filter_key requests).length_eq]

/-- Where no key is held twice, the order in a table is not seen in an answer. -/
theorem SameUsage.sameAnswers
    {first second : Store}
    (same : SameUsage first second)
    (sound : Sound first) :
    SameAnswers first second where
  dailyMetrics lower upper := by
    have order : SortsBy fun row other : StoredMetric => keyNoLater row.key other.key :=
      { trans := fun row other third => sortsBy_keyNoLater.trans row.key other.key third.key
        total := fun row other => sortsBy_keyNoLater.total row.key other.key }
    have rows : first.metricRows lower upper = second.metricRows lower upper := by
      refine order.mergeSort_eq_of_perm ?_ (same.metrics.filter _)
      intro row member other memberToo noLater noEarlier
      exact List.inj_on_of_nodup_map sound.metrics (List.mem_filter.1 member).1
        (List.mem_filter.1 memberToo).1 (decides_keyNoLater _ _ noLater noEarlier)
    rw [Store.dailyMetrics, Store.dailyMetrics, rows]
  requestPage page limit filter := by
    have rows : first.listing filter = second.listing filter := by
      refine sortsBy_listedNoLater.mergeSort_eq_of_perm ?_ (same.requests.filter _)
      intro row member other memberToo noLater noEarlier
      exact List.inj_on_of_nodup_map sound.requests (List.mem_filter.1 member).1
        (List.mem_filter.1 memberToo).1 (id_eq_of_listedNoLater noLater noEarlier)
    rw [Store.requestPage, Store.requestPage, rows]

/-! ## What attempts write -/

/-- Between two stores only rows with some keys were written. -/
structure Rewrites (keys : List (String × String)) (ids : List (Option String))
    (before after : Store) : Prop where
  metrics : ∃ rows, (∀ row ∈ rows, StoredMetric.key row ∈ keys) ∧
    after.metrics = Table.putAll StoredMetric.key rows before.metrics
  requests : ∃ rows, (∀ row ∈ rows, StoredRequest.id row ∈ ids) ∧
    after.requests = Table.putAll StoredRequest.id rows before.requests

section Rewrites

variable {keys : List (String × String)} {ids : List (Option String)}

theorem Rewrites.refl (store : Store) : Rewrites keys ids store store where
  metrics := ⟨[], by simp, rfl⟩
  requests := ⟨[], by simp, rfl⟩

theorem Rewrites.trans
    {first second third : Store}
    (earlier : Rewrites keys ids first second)
    (later : Rewrites keys ids second third) :
    Rewrites keys ids first third where
  metrics := by
    rcases earlier.metrics with ⟨rows, inKeys, written⟩
    rcases later.metrics with ⟨others, othersInKeys, writtenToo⟩
    refine ⟨rows ++ others, List.forall_mem_append.2 ⟨inKeys, othersInKeys⟩, ?_⟩
    rw [writtenToo, written, Table.putAll_append]
  requests := by
    rcases earlier.requests with ⟨rows, inIds, written⟩
    rcases later.requests with ⟨others, othersInIds, writtenToo⟩
    refine ⟨rows ++ others, List.forall_mem_append.2 ⟨inIds, othersInIds⟩, ?_⟩
    rw [writtenToo, written, Table.putAll_append]

theorem Rewrites.of_same
    {before after : Store}
    (metrics : after.metrics = before.metrics)
    (requests : after.requests = before.requests) :
    Rewrites keys ids before after where
  metrics := ⟨[], by simp, metrics⟩
  requests := ⟨[], by simp, requests⟩

theorem Rewrites.withMetrics
    (store : Store)
    {metrics : List DailyMetric}
    (inKeys : ∀ metric ∈ metrics, metricTable.keyOf metric ∈ keys) :
    Rewrites keys ids store (store.withMetrics metrics) where
  metrics := ⟨_, List.forall_mem_map.2 inKeys, rfl⟩
  requests := ⟨[], by simp, rfl⟩

theorem Rewrites.putRequests
    (store : Store)
    {records : List RequestRecord}
    (inIds : ∀ record ∈ records, requestTable.keyOf record ∈ ids) :
    Rewrites keys ids store (store.putRequests records).2 where
  metrics := ⟨[], by simp, rfl⟩
  requests := ⟨_, List.forall_mem_map.2 inIds, rfl⟩

end Rewrites

/-- The store after some imports, one after another. -/
def afterImports (store : Store) (scenarios : List Scenario) : Store :=
  scenarios.foldl afterImport store

/-- What an import gives back. -/
def importResult (store : Store) (scenario : Scenario) : Except StoreError ImportRun :=
  ((runImport scenario.clock scenario.source).run ⟨store, 0, []⟩).1

end Store

/-- A scenario in which the source delivers some rows, whatever it is asked for. -/
structure Scenario.Serves (scenario : Scenario) (metricRows : List MetricRow)
    (observationRows : List ObservationRow) : Prop where
  metrics : ∀ fromDate toDate, scenario.metrics fromDate toDate = .ok metricRows
  observations : ∀ fromStart, scenario.observations fromStart = .ok observationRows

/--
A scenario in which the source delivers no keys but those of some rows.  Either
fetch may fail, and nothing is said of the rows under the keys.
-/
structure Scenario.CoveredBy (scenario : Scenario) (metricRows : List MetricRow)
    (observationRows : List ObservationRow) : Prop where
  metrics : ∀ fromDate toDate rows, scenario.metrics fromDate toDate = .ok rows →
    ∀ metric ∈ (Telemetry.dailyMetrics rows).rows,
      metricTable.keyOf metric ∈
        (Telemetry.dailyMetrics metricRows).rows.map metricTable.keyOf
  requests : ∀ fromStart rows, scenario.observations fromStart = .ok rows →
    ∀ record ∈ (requestRecords rows).rows,
      requestTable.keyOf record ∈
        (requestRecords observationRows).rows.map requestTable.keyOf

section Covered

variable {metricRows : List MetricRow} {observationRows : List ObservationRow}

theorem Scenario.CoveredBy.rewrites
    {attempt : Scenario}
    (covered : attempt.CoveredBy metricRows observationRows)
    (store : Store) :
    Rewrites ((Telemetry.dailyMetrics metricRows).rows.map metricTable.keyOf)
      ((requestRecords observationRows).rows.map requestTable.keyOf) store
      (store.afterImport attempt) := by
  apply runImport_keeps attempt ⟨store, 0, []⟩
  · intro current window known
    rcases createRun_usage current window.mode window.fromTimestamp window.toTimestamp
      window.toTimestamp with ⟨sameMetrics, sameRequests⟩
    exact known.trans (.of_same sameMetrics sameRequests)
  · intro current fromDate toDate rows given known
    exact known.trans (.withMetrics current (covered.metrics fromDate toDate rows given))
  · intro current fromStart rows given known
    exact known.trans (.putRequests current (covered.requests fromStart rows given))
  · intro current id outcome now known
    rcases completeRun_usage current id (completionOf outcome now) with
      ⟨sameMetrics, sameRequests⟩
    exact known.trans (.of_same sameMetrics sameRequests)
  · exact .refl store

theorem rewrites_afterImports
    {attempts : List Scenario}
    (covered : ∀ attempt ∈ attempts, attempt.CoveredBy metricRows observationRows)
    (store : Store) :
    Rewrites ((Telemetry.dailyMetrics metricRows).rows.map metricTable.keyOf)
      ((requestRecords observationRows).rows.map requestTable.keyOf) store
      (store.afterImports attempts) := by
  induction attempts generalizing store with
  | nil => exact .refl store
  | cons attempt rest hypothesis =>
      rcases List.forall_mem_cons.1 covered with ⟨first, later⟩
      exact (first.rewrites store).trans (hypothesis later (store.afterImport attempt))

/-- An import that gives back a run has written all that its source serves. -/
theorem Scenario.Serves.usage
    {scenario : Scenario}
    (serves : scenario.Serves metricRows observationRows)
    {store : Store}
    {run : ImportRun}
    (returned : store.importResult scenario = .ok run) :
    (store.afterImport scenario).metrics =
        Table.putAll StoredMetric.key
          ((Telemetry.dailyMetrics metricRows).rows.map StoredMetric.ofMetric)
          store.metrics ∧
      (store.afterImport scenario).requests =
        Table.putAll StoredRequest.id
          ((requestRecords observationRows).rows.map StoredRequest.ofRecord)
          store.requests := by
  obtain ⟨scene, performed⟩ :
      ∃ scene, (runImport scenario.clock scenario.source).run ⟨store, 0, []⟩ =
        (.ok run, scene) := ⟨_, Prod.ext returned rfl⟩
  rcases usage_of_runImport performed with
    ⟨window, opened, -, sameMetrics, sameRequests, metrics, requests⟩
  have after : store.afterImport scenario = scene.store :=
    congrArg (fun ended => ended.2.store) performed
  rw [run_fetch_of_success scenario ⟨opened, 1, []⟩ (serves.metrics _ _)
    (serves.observations _)] at metrics requests
  rw [after, metrics, requests]
  constructor
  · rw [← sameMetrics]
    rfl
  · rw [← sameRequests]
    rfl

/-- In a reachable store with a number left, a source that serves rows makes an import succeed. -/
theorem Scenario.Serves.succeeds
    {scenario : Scenario}
    (serves : scenario.Serves metricRows observationRows)
    {store : Store}
    (reachable : Reachable store)
    (canPlan : store.CanPlan (scenario.reading 0))
    (room : store.highestId < largestSigned) :
    ∃ run, store.importResult scenario = .ok run ∧ run.status = .success := by
  rcases reachable.sound.runs.planImport_cases (scenario.reading 0) with
    ⟨last, -, -, ⟨-, planned⟩ | ⟨tooEarly, -⟩⟩
  case inr => exact absurd canPlan tooEarly
  rcases runImport_of_success reachable room planned (serves.metrics _ _)
      (serves.observations _) with
    ⟨run, scene, performed, succeeded, -⟩
  exact ⟨run, congrArg Prod.fst performed, succeeded⟩

end Covered

theorem Store.Reachable.afterImports
    {store : Store}
    (reachable : Reachable store)
    (scenarios : List Scenario) :
    Reachable (store.afterImports scenarios) := by
  induction scenarios generalizing store with
  | nil => exact reachable
  | cons scenario rest hypothesis => exact hypothesis (reachable.afterImport scenario)

/-- Runs continue over an import, and it gives back no number. -/
theorem Store.Reachable.continues_afterImport
    {store : Store}
    (reachable : Reachable store)
    (scenario : Scenario) :
    RunsContinue store (store.afterImport scenario) ∧
      store.highestId ≤ (store.afterImport scenario).highestId := by
  have kept :
      RunsSound (store.afterImport scenario) ∧
        RunsContinue store (store.afterImport scenario) ∧
        store.lastId ≤ (store.afterImport scenario).lastId := by
    refine @runImport_keeps
      (fun current => RunsSound current ∧ RunsContinue store current ∧
        store.lastId ≤ current.lastId)
      scenario ⟨store, 0, []⟩ ?_ ?_ ?_ ?_ ?_
    · rintro current window ⟨sound, continues, onward⟩
      have created := sound.createRun window.mode window.fromTimestamp window.toTimestamp
        window.toTimestamp
      refine ⟨created.1, continues.trans created.2, ?_⟩
      by_cases room : current.highestId < largestSigned
      · rw [openImport_of_room room]
        show store.lastId ≤ current.highestId + 1
        rw [sound.highestId_eq]
        omega
      · rw [openImport_of_full room]
        exact onward
    · rintro current fromDate toDate rows - ⟨sound, continues, onward⟩
      exact ⟨sound.of_eq rfl rfl, continues.trans (.of_runs_eq rfl), onward⟩
    · rintro current fromStart rows - ⟨sound, continues, onward⟩
      exact ⟨sound.of_eq rfl rfl, continues.trans (.of_runs_eq rfl), onward⟩
    · rintro current id outcome now ⟨sound, continues, onward⟩
      have completed := sound.completeRun id (completionOf outcome now)
      refine ⟨completed.1, continues.trans completed.2, ?_⟩
      rcases sound.completeRun_cases id (completionOf outcome now) with
        ⟨run, -, -, -, ended⟩ | ⟨-, idle⟩
      · rw [closeImport, ended]
        exact onward
      · rw [closeImport, idle]
        exact onward
    · exact ⟨reachable.sound.runs, .refl store, Int.le_refl _⟩
  rw [reachable.sound.runs.highestId_eq, kept.1.highestId_eq]
  exact kept.2

theorem Store.Reachable.continues_afterImports
    {store : Store}
    (reachable : Reachable store)
    (scenarios : List Scenario) :
    RunsContinue store (store.afterImports scenarios) ∧
      store.highestId ≤ (store.afterImports scenarios).highestId := by
  induction scenarios generalizing store with
  | nil => exact ⟨.refl store, Int.le_refl _⟩
  | cons scenario rest hypothesis =>
      rcases reachable.continues_afterImport scenario with ⟨continues, onward⟩
      rcases hypothesis (reachable.afterImport scenario) with ⟨later, onwardToo⟩
      exact ⟨continues.trans later, Int.le_trans onward onwardToo⟩

/-! ## Repair -/

/-- What the last of some imports makes of the attempts before it. -/
structure Repairs (store : Store) (earlier : List Scenario) (last : Scenario) : Prop where
  /-- Where it gives back a run in either case, the usage is as if it had been run alone. -/
  repaired : ∀ run again,
    store.importResult last = .ok run →
    (store.afterImports earlier).importResult last = .ok again →
      SameUsage ((store.afterImports earlier).afterImport last) (store.afterImport last)
  /-- With a window and a number in a reachable store it succeeds either way; answers agree. -/
  succeeds : Reachable store → store.CanPlan (last.reading 0) →
    (store.afterImports earlier).highestId < largestSigned →
      (∃ run, store.importResult last = .ok run ∧ run.status = .success) ∧
        (∃ run, (store.afterImports earlier).importResult last = .ok run ∧
          run.status = .success) ∧
        SameUsage ((store.afterImports earlier).afterImport last)
          (store.afterImport last) ∧
        SameAnswers ((store.afterImports earlier).afterImport last)
          (store.afterImport last)

/--
An import that delivers all keys of the attempts before it leaves the tables
of usage as if it had been run alone, whatever the attempts stored.
-/
theorem later_import_repairs
    (store : Store)
    (earlier : List Scenario)
    (last : Scenario)
    {metricRows : List MetricRow}
    {observationRows : List ObservationRow}
    (serves : last.Serves metricRows observationRows)
    (covered : ∀ attempt ∈ earlier, attempt.CoveredBy metricRows observationRows) :
    Repairs store earlier last := by
  have repaired : ∀ run again,
      store.importResult last = .ok run →
      (store.afterImports earlier).importResult last = .ok again →
        SameUsage ((store.afterImports earlier).afterImport last)
          (store.afterImport last) := by
    intro run again returned returnedAgain
    rcases serves.usage returned with ⟨metrics, requests⟩
    rcases serves.usage returnedAgain with ⟨metricsAgain, requestsAgain⟩
    rcases rewrites_afterImports covered store with
      ⟨⟨metricsLeft, inKeys, metricsWritten⟩, ⟨requestsLeft, inIds, requestsWritten⟩⟩
    apply sameUsage_of_filter_key
    · intro key
      rw [metrics, metricsAgain, metricsWritten]
      apply Table.filter_key_rewritten
      rw [List.map_map]
      exact inKeys
    · intro id
      rw [requests, requestsAgain, requestsWritten]
      apply Table.filter_key_rewritten
      rw [List.map_map]
      exact inIds
  refine ⟨repaired, ?_⟩
  intro reachable canPlan room
  rcases reachable.continues_afterImports earlier with ⟨continues, onward⟩
  have roomBefore : store.highestId < largestSigned := Int.lt_of_le_of_lt onward room
  rcases serves.succeeds reachable canPlan roomBefore with ⟨run, returned, succeeded⟩
  rcases serves.succeeds (reachable.afterImports earlier) (canPlan.continues continues) room with
    ⟨again, returnedAgain, succeededAgain⟩
  have same := repaired run again returned returnedAgain
  refine ⟨⟨run, returned, succeeded⟩, ⟨again, returnedAgain, succeededAgain⟩, same, ?_⟩
  exact same.sameAnswers ((reachable.afterImports earlier).afterImport last).sound

/--
An attempt that fails at once, one that fails halfway, and one with rows that
are out of date.
-/
def threeAttempts : List Scenario :=
  [{ Scenario.delivering [] [fullObservation "a"] with
      metrics := fun _ _ => .error (.unreachable "connection refused") },
    { Scenario.delivering [.counting (some "gpt-4o") "1"] [] with
      observations := fun _ => .error (.refused .observations 502 "bad gateway") },
    .delivering [.counting (some "gpt-4o") "2", .counting (some "gpt-4o ") "3"]
      [fullObservation "a"]]

/-- An import with all keys of the attempts, in another order. -/
def completeImport : Scenario :=
  .delivering [.counting none "1", .counting (some " gpt-4o") "4"]
    [fullObservation "b", fullObservation "a"]

theorem coveredBy_threeAttempts :
    ∀ attempt ∈ threeAttempts,
      attempt.CoveredBy [.counting none "1", .counting (some " gpt-4o") "4"]
        [fullObservation "b", fullObservation "a"] := by
  intro attempt member
  simp only [threeAttempts, List.mem_cons, List.not_mem_nil, or_false] at member
  rcases member with rfl | rfl | rfl
  · constructor
    · intro fromDate toDate rows given
      cases given
    · intro fromStart rows given
      cases given
      decide +kernel
  · constructor
    · intro fromDate toDate rows given
      cases given
      decide +kernel
    · intro fromStart rows given
      cases given
  · constructor
    · intro fromDate toDate rows given
      cases given
      decide +kernel
    · intro fromStart rows given
      cases given
      decide +kernel

theorem later_import_repairs_three :
    completeImport.Serves [.counting none "1", .counting (some " gpt-4o") "4"]
        [fullObservation "b", fullObservation "a"] ∧
      (∀ attempt ∈ threeAttempts,
        attempt.CoveredBy [.counting none "1", .counting (some " gpt-4o") "4"]
          [fullObservation "b", fullObservation "a"]) ∧
      (twoRuns.afterImports threeAttempts).counts = ⟨1, 1⟩ ∧
      SameUsage ((twoRuns.afterImports threeAttempts).afterImport completeImport)
        (twoRuns.afterImport completeImport) ∧
      (twoRuns.afterImport completeImport).counts = ⟨2, 2⟩ := by
  have serves : completeImport.Serves [.counting none "1", .counting (some " gpt-4o") "4"]
      [fullObservation "b", fullObservation "a"] := ⟨fun _ _ => rfl, fun _ => rfl⟩
  have reachable : Reachable twoRuns := ⟨_, rfl⟩
  have room : (twoRuns.afterImports threeAttempts).highestId < largestSigned := by
    decide +kernel
  refine ⟨serves, coveredBy_threeAttempts, by decide +kernel, ?_, by decide +kernel⟩
  have canPlan : twoRuns.CanPlan (completeImport.reading 0) := Or.inl ⟨_, List.mem_cons_self, rfl⟩
  exact ((later_import_repairs twoRuns threeAttempts completeImport serves
    coveredBy_threeAttempts).succeeds reachable canPlan room).2.2.1

end UsageLedger
