import UsageLedger.Proofs.UsageTables
import UsageLedger.Proofs.WholeImport

/-!
# Stores that imports fill

A `Feed` brings usage into a store: an import, whatever the clock shows and the
source answers, or a batch that is written directly.

What every step of an import keeps, the import keeps (`runImport_keeps`).  The
steps are calls of the store, so feeds lead to reachable stores only
(`reachable_fed`), and what is known of reachable stores holds of those that
imports fill.  What an import leaves in the tables of usage when its fetches
succeed is said exactly, for any store.
-/

namespace UsageLedger

open UsageLedger.Calendar
open UsageLedger.Store
open UsageLedger.Telemetry

/-- A scenario in which the clock moves by a second and both fetches succeed. -/
def Scenario.delivering (metrics : List MetricRow)
    (observations : List ObservationRow) : Scenario where
  reading reading := Instant.ofNanos (reading * 1000000000)
  metrics _ _ := .ok metrics
  observations _ := .ok observations

/-! ## What an import keeps -/

section Keeps

variable {holds : Store → Prop} (scenario : Scenario) (scene : Scene)

/-- Fetching keeps what writing the rows that are delivered keeps. -/
theorem fetchAndStore_keeps
    (metrics : ∀ store fromDate toDate rows,
      scenario.metrics fromDate toDate = .ok rows → holds store →
        holds (store.withMetrics (Telemetry.dailyMetrics rows).rows))
    (records : ∀ store fromStart rows,
      scenario.observations fromStart = .ok rows → holds store →
        holds (store.putRequests (requestRecords rows).rows).2)
    (window : ImportWindow)
    (before : holds scene.store) :
    holds ((fetchAndStore scenario.source window).run scene).2.store := by
  cases given : scenario.metrics window.fromDate window.toDate with
  | error cause =>
      rw [run_fetch_of_metrics_error scenario scene given]
      exact before
  | ok metricRows =>
      cases givenToo : scenario.observations window.fromTimestamp with
      | error cause =>
          rw [run_fetch_of_observations_error scenario scene given givenToo]
          exact metrics _ _ _ _ given before
      | ok observationRows =>
          rw [run_fetch_of_success scenario scene given givenToo]
          exact records _ _ _ givenToo (metrics _ _ _ _ given before)

/-- An import keeps what each of its steps keeps. -/
theorem runImport_keeps
    (opens : ∀ store window, holds store → holds (store.openImport window).2)
    (metrics : ∀ store fromDate toDate rows,
      scenario.metrics fromDate toDate = .ok rows → holds store →
        holds (store.withMetrics (Telemetry.dailyMetrics rows).rows))
    (records : ∀ store fromStart rows,
      scenario.observations fromStart = .ok rows → holds store →
        holds (store.putRequests (requestRecords rows).rows).2)
    (closes : ∀ store id outcome now, holds store →
      holds (store.closeImport id outcome now).2)
    (before : holds scene.store) :
    holds ((runImport scenario.clock scenario.source).run scene).2.store := by
  cases planned : scene.store.planImport (scenario.reading scene.readings) with
  | error cause =>
      simp only [runImport, run_bind_state, Scenario.run_clock, Scene.run_look, planned]
      exact before
  | ok window =>
      have opened := opens scene.store window before
      cases created : scene.store.openImport window with
      | mk result store =>
          rw [created] at opened
          cases result with
          | error cause =>
              simp only [runImport, run_bind_state, Scenario.run_clock,
                Scene.run_look, planned, Scene.run_change, created]
              exact opened
          | ok run =>
              rw [run_runImport scenario scene planned created rfl]
              apply closes
              exact fetchAndStore_keeps scenario _ metrics records window opened

/-- An import that gives back a run has planned, opened, fetched and closed. -/
theorem steps_of_runImport
    {run : ImportRun}
    {last : Scene}
    (performed : (runImport scenario.clock scenario.source).run scene = (.ok run, last)) :
    ∃ window opening opened outcome fetched,
      scene.store.planImport (scenario.reading scene.readings) = .ok window ∧
        scene.store.openImport window = (.ok opening, opened) ∧
        (fetchAndStore scenario.source window).run
            { scene with store := opened, readings := scene.readings + 1 } =
          (outcome, fetched) ∧
        fetched.store.closeImport opening.id outcome (scenario.reading fetched.readings) =
          (.ok run, last.store) := by
  cases planned : scene.store.planImport (scenario.reading scene.readings) with
  | error cause =>
      simp only [runImport, run_bind_state, Scenario.run_clock, Scene.run_look,
        planned] at performed
      cases performed
  | ok window =>
      cases created : scene.store.openImport window with
      | mk result opened =>
          cases result with
          | error cause =>
              simp only [runImport, run_bind_state, Scenario.run_clock, Scene.run_look,
                planned, Scene.run_change, created] at performed
              cases performed
          | ok opening =>
              obtain ⟨outcome, fetched, fetches⟩ :
                  ∃ outcome fetched,
                    (fetchAndStore scenario.source window).run
                        { scene with store := opened, readings := scene.readings + 1 } =
                      (outcome, fetched) := ⟨_, _, rfl⟩
              rw [run_runImport scenario scene planned created fetches] at performed
              refine ⟨window, opening, opened, outcome, fetched, rfl, created, fetches, ?_⟩
              exact Prod.ext (congrArg (fun ended => ended.1) performed)
                (congrArg (fun ended => ended.2.store) performed)

end Keeps

namespace Store

theorem Reachable.perform
    {store : Store}
    (reachable : Reachable store)
    (operation : Operation) :
    Reachable (store.perform operation).2 := by
  rcases reachable with ⟨operations, rfl⟩
  exact ⟨operations ++ [operation], after_append _ _ _⟩

/-- The store after an import, whether it gave back a run or not. -/
def afterImport (store : Store) (scenario : Scenario) : Store :=
  ((runImport scenario.clock scenario.source).run ⟨store, 0, []⟩).2.store

/-- The steps of an import are calls of the store. -/
theorem Reachable.afterImport
    {store : Store}
    (reachable : Reachable store)
    (scenario : Scenario) :
    Reachable (store.afterImport scenario) := by
  apply runImport_keeps scenario ⟨store, 0, []⟩
  · intro store window known
    exact known.perform (.createRun window.mode window.fromTimestamp
      window.toTimestamp window.toTimestamp)
  · intro store fromDate toDate rows given known
    have performed := known.perform (.putMetrics (Telemetry.dailyMetrics rows).rows)
    rwa [Store.perform, putMetrics_of_hasCost (all_hasCost_dailyMetrics rows)] at performed
  · intro store fromStart rows given known
    exact known.perform (.putRequests (requestRecords rows).rows)
  · intro store id outcome now known
    exact known.perform (.completeRun id (completionOf outcome now))
  · exact reachable

/-! ## Feeds -/

/-- What brings usage into a store. -/
inductive Feed where
  | imported (scenario : Scenario)
  | metrics (metrics : List DailyMetric)
  | records (records : List RequestRecord)

/-- The store after a feed. -/
def feed (store : Store) : Feed → Store
  | .imported scenario => store.afterImport scenario
  | .metrics metrics => (store.putMetrics metrics).2
  | .records records => (store.putRequests records).2

/-- The store after some feeds. -/
def fed (store : Store) (feeds : List Feed) : Store :=
  feeds.foldl feed store

theorem Reachable.feed
    {store : Store}
    (reachable : Reachable store)
    (feed : Feed) :
    Reachable (store.feed feed) := by
  cases feed with
  | imported scenario => exact reachable.afterImport scenario
  | metrics metrics => exact reachable.perform (.putMetrics metrics)
  | records records => exact reachable.perform (.putRequests records)

theorem Reachable.fed
    {store : Store}
    (reachable : Reachable store)
    (feeds : List Feed) :
    Reachable (store.fed feeds) := by
  induction feeds generalizing store with
  | nil => exact reachable
  | cons feed rest hypothesis => exact hypothesis (reachable.feed feed)

theorem reachable_empty : Reachable Store.empty := ⟨[], rfl⟩

theorem reachable_fed (feeds : List Feed) : Reachable (Store.empty.fed feeds) :=
  reachable_empty.fed feeds

end Store

/-! ## The tables after an import -/

/-- Metrics that were fetched are written, whatever becomes of the observations. -/
theorem metrics_fetchAndStore
    (scenario : Scenario)
    (scene : Scene)
    {window : ImportWindow}
    {rows : List MetricRow}
    (given : scenario.metrics window.fromDate window.toDate = .ok rows) :
    ((fetchAndStore scenario.source window).run scene).2.store.metrics =
      Table.putAll StoredMetric.key
        ((Telemetry.dailyMetrics rows).rows.map StoredMetric.ofMetric)
        scene.store.metrics := by
  cases givenToo : scenario.observations window.fromTimestamp with
  | error cause =>
      rw [run_fetch_of_observations_error scenario scene given givenToo]
      rfl
  | ok observationRows =>
      rw [run_fetch_of_success scenario scene given givenToo]
      rfl

/-- Opening and closing a run leave the tables of usage to the fetches between them. -/
theorem usage_of_runImport
    {scenario : Scenario}
    {store : Store}
    {run : ImportRun}
    {scene : Scene}
    (performed : (runImport scenario.clock scenario.source).run ⟨store, 0, []⟩ =
      (.ok run, scene)) :
    ∃ window opened,
      store.planImport (scenario.reading 0) = .ok window ∧
        opened.metrics = store.metrics ∧ opened.requests = store.requests ∧
        scene.store.metrics =
          ((fetchAndStore scenario.source window).run ⟨opened, 1, []⟩).2.store.metrics ∧
        scene.store.requests =
          ((fetchAndStore scenario.source window).run ⟨opened, 1, []⟩).2.store.requests := by
  rcases steps_of_runImport scenario ⟨store, 0, []⟩ performed with
    ⟨window, opening, opened, outcome, fetched, planned, created, fetches, closed⟩
  have unchanged := createRun_usage store window.mode window.fromTimestamp
    window.toTimestamp window.toTimestamp
  rw [show store.createRun window.mode window.fromTimestamp
    window.toTimestamp window.toTimestamp = _ from created] at unchanged
  have ended := completeRun_usage fetched.store opening.id
    (completionOf outcome (scenario.reading fetched.readings))
  rw [show fetched.store.completeRun opening.id
    (completionOf outcome (scenario.reading fetched.readings)) = _ from closed] at ended
  refine ⟨window, opened, planned, unchanged.1, unchanged.2, ?_, ?_⟩
  · rw [fetches]
    exact ended.1
  · rw [fetches]
    exact ended.2

/-- An import that gives back a run has written the metrics that it fetched. -/
theorem metrics_of_runImport
    {scenario : Scenario}
    {store : Store}
    {window : ImportWindow}
    {rows : List MetricRow}
    {run : ImportRun}
    {scene : Scene}
    (planned : store.planImport (scenario.reading 0) = .ok window)
    (given : scenario.metrics window.fromDate window.toDate = .ok rows)
    (performed : (runImport scenario.clock scenario.source).run ⟨store, 0, []⟩ =
      (.ok run, scene)) :
    scene.store.metrics =
      Table.putAll StoredMetric.key
        ((Telemetry.dailyMetrics rows).rows.map StoredMetric.ofMetric)
        store.metrics := by
  rcases usage_of_runImport performed with
    ⟨other, opened, plannedToo, sameMetrics, -, written, -⟩
  cases planned.symm.trans plannedToo
  rw [written, metrics_fetchAndStore scenario ⟨opened, 1, []⟩ given, sameMetrics]

/-- In a reachable store with a number left, an import whose fetches succeed succeeds. -/
theorem runImport_of_success
    {scenario : Scenario}
    {store : Store}
    {window : ImportWindow}
    {metricRows : List MetricRow}
    {observationRows : List ObservationRow}
    (reachable : Reachable store)
    (room : store.highestId < largestSigned)
    (planned : store.planImport (scenario.reading 0) = .ok window)
    (given : scenario.metrics window.fromDate window.toDate = .ok metricRows)
    (givenToo : scenario.observations window.fromTimestamp = .ok observationRows) :
    ∃ run scene,
      (runImport scenario.clock scenario.source).run ⟨store, 0, []⟩ = (.ok run, scene) ∧
        run.status = .success ∧
        scene.store.requests =
          (store.putRequests (requestRecords observationRows).rows).2.requests := by
  have fetches := run_fetch_of_success scenario
    ⟨store.withRun (store.runFor window), 1, []⟩ given givenToo
  obtain ⟨filled, filled_eq⟩ :
      ∃ filled, filled =
        (((store.withRun (store.runFor window)).withMetrics
          (Telemetry.dailyMetrics metricRows).rows).putRequests
            (requestRecords observationRows).rows).2 := ⟨_, rfl⟩
  have closed :
      filled.closeImport (store.runFor window).id (.ok ()) (scenario.reading 1) =
        (.ok ((store.runFor window).complete (completionOf (.ok ()) (scenario.reading 1))),
          filled.withEnd (store.runFor window).id
            (completionOf (.ok ()) (scenario.reading 1))) := by
    apply (closeImport_of_last reachable.sound.runs _ _ _ _).1
    · rw [filled_eq]
      rfl
    · rw [filled_eq]
      rfl
  simp only [← filled_eq] at fetches
  have performed := run_runImport scenario ⟨store, 0, []⟩ planned
    (openImport_of_room room window) fetches
  simp only [closed] at performed
  refine ⟨_, _, performed, rfl, ?_⟩
  show filled.requests = _
  rw [filled_eq]
  rfl

end UsageLedger
