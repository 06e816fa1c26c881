import UsageLedger.Importing.Run
import UsageLedger.Proofs.ImportSteps

/-!
# The stages of an import

Between two steps an import stands at a `Stage`, which holds what the import
knows so far.  `Stage.advance` makes the next step: it reads the clock once,
or touches the store once, or asks the source and stores the answer.

`runImport_eq_advances` says that an import is its stages one after another,
in any lawful monad.  Imports that run at the same time over one store are
therefore described by stages that advance in any order.
-/

namespace UsageLedger

open UsageLedger.Calendar
open UsageLedger.Store
open UsageLedger.Telemetry

/-- How far an import has come. -/
inductive Stage where
  /-- Nothing was done yet. -/
  | ready
  /-- The clock was read. -/
  | timed (now : Instant)
  /-- The window was planned from the checkpoint. -/
  | planned (window : ImportWindow)
  /-- The run was created. -/
  | opened (window : ImportWindow) (run : ImportRun)
  /-- The metrics were fetched and stored. -/
  | halfway (window : ImportWindow) (run : ImportRun)
  /-- Fetching is over, with an outcome. -/
  | fetched (window : ImportWindow) (run : ImportRun)
      (outcome : Except TelemetryError Unit)
  /-- The clock was read again. -/
  | closing (window : ImportWindow) (run : ImportRun)
      (outcome : Except TelemetryError Unit) (finished : Instant)
  /-- The run was ended. -/
  | closed (window : ImportWindow) (run : ImportRun)
      (result : Except StoreError ImportRun)
  /-- No run could be created. -/
  | refused (cause : StoreError)

/-- What an import gives back once it is over. -/
def Stage.result? : Stage → Option (Except StoreError ImportRun)
  | .closed _ _ result => some result
  | .refused cause => some (.error cause)
  | _ => none

/-- The window of an import that has planned one. -/
def Stage.window? : Stage → Option ImportWindow
  | .planned window => some window
  | .opened window _ => some window
  | .halfway window _ => some window
  | .fetched window _ _ => some window
  | .closing window _ _ _ => some window
  | .closed window _ _ => some window
  | _ => none

/-- The window and the run of an import that has created its run. -/
def Stage.opening? : Stage → Option (ImportWindow × ImportRun)
  | .opened window run => some (window, run)
  | .halfway window run => some (window, run)
  | .fetched window run _ => some (window, run)
  | .closing window run _ _ => some (window, run)
  | .closed window run _ => some (window, run)
  | _ => none

section Advance

variable {m : Type → Type} [Monad m] [MonadStateOf Store m]

/-- Makes the next step of an import; one that is over stays as it is. -/
def Stage.advance (clock : m Instant) (source : TelemetrySource m) :
    Stage → m Stage
  | .ready => do
      let now ← clock
      pure (.timed now)
  | .timed now => do
      match (← getThe Store).planImport now with
      | .error cause => pure (.refused cause)
      | .ok window => pure (.planned window)
  | .planned window => do
      match ← modifyGet fun (store : Store) => store.openImport window with
      | .error cause => pure (.refused cause)
      | .ok run => pure (.opened window run)
  | .opened window run => do
      let metrics ← source.metrics window.fromDate window.toDate
      match ← modifyGet fun (store : Store) => store.takeMetrics metrics with
      | .error cause => pure (.fetched window run (.error cause))
      | .ok _ => pure (.halfway window run)
  | .halfway window run => do
      let observations ← source.observations window.fromTimestamp
      let outcome ← modifyGet fun (store : Store) =>
        store.takeObservations observations
      pure (.fetched window run outcome)
  | .fetched window run outcome => do
      let finished ← clock
      pure (.closing window run outcome finished)
  | .closing window run outcome finished => do
      let result ← modifyGet fun (store : Store) =>
        store.closeImport run.id outcome finished
      pure (.closed window run result)
  | .closed window run result => pure (.closed window run result)
  | .refused cause => pure (.refused cause)

/-- Makes some steps of an import. -/
def Stage.advances (clock : m Instant) (source : TelemetrySource m) :
    (steps : Nat) → Stage → m Stage
  | 0, stage => pure stage
  | steps + 1, stage => do
      let next ← stage.advance clock source
      Stage.advances clock source steps next

variable [LawfulMonad m] (clock : m Instant) (source : TelemetrySource m)

/-- An import that is over does not change by further steps. -/
theorem Stage.advances_of_over
    {stage : Stage}
    {result : Except StoreError ImportRun}
    (isOver : stage.result? = some result)
    (steps : Nat) :
    Stage.advances clock source steps stage = pure stage := by
  induction steps with
  | zero => rfl
  | succ steps hypothesis =>
      cases stage with
      | closed window run result =>
          simp only [Stage.advances, Stage.advance, pure_bind, hypothesis]
      | refused cause =>
          simp only [Stage.advances, Stage.advance, pure_bind, hypothesis]
      | ready => cases isOver
      | timed now => cases isOver
      | planned window => cases isOver
      | opened window run => cases isOver
      | halfway window run => cases isOver
      | fetched window run outcome => cases isOver
      | closing window run outcome finished => cases isOver

/-- Once fetching is over, two more steps end the run. -/
theorem Stage.advances_fetched
    (window : ImportWindow)
    (run : ImportRun)
    (outcome : Except TelemetryError Unit)
    (steps : Nat) :
    Stage.result? <$> Stage.advances clock source (steps + 2)
        (.fetched window run outcome) =
      some <$> (do
        let finished ← clock
        modifyGet fun (store : Store) =>
          store.closeImport run.id outcome finished : m (Except StoreError ImportRun)) := by
  simp only [Stage.advances, Stage.advance, bind_assoc, pure_bind, map_bind]
  congr 1
  funext finished
  rw [map_eq_pure_bind]
  congr 1
  funext result
  rw [Stage.advances_of_over clock source rfl, map_pure]
  rfl

/-- Once the run is created, four more steps fetch what the window asks for and end the run. -/
theorem Stage.advances_opened
    (window : ImportWindow)
    (run : ImportRun) :
    Stage.result? <$> Stage.advances clock source 4 (.opened window run) =
      some <$> (do
        let outcome ← fetchAndStore source window
        let finished ← clock
        modifyGet fun (store : Store) =>
          store.closeImport run.id outcome finished : m (Except StoreError ImportRun)) := by
  rw [Stage.advances]
  simp only [Stage.advance, fetchAndStore, bind_assoc, map_bind]
  congr 1
  funext metrics
  congr 1
  funext taken
  cases taken with
  | error cause =>
      simp only [pure_bind]
      rw [Stage.advances_fetched clock source window run (.error cause) 1, map_bind]
  | ok done =>
      simp only [pure_bind, bind_assoc]
      rw [Stage.advances]
      simp only [Stage.advance, bind_assoc, map_bind, pure_bind]
      congr 1
      funext observations
      congr 1
      funext outcome
      rw [Stage.advances_fetched clock source window run outcome 0, map_bind]

/-- An import is its stages one after another, of which there are seven. -/
theorem runImport_eq_advances :
    some <$> runImport clock source =
      Stage.result? <$> Stage.advances clock source 7 .ready := by
  rw [Stage.advances]
  simp only [Stage.advance, runImport, bind_assoc, pure_bind, map_bind]
  congr 1
  funext now
  rw [Stage.advances]
  simp only [Stage.advance, bind_assoc, map_bind]
  congr 1
  funext store
  cases store.planImport now with
  | error cause =>
      rw [pure_bind, Stage.advances_of_over clock source rfl, map_pure, map_pure]
      rfl
  | ok window =>
      simp only [pure_bind]
      rw [Stage.advances]
      simp only [Stage.advance, bind_assoc, map_bind]
      congr 1
      funext created
      cases created with
      | error cause =>
          rw [pure_bind, Stage.advances_of_over clock source rfl, map_pure, map_pure]
          rfl
      | ok run =>
          rw [pure_bind, Stage.advances_opened clock source window run, map_bind]

end Advance

end UsageLedger
