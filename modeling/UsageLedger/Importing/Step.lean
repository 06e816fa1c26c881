import UsageLedger.Importing.Window
import UsageLedger.Store.Imports
import UsageLedger.Store.Metrics
import UsageLedger.Store.Requests
import UsageLedger.Telemetry.Error
import UsageLedger.Telemetry.Reading

/-!
# The steps of an import

An import touches the store five times: it reads the checkpoint and plans its
window, creates its run, stores the metrics it fetched, stores the
observations it fetched, and ends its run.  Each step is one function on the
store, so that imports can be run one after another or step by step in any
order.
-/

namespace UsageLedger.Store

open UsageLedger.Calendar
open UsageLedger.Telemetry

/-- Plans the window of an import from the checkpoint. -/
def planImport (store : Store) (now : Instant) : Except StoreError ImportWindow := do
  let lastSuccess ← store.lastSuccess
  (ImportWindow.plan lastSuccess now).mapError StoreError.overflow

/-- Creates the run of an import, which starts at the end of its window. -/
def openImport (store : Store) (window : ImportWindow) :
    Except StoreError ImportRun × Store :=
  store.createRun window.mode window.fromTimestamp window.toTimestamp
    window.toTimestamp

/-- Stores the metrics that were fetched, or passes on why there are none or none are stored. -/
def takeMetrics (store : Store)
    (fetched : Except TelemetryError (List MetricRow)) :
    Except TelemetryError Unit × Store :=
  match fetched with
  | .error cause => (.error cause, store)
  | .ok rows =>
    let (written, after) := store.putMetrics (Telemetry.dailyMetrics rows).rows
    ((written.map fun _ => ()).mapError TelemetryError.store, after)

/--
Stores the observations that were fetched, or passes on why there are none or
none are stored.
-/
def takeObservations (store : Store)
    (fetched : Except TelemetryError (List ObservationRow)) :
    Except TelemetryError Unit × Store :=
  match fetched with
  | .error cause => (.error cause, store)
  | .ok rows =>
    let (written, after) := store.putRequests (requestRecords rows).rows
    ((written.map fun _ => ()).mapError TelemetryError.store, after)

/-- How a run ends whose fetches had an outcome. -/
def completionOf (outcome : Except TelemetryError Unit) (now : Instant) :
    Completion :=
  match outcome with
  | .ok _ => .success now.text
  | .error cause => .failure now.text cause.message

/-- Ends the run of an import. -/
def closeImport (store : Store) (id : Int) (outcome : Except TelemetryError Unit)
    (now : Instant) : Except StoreError ImportRun × Store :=
  store.completeRun id (completionOf outcome now)

end UsageLedger.Store
