import UsageLedger.Importing.Step
import UsageLedger.Telemetry.Client

/-!
# Running an import

`runImport` performs the steps of an import in turn, with the fetches between
them.  Failures to fetch end up in the run; only a store that cannot be read
or has no number left for a run makes the import itself fail.  The source of
the rows and the clock may belong to any monad that holds a store.
-/

namespace UsageLedger

open UsageLedger.Calendar
open UsageLedger.Store
open UsageLedger.Telemetry

/-- Where an import fetches its rows. -/
structure TelemetrySource (m : Type → Type) where
  metrics : (fromDate toDate : String) → m (Except TelemetryError (List MetricRow))
  observations : (fromStart : Option String) →
    m (Except TelemetryError (List ObservationRow))

/-- Fetches and stores what a window asks for; observations only after metrics. -/
def fetchAndStore {m : Type → Type} [Monad m] [MonadStateOf Store m]
    (source : TelemetrySource m)
    (window : ImportWindow) : m (Except TelemetryError Unit) := do
  let metrics ← source.metrics window.fromDate window.toDate
  match ← modifyGet fun (store : Store) => store.takeMetrics metrics with
  | .error cause => pure (.error cause)
  | .ok _ =>
    let observations ← source.observations window.fromTimestamp
    modifyGet fun (store : Store) => store.takeObservations observations

/-- Runs an import and records it. -/
def runImport {m : Type → Type} [Monad m] [MonadStateOf Store m]
    (clock : m Instant)
    (source : TelemetrySource m) : m (Except StoreError ImportRun) := do
  let now ← clock
  match (← getThe Store).planImport now with
  | .error cause => pure (.error cause)
  | .ok window =>
    match ← modifyGet fun (store : Store) => store.openImport window with
    | .error cause => pure (.error cause)
    | .ok run =>
      let outcome ← fetchAndStore source window
      let finished ← clock
      modifyGet fun (store : Store) => store.closeImport run.id outcome finished

/-- The source that asks a telemetry service. -/
def clientSource {m : Type → Type} [Monad m] [MonadExceptOf Overflow m]
    (client : Client)
    (link : Link m)
    (pages : Nat) : TelemetrySource m where
  metrics := client.metrics link
  observations := client.observations link pages

end UsageLedger
