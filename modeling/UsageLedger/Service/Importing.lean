import UsageLedger.Importing.Run
import UsageLedger.Service.Error

/-!
# The import service

An import from the configured service needs its settings to be complete;
otherwise it fails before a run is created.  Imports that share a gate run one
after another.
-/

namespace UsageLedger.Service

open UsageLedger.Calendar
open UsageLedger.Telemetry

/-- A failed import as callers see it. -/
def fromImport {α : Type} :
    Except UsageLedger.Store.StoreError α → Except ServiceError α
  | .ok value => .ok value
  | .error (.overflow cause) => .error (.overflow cause)
  | .error cause => .error (.telemetry (.store cause))

/-- Imports from a source. -/
def importFrom {m : Type → Type} [Monad m] [MonadStateOf Store m]
    (clock : m Instant)
    (source : TelemetrySource m) : m (Except ServiceError ImportRun) := do
  let run ← runImport clock source
  pure (fromImport run)

/-- What lets one import in at a time: entering waits until no one is inside. -/
structure Gate (m : Type → Type) where
  enter : m Unit
  leave : m Unit

/-- Imports from a source while no other import runs, and lets the next one in whatever happens. -/
def importAlone {m : Type → Type} [Monad m] [MonadFinally m] [MonadStateOf Store m]
    (gate : Gate m)
    (clock : m Instant)
    (source : TelemetrySource m) : m (Except ServiceError ImportRun) := do
  gate.enter
  try
    importFrom clock source
  finally
    gate.leave

/-- Uses a client of the service that settings name. -/
def withClient {m : Type → Type} [Monad m] {α : Type}
    (settings : Settings)
    (use : Client → m (Except ServiceError α)) : m (Except ServiceError α) :=
  match Client.ofSettings settings RetryPolicy.standard with
  | .error cause => pure (.error (.telemetry cause))
  | .ok client => use client

/-- Imports from the service that settings name. -/
def importConfigured {m : Type → Type}
    [Monad m] [MonadExceptOf Overflow m] [MonadStateOf Store m]
    (settings : Settings)
    (clock : m Instant)
    (link : Link m)
    (pages : Nat) : m (Except ServiceError ImportRun) :=
  withClient settings fun client =>
    importFrom clock (clientSource client link pages)

/-- Imports from the service that settings name while no other import runs. -/
def importConfiguredAlone {m : Type → Type}
    [Monad m] [MonadExceptOf Overflow m] [MonadFinally m] [MonadStateOf Store m]
    (gate : Gate m)
    (settings : Settings)
    (clock : m Instant)
    (link : Link m)
    (pages : Nat) : m (Except ServiceError ImportRun) :=
  withClient settings fun client =>
    importAlone gate clock (clientSource client link pages)

end UsageLedger.Service
