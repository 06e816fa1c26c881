import UsageLedger.Telemetry.Error

/-!
# What callers of the services are told

An error has a status, a message and in some cases a code.  Input that cannot
be used is the caller's fault; missing settings make the service unavailable;
every other failure is internal.  So is a call that breaks off: it gives
nothing back, and what is told about it is how its task ended.
-/

namespace UsageLedger.Service

open UsageLedger.Store (StoreError)
open UsageLedger.Telemetry (TelemetryError)
open UsageLedger.Text

/-- What is wrong with the input of a query. -/
inductive InputProblem where
  | invalidDate (text : String)
  | invalidDateTime (text : String)
  | reversedBounds
  | pageTooSmall
  | limitOutOfRange (largest : Nat)
  deriving DecidableEq, Repr

def InputProblem.message : InputProblem → String
  | .invalidDate text => "invalid date: " ++ text
  | .invalidDateTime text => "invalid datetime: " ++ text
  | .reversedBounds => "from must not be after to"
  | .pageTooSmall => "page must be at least 1"
  | .limitOutOfRange largest => "limit must be between 1 and " ++ toString largest

/-- The causes of failure. -/
inductive ServiceError where
  | store (cause : StoreError)
  | telemetry (cause : TelemetryError)
  | invalidInput (problem : InputProblem)
  | runNotFound (id : Int)
  /-- The call broke off. -/
  | overflow (cause : Overflow)
  deriving DecidableEq, Repr

/-- The message of a cause. -/
def ServiceError.message : ServiceError → String
  | .store cause => "db error: " ++ cause.message
  | .telemetry cause => "ingest error: " ++ cause.message
  | .invalidInput problem => problem.message
  | .runNotFound id => "import run " ++ toString id ++ " not found"
  | .overflow cause => "task panicked with message " ++ inQuotes cause.text

/-- The HTTP status of a cause. -/
def ServiceError.status : ServiceError → Nat
  | .invalidInput _ => 400
  | .runNotFound _ => 404
  | .telemetry (.notConfigured _) => 503
  | .telemetry _ => 500
  | .store _ => 500
  | .overflow _ => 500

/-- The code of a cause. -/
def ServiceError.code? : ServiceError → Option String
  | .invalidInput _ => some "invalid_input"
  | .runNotFound _ => some "not_found"
  | .telemetry (.notConfigured _) => some "telemetry_not_configured"
  | .telemetry _ => none
  | .store _ => none
  | .overflow _ => none

/-- An error as the body of an answer; without a code there is no such member. -/
def ServiceError.toJson (cause : ServiceError) : Json :=
  .object
    ([("status", .natural cause.status), ("message", .text cause.message)] ++
      match cause.code? with
      | some code => [("code", .text code)]
      | none => [])

end UsageLedger.Service
