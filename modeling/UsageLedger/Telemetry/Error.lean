import UsageLedger.Json.Draft
import UsageLedger.Store.Error

/-!
# What goes wrong while usage is fetched

The settings may be incomplete, the service may be out of reach, it may refuse
a request, and its answer may not be what was asked for.  What the connection
and the reader of JSON say about it is carried along in their own words.
-/

namespace UsageLedger.Telemetry

open UsageLedger.Json (Fault)
open UsageLedger.Store (StoreError)

/-- What the service is asked for. -/
inductive Subject where
  | metrics
  | observations
  deriving DecidableEq, Repr

/-- The name of a subject in messages. -/
def Subject.name : Subject → String
  | .metrics => "metrics"
  | .observations => "observations"

/-- The causes of failure. -/
inductive TelemetryError where
  /-- Settings are missing or blank. -/
  | notConfigured (settings : String)
  /-- The service answered with a status that means failure. -/
  | refused (subject : Subject) (status : Nat) (body : String)
  /-- The service could not be reached. -/
  | unreachable (detail : String)
  /-- The answer is not what was asked for. -/
  | undecodable (subject : Subject) (fault : Fault) (detail : String)
  /-- The store failed. -/
  | store (cause : StoreError)
  /-- The task that asked the store did not end. -/
  | task (detail : String)
  deriving DecidableEq, Repr

/-- The message of a cause. -/
def TelemetryError.message : TelemetryError → String
  | .notConfigured settings => "telemetry configuration missing: " ++ settings
  | .refused subject status body =>
    "telemetry " ++ subject.name ++ " request failed (" ++ toString status ++
      "): " ++ body
  | .unreachable detail => "http error: " ++ detail
  | .undecodable subject _ detail =>
    "failed to decode telemetry " ++ subject.name ++ " response: " ++ detail
  | .store cause => cause.message
  | .task detail => "database task failed: " ++ detail

/-- The cause for settings that are missing or blank. -/
def TelemetryError.ofMissing (settings : List String) : TelemetryError :=
  .notConfigured (", ".intercalate settings)

end UsageLedger.Telemetry
