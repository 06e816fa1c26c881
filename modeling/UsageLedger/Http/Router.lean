import UsageLedger.Http.MediaType
import UsageLedger.Http.Target
import UsageLedger.Service.Analytics
import UsageLedger.Service.Importing
import UsageLedger.Wire.Import
import UsageLedger.Wire.Query
import UsageLedger.Wire.Usage

/-!
# The HTTP interface

A path and a method select the health check or one of the services; the body
of a service is JSON that decodes to its parameters.  `route` says what is to
be done for a request: reject it, report health, or call a service.
`respond` does it: a rejection and the health check never look at the store,
and all calls but an import only read it.  A call that reads the store has a
task of its own and is answered also if it breaks off; an import has none, and
if it breaks off there is no response.
-/

namespace UsageLedger.Http

open UsageLedger.Calendar
open UsageLedger.Decode
open UsageLedger.Service (ServiceError)

structure Request where
  method : String
  /-- The path that is asked for, or an address with it. -/
  target : String
  contentType : Option String
  body : List UInt8
  deriving DecidableEq, Repr

/-- A response; the body is missing unless it is JSON. -/
structure Response where
  status : Nat
  body : Option Json

/-- The services. -/
inductive Endpoint where
  | runImport
  | importStatus
  | importHistory
  | importRun
  | costs
  | requests
  | models
  deriving DecidableEq, Repr

/-- A service with its parameters. -/
inductive Call where
  | runImport
  | importStatus
  | importHistory (query : HistoryQuery)
  | importRun (query : RunQuery)
  | costs (query : CostQuery)
  | requests (query : RequestQuery)
  | models
  deriving DecidableEq, Repr

/-- Why a request is rejected. -/
inductive Rejection where
  | badTarget
  | unknownPath
  | wrongMethod
  | notJsonType
  | tooLarge
  | notJson
  | wrongShape
  deriving DecidableEq, Repr

def Rejection.status : Rejection → Nat
  | .badTarget => 400
  | .unknownPath => 404
  | .wrongMethod => 405
  | .notJsonType => 415
  | .tooLarge => 413
  | .notJson => 400
  | .wrongShape => 422

/-- What is to be done for a request. -/
inductive Route where
  | rejected (reason : Rejection)
  /-- The health check; without a body for a request that only wants the head. -/
  | health (headOnly : Bool)
  | call (call : Call)
  deriving DecidableEq, Repr

/-- The path of the health check. -/
def healthPath : String := "/health"

/-- The services by path. -/
def endpoints : List (String × Endpoint) :=
  [("/api/import", .runImport),
    ("/api/import_status", .importStatus),
    ("/api/import_history", .importHistory),
    ("/api/import_run", .importRun),
    ("/api/costs", .costs),
    ("/api/requests", .requests),
    ("/api/models", .models)]

/-- No parameters: any object, or an empty array. -/
def noParameters : Decoder Unit :=
  (Shape.of ()).decode

/-- The parameters of a service. -/
def Endpoint.parameters : Endpoint → Decoder Call
  | .runImport => fun value => (noParameters value).map fun _ => .runImport
  | .importStatus => fun value => (noParameters value).map fun _ => .importStatus
  | .importHistory => fun value => (HistoryQuery.shape.decode value).map .importHistory
  | .importRun => fun value => (RunQuery.shape.decode value).map .importRun
  | .costs => fun value => (CostQuery.shape.decode value).map .costs
  | .requests => fun value => (RequestQuery.shape.decode value).map .requests
  | .models => fun value => (noParameters value).map fun _ => .models

/-- The rejection for a body that cannot be read. -/
def rejectionOf : Json.Fault → Rejection
  | .mismatched => .wrongShape
  | .truncated => .notJson
  | .malformed => .notJson

/-- The most bytes that a body may have. -/
def bodyLimit : Nat := 2097152

/-- Reads the body of a request; what follows the first JSON value does not count. -/
def readBody (endpoint : Endpoint) (request : Request) : Route :=
  if !(request.contentType.map isJsonMediaType).getD false then .rejected .notJsonType
  else if bodyLimit < request.body.length then .rejected .tooLarge
  else
    match endpoint.parameters (Json.scan request.body).root with
    | .ok call => .call call
    | .error fault => .rejected (rejectionOf fault)

/-- What is to be done for a request with a path. -/
def routePath (path : String) (request : Request) : Route :=
  if path = healthPath then
    if request.method = "GET" then .health false
    else if request.method = "HEAD" then .health true
    else .rejected .wrongMethod
  else
    match member? path endpoints with
    | none => .rejected .unknownPath
    | some endpoint =>
      if request.method = "POST" then readBody endpoint request
      else .rejected .wrongMethod

/-- What is to be done for a request. -/
def route (request : Request) : Route :=
  match targetPath? request.target with
  | none => .rejected .badTarget
  | some path => routePath path request

/-- The body of the health check. -/
def healthBody : Json :=
  .object [("status", .text "ok")]

/-- The response to a call. -/
def answer {α : Type} (encode : α → Json) : Except ServiceError α → Response
  | .ok value => ⟨200, some (encode value)⟩
  | .error cause => ⟨cause.status, some cause.toJson⟩

def runsToJson (runs : List ImportRun) : Json :=
  .array (runs.map ImportRun.toJson)

def namesToJson (names : List String) : Json :=
  .array (names.map Json.text)

/-- The response to a call that only reads the store; an import has none. -/
def Call.read? (call : Call) (store : Store) : Option Response :=
  match call with
  | .runImport => none
  | .importStatus =>
    some (answer ImportOverview.toJson (Service.importStatus store))
  | .importHistory query =>
    some (answer runsToJson (Service.importHistory store query))
  | .importRun query =>
    some (answer ImportRun.toJson (Service.importRun store query))
  | .costs query => some (answer CostSummary.toJson (Service.costs store query))
  | .requests query =>
    some (answer RequestPage.toJson (Service.requests store query))
  | .models => some (answer namesToJson (Service.models store))

/-- Responds to a request; imports are run as given. -/
def respond {m : Type → Type} [Monad m] [MonadExceptOf Overflow m] [MonadStateOf Store m]
    (importing : m (Except ServiceError ImportRun))
    (request : Request) : m Response :=
  match route request with
  | .rejected reason => pure ⟨reason.status, none⟩
  | .health true => pure ⟨200, none⟩
  | .health false => pure ⟨200, some healthBody⟩
  | .call call => do
    match call.read? (← getThe Store) with
    | some response => pure response
    | none =>
      match ← importing with
      | .error (.overflow cause) => throw cause
      | run => pure (answer ImportRun.toJson run)

end UsageLedger.Http
