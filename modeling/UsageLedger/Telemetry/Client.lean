import UsageLedger.Json.Print
import UsageLedger.Telemetry.Address
import UsageLedger.Telemetry.Error
import UsageLedger.Telemetry.Retry
import UsageLedger.Telemetry.Row
import UsageLedger.Telemetry.Settings
import UsageLedger.Text.Base64
import UsageLedger.Text.Utf8

/-!
# Asking the telemetry service

A client asks for metrics once, and for observations page by page until a page
is empty or names no page after it.  Every request is made under the retry
policy with a retry budget of its own.  An answer counts when its status means
success and its body can be read; anything else ends the question with an
error.

How requests are sent and pauses are spent is left to a `Link`, in any monad,
and so are the words for an address and for a body that cannot be read.
-/

namespace UsageLedger.Telemetry

open UsageLedger.Decode
open UsageLedger.Json (Fault)
open UsageLedger.Text

/-- A request to the service. -/
structure HttpRequest where
  method : String
  address : Address
  authorization : String
  deriving DecidableEq, Repr

/-- An answer of the service. -/
structure HttpResponse where
  status : Nat
  headers : List (String × String)
  body : List UInt8
  deriving DecidableEq, Repr

/-- The words for what cannot be read. -/
structure Wording where
  badAddress : (address : String) → String
  badBody : (body : List UInt8) → Fault → String

/-- How requests are sent, pauses are spent and faults are put into words. -/
structure Link (m : Type → Type) where
  send : HttpRequest → m (Except TelemetryError HttpResponse)
  pause : Duration → m Unit
  wording : Wording

/-- What a client needs to know. -/
structure Client where
  credentials : Credentials
  policy : RetryPolicy
  deriving DecidableEq, Repr

/-- The client for some settings. -/
def Client.ofSettings (settings : Settings) (policy : RetryPolicy) :
    Except TelemetryError Client :=
  match settings.credentials with
  | .ok credentials => .ok ⟨credentials, policy⟩
  | .error missing => .error (.ofMissing missing)

/-- The status that turns a request away because there were too many. -/
def tooManyRequests : Nat := 429

/-- Whether a header value can be read as text. -/
def isHeaderText (value : String) : Bool :=
  value.toList.all fun character =>
    character == '\t' || (0x20 ≤ character.toNat && character.toNat < 0x7F)

/-- The white space that a connection removes around header values. -/
def isHeaderSpace (character : Char) : Bool :=
  character == ' ' || character == '\t'

/-- A header value as it arrives. -/
def receivedValue (value : String) : String :=
  let fromStart := value.toList.dropWhile isHeaderSpace
  String.ofList (fromStart.reverse.dropWhile isHeaderSpace).reverse

/-- The value of a header. -/
def HttpResponse.header? (response : HttpResponse) (name : String) : Option String :=
  (response.headers.find? fun header =>
    header.1.toList.map Char.toLower == name.toList).map fun header =>
      receivedValue header.2

/-- The pause that an answer names. -/
def HttpResponse.retryAfter? (response : HttpResponse) : Option Duration :=
  ((response.header? "retry-after").filter isHeaderText).bind
    Telemetry.retryAfter?

/-- What an answer says about the number of requests. -/
def HttpResponse.rateLimit (response : HttpResponse) : RateLimit :=
  if response.status = tooManyRequests then .tooMany response.retryAfter?
  else .accepted

/-- Whether the status of an answer means success. -/
def HttpResponse.isSuccess (response : HttpResponse) : Bool :=
  200 ≤ response.status && response.status < 300

/-- What the client is let in with. -/
def Credentials.authorization (credentials : Credentials) : String :=
  "Basic " ++ base64 (credentials.publicKey ++ ":" ++ credentials.secretKey)

/-- The text that is read as the address of a path. -/
def Client.addressText (client : Client) (path : String) : String :=
  client.credentials.host ++ path

/-- The request for a path with parameters, if the host is an address. -/
def Client.request? (client : Client) (path : String)
    (parameters : List (String × String)) : Option HttpRequest :=
  (Address.ofText? (client.addressText path)).map fun address =>
    { method := "GET"
      address := address.withParameters parameters
      authorization := client.credentials.authorization }

/-- Sends a request for a path with parameters, unless the host is no address. -/
def Client.send {m : Type → Type} [Monad m]
    (client : Client)
    (link : Link m)
    (path : String)
    (parameters : List (String × String)) : m (Except TelemetryError HttpResponse) :=
  match client.request? path parameters with
  | none => pure (.error (.unreachable (link.wording.badAddress (client.addressText path))))
  | some request => link.send request

def readAnswer {α : Type} (wording : Wording) (subject : Subject) (decode : Decoder α)
    (response : HttpResponse) : Except TelemetryError α :=
  if response.isSuccess then
    match ofBytes decode response.body with
    | .ok answer => .ok answer
    | .error fault =>
      .error (.undecodable subject fault (wording.badBody response.body fault))
  else .error (.refused subject response.status (textOfBytes response.body))

def Client.ask {m : Type → Type} [Monad m] [MonadExceptOf Overflow m] {α : Type}
    (client : Client)
    (link : Link m)
    (subject : Subject)
    (path : String)
    (parameters : List (String × String))
    (decode : Decoder α) : m (Except TelemetryError α) := do
  match ←
    client.policy.run HttpResponse.rateLimit link.pause
      (client.send link path parameters) with
  | .error cause => pure (.error cause)
  | .ok response => pure (readAnswer link.wording subject decode response)

def metricsPath : String := "/api/public/metrics"

def observationsPath : String := "/api/public/v2/observations"

/-- One sum that is asked for. -/
def measure (aggregation name : String) : Json :=
  .object [("aggregation", .text aggregation), ("measure", .text name)]

/-- The question for daily sums of each model from one date to another. -/
def metricsQuestion (fromDate toDate : String) : Json :=
  .object
    [("dimensions", .array [.object [("field", .text "providedModelName")]]),
      ("filters", .array []),
      ("fromTimestamp", .text (fromDate ++ "T00:00:00Z")),
      ("metrics",
        .array
          [measure "sum" "totalCost",
            measure "sum" "inputTokens",
            measure "sum" "outputTokens",
            measure "sum" "totalTokens",
            measure "count" "count"]),
      ("timeDimension", .object [("granularity", .text "day")]),
      ("toTimestamp", .text (toDate ++ "T23:59:59Z")),
      ("view", .text "observations")]

/-- The parameters of the question for metrics. -/
def metricsParameters (fromDate toDate : String) : List (String × String) :=
  [("query", Json.print (metricsQuestion fromDate toDate))]

/-- The most observations on a page. -/
def observationPageSize : Nat := 1000

/-- A parameter that may be left out. -/
def optionalParameter (name : String) : Option String → List (String × String)
  | some value => [(name, value)]
  | none => []

/-- The parameters of the question for a page of observations. -/
def observationsParameters (fromStart cursor : Option String) :
    List (String × String) :=
  [("type", "GENERATION"), ("limit", toString observationPageSize),
    ("fields", "core,basic,usage,model")] ++
    optionalParameter "fromStartTime" fromStart ++
    optionalParameter "cursor" cursor

/-- Asks for the metrics from one date to another. -/
def Client.metrics {m : Type → Type} [Monad m] [MonadExceptOf Overflow m]
    (client : Client)
    (link : Link m)
    (fromDate toDate : String) : m (Except TelemetryError (List MetricRow)) := do
  let answer ←
    client.ask link .metrics metricsPath (metricsParameters fromDate toDate)
      MetricsAnswer.shape.decode
  pure (answer.map MetricsAnswer.data)

/-- Asks for the observations from a cursor on, for at most some number of pages. -/
def Client.observationPages {m : Type → Type} [Monad m] [MonadExceptOf Overflow m]
    (client : Client)
    (link : Link m)
    (fromStart : Option String) :
    (pages : Nat) → (cursor : Option String) →
      m (Except TelemetryError (List ObservationRow))
  | 0, _ => pure (.ok [])
  | pages + 1, cursor => do
    match ←
      client.ask link .observations observationsPath
        (observationsParameters fromStart cursor)
        ObservationsAnswer.shape.decode with
    | .error cause => pure (.error cause)
    | .ok answer =>
      match answer.data, answer.nextCursor? with
      | [], _ => pure (.ok [])
      | rows, none => pure (.ok rows)
      | rows, some next =>
        let others ← client.observationPages link fromStart pages (some next)
        pure (others.map fun rest => rows ++ rest)

/-- Asks for all observations from a start time on. -/
def Client.observations {m : Type → Type} [Monad m] [MonadExceptOf Overflow m]
    (client : Client)
    (link : Link m)
    (pages : Nat)
    (fromStart : Option String) : m (Except TelemetryError (List ObservationRow)) :=
  client.observationPages link fromStart pages none

end UsageLedger.Telemetry
