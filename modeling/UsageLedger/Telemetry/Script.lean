import UsageLedger.Telemetry.Client

/-!
# A scripted telemetry service

A script is a list of answers, given one for each request in the order in
which requests come; after the last one every request fails with status 500.
The exchange keeps the requests that were made and the pauses that were spent.
A service that is out of reach gets no request at all.
-/

namespace UsageLedger.Telemetry

open UsageLedger.Text

/-- A scripted service and what was exchanged with it. -/
structure Exchange where
  reachable : Bool
  script : List HttpResponse
  requests : List HttpRequest
  pauses : List Duration

/-- A service at the start of its script. -/
def Exchange.start (reachable : Bool) (script : List HttpResponse) : Exchange :=
  ⟨reachable, script, [], []⟩

/-- The answer once a script has ended. -/
def exhausted : HttpResponse := ⟨500, [], bytesOf "script exhausted"⟩

/-- The words about a service that is out of reach. -/
def noConnection : String := "error sending request"

def Exchange.answer (request : HttpRequest) (exchange : Exchange) :
    Except TelemetryError HttpResponse × Exchange :=
  if exchange.reachable then
    (.ok (exchange.script.headD exhausted),
      { exchange with
        script := exchange.script.tail
        requests := exchange.requests ++ [request] })
  else (.error (.unreachable noConnection), exchange)

/-- Spends a pause. -/
def Exchange.pause (duration : Duration) (exchange : Exchange) : Unit × Exchange :=
  ((), { exchange with pauses := exchange.pauses ++ [duration] })

/-- Words for what cannot be read that do not go into details. -/
def Wording.plain : Wording where
  badAddress _ := "builder error"
  badBody _ fault :=
    match fault with
    | .truncated => "EOF"
    | .malformed => "syntax error"
    | .mismatched => "invalid type"

/-- The link to a scripted service. -/
def scriptedLink {m : Type → Type} [Monad m] [MonadStateOf Exchange m] : Link m where
  send request := modifyGet (Exchange.answer request)
  pause duration := modifyGet (Exchange.pause duration)
  wording := .plain

/-- As many pages as a script can fill, and the one after its end. -/
def Exchange.pageLimit (exchange : Exchange) : Nat :=
  exchange.script.length + 1

end UsageLedger.Telemetry
