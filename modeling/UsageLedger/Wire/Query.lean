import UsageLedger.Json.Decode
import UsageLedger.Service.Query
import UsageLedger.Telemetry.Settings

/-!
# Queries and settings on the wire

Each type has an encoding as JSON and a decoder; decoding an encoding gives
the value back.  Left out parameters take the values that
`UsageLedger.Service.Query` names.
-/

namespace UsageLedger

open UsageLedger.Decode

/-- Cost bounds as JSON. -/
def CostQuery.toJson (query : CostQuery) : Json :=
  .object [("from", .text query.lower), ("to", .text query.upper)]

/-- The fields of cost bounds. -/
def CostQuery.shape : Shape CostQuery :=
  (Shape.of CostQuery.mk)
    |>.with (.required "from" text)
    |>.with (.required "to" text)

def RequestQuery.toJson (query : RequestQuery) : Json :=
  .object
    [("page", .natural query.page),
      ("limit", .natural query.limit),
      ("model", .optional .text query.model),
      ("from", .optional .text query.lower),
      ("to", .optional .text query.upper)]

/-- The fields of a request query. -/
def RequestQuery.shape : Shape RequestQuery :=
  (Shape.of RequestQuery.mk)
    |>.with (.defaulted "page" (natural largest32) defaultPage)
    |>.with (.defaulted "limit" (natural largest32) defaultPageLimit)
    |>.with (.optional "model" text)
    |>.with (.optional "from" text)
    |>.with (.optional "to" text)

def HistoryQuery.toJson (query : HistoryQuery) : Json :=
  .object [("limit", .natural query.limit)]

/-- The fields of a history query. -/
def HistoryQuery.shape : Shape HistoryQuery :=
  (Shape.of HistoryQuery.mk)
    |>.with (.defaulted "limit" (natural largest32) defaultHistoryLimit)

def RunQuery.toJson (query : RunQuery) : Json :=
  .object [("id", .integer query.id)]

/-- The fields of a run query. -/
def RunQuery.shape : Shape RunQuery :=
  (Shape.of RunQuery.mk)
    |>.with (.required "id" signed64)

namespace Telemetry

def Settings.toJson (settings : Settings) : Json :=
  .object
    [("host", .optional .text settings.host),
      ("public_key", .optional .text settings.publicKey),
      ("secret_key", .optional .text settings.secretKey),
      ("timeout_secs", .natural settings.timeoutSecs)]

/-- The fields of settings. -/
def Settings.shape : Shape Settings :=
  (Shape.of Settings.mk)
    |>.with (.defaulted "host" (optional text) none)
    |>.with (.defaulted "public_key" (optional text) none)
    |>.with (.defaulted "secret_key" (optional text) none)
    |>.with (.defaulted "timeout_secs" (natural largest64) defaultTimeoutSecs)

end Telemetry

end UsageLedger
