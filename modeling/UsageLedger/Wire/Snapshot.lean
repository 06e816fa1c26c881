import UsageLedger.Json.Print
import UsageLedger.Json.Scan
import UsageLedger.Store.Basic
import UsageLedger.Wire.Import

/-!
# The store as a text

A store is kept in a file as a first line that says what the file is, followed
by the JSON form of all that is stored.  Doubles are kept by their bits, so
that reading gives back exactly what was written, whatever the columns hold.
-/

namespace UsageLedger.Store

open UsageLedger.Decode

/-- A stored value as JSON: one member that names its kind. -/
def Cell.toJson : Cell → Json
  | .integer value => .object [("integer", .integer value)]
  | .real value => .object [("real", .natural value.toBits.toNat)]
  | .text value => .object [("text", .text value)]

/-- The ways a stored value may be given; one of them is there. -/
structure CellForms where
  integer : Option Int
  real : Option Nat
  text : Option String

/-- The members of a stored value. -/
def CellForms.shape : Shape CellForms :=
  (Shape.of CellForms.mk)
    |>.with (.optional "integer" signed64)
    |>.with (.optional "real" (natural largest64))
    |>.with (.optional "text" Decode.text)

/-- The value that is given. -/
def CellForms.cell? (forms : CellForms) : Option Cell :=
  ((forms.integer.map Cell.integer).or
    (forms.real.map fun bits => .real (Float.ofBits bits.toUInt64))).or
    (forms.text.map Cell.text)

/-- Reads a stored value. -/
def cell : Decoder Cell :=
  fun value => do orMismatched (← CellForms.shape.decode value).cell?

def StoredRun.toJson (row : StoredRun) : Json :=
  .object
    [("id", .integer row.id),
      ("started_at", .text row.startedAt),
      ("finished_at", .optional .text row.finishedAt),
      ("mode", .text row.mode),
      ("from_timestamp", .optional .text row.fromTimestamp),
      ("to_timestamp", .text row.toTimestamp),
      ("status", .text row.status),
      ("error_message", .optional .text row.errorMessage)]

/-- The fields of a stored run. -/
def StoredRun.shape : Shape StoredRun :=
  (Shape.of StoredRun.mk)
    |>.with (.required "id" signed64)
    |>.with (.required "started_at" text)
    |>.with (.optional "finished_at" text)
    |>.with (.required "mode" text)
    |>.with (.optional "from_timestamp" text)
    |>.with (.required "to_timestamp" text)
    |>.with (.required "status" text)
    |>.with (.optional "error_message" text)

def StoredMetric.toJson (row : StoredMetric) : Json :=
  .object
    [("date", .text row.date),
      ("model", .text row.model),
      ("input_tokens", row.inputTokens.toJson),
      ("output_tokens", row.outputTokens.toJson),
      ("total_tokens", row.totalTokens.toJson),
      ("request_count", row.requestCount.toJson),
      ("total_cost", row.totalCost.toJson)]

/-- The fields of a stored metric. -/
def StoredMetric.shape : Shape StoredMetric :=
  (Shape.of StoredMetric.mk)
    |>.with (.required "date" text)
    |>.with (.required "model" text)
    |>.with (.required "input_tokens" cell)
    |>.with (.required "output_tokens" cell)
    |>.with (.required "total_tokens" cell)
    |>.with (.required "request_count" cell)
    |>.with (.required "total_cost" cell)

/-- A stored record as JSON. -/
def StoredRequest.toJson (row : StoredRequest) : Json :=
  .object
    [("id", .optional .text row.id),
      ("trace_id", .optional .text row.traceId),
      ("name", .optional .text row.name),
      ("model", .optional .text row.model),
      ("started_at", .optional .text row.startedAt),
      ("finished_at", .optional .text row.finishedAt),
      ("input_tokens", row.inputTokens.toJson),
      ("output_tokens", row.outputTokens.toJson),
      ("total_tokens", row.totalTokens.toJson),
      ("cost", .optional Cell.toJson row.cost),
      ("latency_ms", .optional Cell.toJson row.latencyMs)]

/-- The fields of a stored record. -/
def StoredRequest.shape : Shape StoredRequest :=
  (Shape.of StoredRequest.mk)
    |>.with (.optional "id" text)
    |>.with (.optional "trace_id" text)
    |>.with (.optional "name" text)
    |>.with (.optional "model" text)
    |>.with (.optional "started_at" text)
    |>.with (.optional "finished_at" text)
    |>.with (.required "input_tokens" cell)
    |>.with (.required "output_tokens" cell)
    |>.with (.required "total_tokens" cell)
    |>.with (.optional "cost" cell)
    |>.with (.optional "latency_ms" cell)

def toJson (store : Store) : Json :=
  .object
    [("runs", .array (store.runs.map StoredRun.toJson)),
      ("last_id", .integer store.lastId),
      ("metrics", .array (store.metrics.map StoredMetric.toJson)),
      ("requests", .array (store.requests.map StoredRequest.toJson)),
      ("migrations", .array (store.migrations.map Json.text))]

/-- The fields of a store. -/
def shape : Shape Store :=
  (Shape.of Store.mk)
    |>.with (.required "runs" (list StoredRun.shape.decode))
    |>.with (.required "last_id" signed64)
    |>.with (.required "metrics" (list StoredMetric.shape.decode))
    |>.with (.required "requests" (list StoredRequest.shape.decode))
    |>.with (.required "migrations" (list text))

/-- The first line of a file that holds a store. -/
def fileMark : String := "usage-ledger store 1\n"

def fileText (store : Store) : String :=
  fileMark ++ Json.print store.toJson ++ "\n"

/-- The store in the text of a file; one of at most one byte holds a store without any table. -/
def ofFileText? (text : String) : Option Store :=
  if text.utf8ByteSize ≤ 1 then some Store.bare
  else if text.startsWith fileMark then
    (ofText Store.shape.decode (String.ofList (text.toList.drop fileMark.length))).toOption
  else none

end UsageLedger.Store
