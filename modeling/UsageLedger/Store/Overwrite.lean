import UsageLedger.Store.Imports
import UsageLedger.Store.Metrics
import UsageLedger.Store.Requests

/-!
# Overwriting columns

A single column of the rows with a key can be overwritten by any value, past
every check but those on missing and on equal keys.  What is written need not
be what the column can be read as; reading such a row fails later.
-/

namespace UsageLedger.Store

/-- Why a column was not overwritten. -/
inductive OverwriteError where
  | unknownTable
  | store (cause : StoreError)
  deriving DecidableEq, Repr

/-- What overwriting a column makes of a row. -/
abbrev Overwriting (α : Type) := Except OverwriteError α

/-- The value of a column of a table that must not lose it. -/
def present (table column : String) (value : Option Cell) : Overwriting Cell :=
  match value with
  | some cell => .ok cell
  | none => .error (.store (.missingValue (table ++ "." ++ column)))

/-- The number of a run that a value stands for. -/
def runNumber (value : Option Cell) : Overwriting Int :=
  match value.map Cell.forIntegers with
  | some (.integer id) => .ok id
  | _ => .error (.store .notARunNumber)

/-- The name of a column, which may be given in any letter case. -/
def columnName (column : String) : String :=
  column.map Char.toLower

/-- The name of the table of import runs. -/
def importsTable : String := "imports"

def metricsTable : String := "langfuse_daily_metrics"

/-- The name of the table of request records. -/
def requestsTable : String := "langfuse_requests"

def StoredRun.overwrite (row : StoredRun) (column : String) (value : Option Cell) :
    Overwriting StoredRun :=
  let name := columnName column
  let required : Overwriting String :=
    (present importsTable name value).map Cell.forTexts
  let optional := value.map Cell.forTexts
  match name with
  | "id" => (runNumber value).map fun id => { row with id := id }
  | "started_at" => required.map fun text => { row with startedAt := text }
  | "finished_at" => .ok { row with finishedAt := optional }
  | "mode" => required.map fun text => { row with mode := text }
  | "from_timestamp" => .ok { row with fromTimestamp := optional }
  | "to_timestamp" => required.map fun text => { row with toTimestamp := text }
  | "status" => required.map fun text => { row with status := text }
  | "error_message" => .ok { row with errorMessage := optional }
  | _ => .error (.store (.unknownColumn column))

def StoredMetric.overwrite (row : StoredMetric) (column : String)
    (value : Option Cell) : Overwriting StoredMetric :=
  let name := columnName column
  let required := present metricsTable name value
  let text := required.map Cell.forTexts
  let count := required.map Cell.forIntegers
  match name with
  | "date" => text.map fun date => { row with date := date }
  | "model" => text.map fun model => { row with model := model }
  | "input_tokens" => count.map fun cell => { row with inputTokens := cell }
  | "output_tokens" => count.map fun cell => { row with outputTokens := cell }
  | "total_tokens" => count.map fun cell => { row with totalTokens := cell }
  | "request_count" => count.map fun cell => { row with requestCount := cell }
  | "total_cost" =>
    required.map fun cell => { row with totalCost := cell.forReals }
  | _ => .error (.store (.unknownColumn column))

/-- A record with a column overwritten. -/
def StoredRequest.overwrite (row : StoredRequest) (column : String)
    (value : Option Cell) : Overwriting StoredRequest :=
  let name := columnName column
  let count := (present requestsTable name value).map Cell.forIntegers
  let optional := value.map Cell.forTexts
  match name with
  | "id" => .ok { row with id := optional }
  | "trace_id" => .ok { row with traceId := optional }
  | "name" => .ok { row with name := optional }
  | "model" => .ok { row with model := optional }
  | "started_at" => .ok { row with startedAt := optional }
  | "finished_at" => .ok { row with finishedAt := optional }
  | "input_tokens" => count.map fun cell => { row with inputTokens := cell }
  | "output_tokens" => count.map fun cell => { row with outputTokens := cell }
  | "total_tokens" => count.map fun cell => { row with totalTokens := cell }
  | "cost" => .ok { row with cost := value.map Cell.forReals }
  | "latency_ms" => .ok { row with latencyMs := value.map Cell.forIntegers }
  | _ => .error (.store (.unknownColumn column))

/-- The columns of the import runs. -/
def runColumns : List String :=
  ["id", "started_at", "finished_at", "mode", "from_timestamp", "to_timestamp",
    "status", "error_message"]

/-- The columns of the daily metrics. -/
def metricColumns : List String :=
  ["date", "model", "input_tokens", "output_tokens", "total_tokens",
    "request_count", "total_cost"]

/-- The columns of the request records. -/
def requestColumns : List String :=
  ["id", "trace_id", "name", "model", "started_at", "finished_at",
    "input_tokens", "output_tokens", "total_tokens", "cost", "latency_ms"]

/-- A column has to be one of those that a table has. -/
def requireColumn (columns : List String) (column : String) : Overwriting Unit :=
  if columns.contains (columnName column) then .ok ()
  else .error (.store (.unknownColumn column))

/-- Overwrites the rows that are selected; gives their number and all rows. -/
def overwriteRows {α : Type} (selected : α → Bool) (overwrite : α → Overwriting α)
    (rows : List α) : Overwriting (Nat × List α) :=
  (rows.mapM fun row => if selected row then overwrite row else pure row).map
    fun changed => (rows.countP selected, changed)

/-- Rows with keys that differ, where a missing key differs from all. -/
def distinctRows {α κ : Type} [BEq κ] (key? : α → Option κ) (columns : String)
    (changed : Nat × List α) : Overwriting (Nat × List α) :=
  let keys := changed.2.filterMap key?
  if keys.eraseDups.length = keys.length then .ok changed
  else .error (.store (.equalKeys columns))

/-- Whether a text denotes the number of a run. -/
def StoredRun.isNumbered (row : StoredRun) (key : String) : Bool :=
  match (numberOfText? key).map preferInteger with
  | some (.integer id) => row.id == id
  | _ => false

def overwriteRuns (store : Store) (column key : String) (value : Option Cell) :
    Overwriting (Nat × Store) := do
  requireColumn runColumns column
  let changed ← overwriteRows (fun row => row.isNumbered key)
    (fun row => row.overwrite column value) store.runs
  let (count, runs) ← distinctRows (fun row => some row.id)
    (importsTable ++ ".id") changed
  pure (count, { store with runs })

def overwriteMetrics (store : Store) (column key : String) (value : Option Cell) :
    Overwriting (Nat × Store) := do
  requireColumn metricColumns column
  let changed ← overwriteRows (fun row => row.model == key)
    (fun row => row.overwrite column value) store.metrics
  let (count, metrics) ← distinctRows (fun row => some row.key)
    (metricsTable ++ ".date, " ++ metricsTable ++ ".model") changed
  pure (count, { store with metrics })

/-- Overwrites a column of the record with an id. -/
def overwriteRequests (store : Store) (column key : String) (value : Option Cell) :
    Overwriting (Nat × Store) := do
  requireColumn requestColumns column
  let changed ← overwriteRows (fun row => row.id == some key)
    (fun row => row.overwrite column value) store.requests
  let (count, requests) ← distinctRows StoredRequest.id (requestsTable ++ ".id") changed
  pure (count, { store with requests })

/-- Overwrites a column of the rows with a key; gives the number of rows. -/
def overwrite (store : Store) (table column key : String) (value : Option Cell) :
    Overwriting (Nat × Store) :=
  if table = importsTable then store.overwriteRuns column key value
  else if table = metricsTable then store.overwriteMetrics column key value
  else if table = requestsTable then store.overwriteRequests column key value
  else .error .unknownTable

end UsageLedger.Store
