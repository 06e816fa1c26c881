import UsageLedger.Store.Cell
import UsageLedger.Usage.Import
import UsageLedger.Usage.Record

/-!
# Stored rows

Each type of row has a form for the store, in which names and numbers are what
the columns hold, and a reading that may fail.  Writing a row and reading it
gives the row back, with counts cut to what an integer column holds and costs
without the sign of a zero; a cost that is not a number is lost.
-/

namespace UsageLedger.Store

/-- A stored import run. -/
@[ext]
structure StoredRun where
  id : Int
  startedAt : String
  finishedAt : Option String
  mode : String
  fromTimestamp : Option String
  toTimestamp : String
  status : String
  errorMessage : Option String
  deriving DecidableEq, Repr

/-- A stored daily metric. -/
structure StoredMetric where
  date : String
  model : String
  inputTokens : Cell
  outputTokens : Cell
  totalTokens : Cell
  requestCount : Cell
  totalCost : Cell

/-- A stored request record. -/
structure StoredRequest where
  id : Option String
  traceId : Option String
  name : Option String
  model : Option String
  startedAt : Option String
  finishedAt : Option String
  inputTokens : Cell
  outputTokens : Cell
  totalTokens : Cell
  cost : Option Cell
  latencyMs : Option Cell

/-- The key of a daily metric. -/
def StoredMetric.key (metric : StoredMetric) : String × String :=
  (metric.date, metric.model)

def StoredRun.ofRun (run : ImportRun) : StoredRun where
  id := run.id
  startedAt := run.startedAt
  finishedAt := run.finishedAt
  mode := run.mode.name
  fromTimestamp := run.fromTimestamp
  toTimestamp := run.toTimestamp
  status := run.status.name
  errorMessage := run.errorMessage

def StoredMetric.ofMetric (metric : DailyMetric) : StoredMetric where
  date := metric.date
  model := metric.model
  inputTokens := storedCount metric.inputTokens
  outputTokens := storedCount metric.outputTokens
  totalTokens := storedCount metric.totalTokens
  requestCount := storedCount metric.requestCount
  totalCost := storedReal metric.totalCost

def StoredRequest.ofRecord (record : RequestRecord) : StoredRequest where
  id := some record.id
  traceId := record.traceId
  name := record.name
  model := record.model
  startedAt := record.startedAt
  finishedAt := record.finishedAt
  inputTokens := storedCount record.inputTokens
  outputTokens := storedCount record.outputTokens
  totalTokens := storedCount record.totalTokens
  cost := (keptReal record.cost).map storedReal
  latencyMs := record.latencyMs.map Cell.integer

/-- A name that must stand for something. -/
def readName {α : Type} (index : Nat) (column name : String) :
    Option α → Except StoreError α
  | some value => .ok value
  | none => .error (.unexpectedValue index column name)

/-- Reads a column that may be empty. -/
def readOptional {α : Type} (read : Cell → Except StoreError α) :
    Option Cell → Except StoreError (Option α)
  | none => .ok none
  | some cell => (read cell).map some

/-- Reads a column of texts that should not be empty. -/
def readText (index : Nat) (column : String) : Option String → Except StoreError String
  | some text => .ok text
  | none => .error (.columnKind index column .missing)

def StoredRun.read (row : StoredRun) : Except StoreError ImportRun := do
  let mode ← readName 3 "mode" row.mode (ImportMode.ofName? row.mode)
  let status ← readName 6 "status" row.status (RunStatus.ofName? row.status)
  pure
    { id := row.id
      startedAt := row.startedAt
      finishedAt := row.finishedAt
      mode
      fromTimestamp := row.fromTimestamp
      toTimestamp := row.toTimestamp
      status
      errorMessage := row.errorMessage }

def StoredMetric.read (row : StoredMetric) : Except StoreError DailyMetric := do
  let inputTokens ← row.inputTokens.readCount 2 "input_tokens"
  let outputTokens ← row.outputTokens.readCount 3 "output_tokens"
  let totalTokens ← row.totalTokens.readCount 4 "total_tokens"
  let requestCount ← row.requestCount.readCount 5 "request_count"
  let totalCost ← row.totalCost.readReal 6 "total_cost"
  pure
    { date := row.date
      model := row.model
      inputTokens
      outputTokens
      totalTokens
      requestCount
      totalCost }

def StoredRequest.read (row : StoredRequest) : Except StoreError RequestRecord := do
  let id ← readText 0 "id" row.id
  let inputTokens ← row.inputTokens.readCount 6 "input_tokens"
  let outputTokens ← row.outputTokens.readCount 7 "output_tokens"
  let totalTokens ← row.totalTokens.readCount 8 "total_tokens"
  let cost ← readOptional (Cell.readReal 9 "cost") row.cost
  let latencyMs ← readOptional (Cell.readInteger 10 "latency_ms") row.latencyMs
  pure
    { id
      traceId := row.traceId
      name := row.name
      model := row.model
      startedAt := row.startedAt
      finishedAt := row.finishedAt
      inputTokens
      outputTokens
      totalTokens
      cost
      latencyMs }

/-- A count as it is read back. -/
def cutCount (count : Nat) : Nat :=
  min count largestSigned

/-- A metric as it is read back. -/
def cutMetric (metric : DailyMetric) : DailyMetric :=
  { metric with
    inputTokens := cutCount metric.inputTokens
    outputTokens := cutCount metric.outputTokens
    totalTokens := cutCount metric.totalTokens
    requestCount := cutCount metric.requestCount
    totalCost := withoutZeroSign metric.totalCost }

/-- A record as it is read back. -/
def cutRecord (record : RequestRecord) : RequestRecord :=
  { record with
    inputTokens := cutCount record.inputTokens
    outputTokens := cutCount record.outputTokens
    totalTokens := cutCount record.totalTokens
    cost := (keptReal record.cost).map withoutZeroSign }

@[simp]
theorem StoredRun.read_ofRun (run : ImportRun) :
    (StoredRun.ofRun run).read = .ok run := by
  simp [StoredRun.ofRun, StoredRun.read, readName, bind, Except.bind, pure,
    Except.pure]

@[simp]
theorem StoredMetric.read_ofMetric (metric : DailyMetric) :
    (StoredMetric.ofMetric metric).read = .ok (cutMetric metric) := by
  simp [StoredMetric.ofMetric, StoredMetric.read, bind, Except.bind, pure,
    Except.pure, storedReal, Cell.readReal, cutMetric, cutCount]

@[simp]
theorem StoredRequest.read_ofRecord (record : RequestRecord) :
    (StoredRequest.ofRecord record).read = .ok (cutRecord record) := by
  cases record with
  | mk id traceId name model startedAt finishedAt input output total cost latency =>
    generalize kept : keptReal cost = value
    cases value <;> cases latency <;>
      simp [StoredRequest.ofRecord, StoredRequest.read, readText, bind, Except.bind, pure,
        Except.pure, storedReal, Cell.readReal, Cell.readInteger, readOptional,
        Except.map, cutRecord, cutCount, kept]

end UsageLedger.Store
