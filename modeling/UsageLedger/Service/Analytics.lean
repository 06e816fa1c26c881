import UsageLedger.Service.Bounds
import UsageLedger.Service.Query
import UsageLedger.Store.Imports
import UsageLedger.Store.Metrics
import UsageLedger.Store.Requests

/-!
# Queries

Each query checks its parameters and then reads the store.  None of them
changes it.  The counts of daily metrics can be too large to be added up, and
then the query for costs breaks off.
-/

namespace UsageLedger.Service

open UsageLedger.Store (StoreError RequestFilter)
open UsageLedger.Text

/-- The failure of a store as callers see it. -/
def fromStore {α : Type} : Except StoreError α → Except ServiceError α
  | .ok value => .ok value
  | .error (.overflow cause) => .error (.overflow cause)
  | .error cause => .error (.store cause)

/-- A problem of the input as callers see it. -/
def fromInput {α : Type} : Except InputProblem α → Except ServiceError α
  | .ok value => .ok value
  | .error problem => .error (.invalidInput problem)

def rangeMetrics (store : Store) : CostRange → Except StoreError (List DailyMetric)
  | .dates lower upper => store.dailyMetrics lower upper
  | .timestamps lower upper => store.metricsWithin lower upper

/--
The summary of the metrics of a range.  Metrics that were computed from request
records count rows, of which no table has more than fit 64 bits.
-/
def summarize (metrics : List DailyMetric) : CostRange → Except Overflow CostSummary
  | .dates _ _ =>
    let summary := CostSummary.ofMetrics metrics
    if summary.fits then .ok summary else .error .counts
  | .timestamps _ _ => .ok (CostSummary.ofMetrics metrics)

/-- The costs between two bounds, day by day. -/
def costs (store : Store) (query : CostQuery) : Except ServiceError CostSummary := do
  let range ← fromInput (costRange query.lower query.upper)
  let metrics ← fromStore (rangeMetrics store range)
  (summarize metrics range).mapError ServiceError.overflow

/-- The model of a filter; a blank one stands for all models. -/
def modelFilter (model : Option String) : Option String :=
  (model.map trim).filter fun name => !name.isEmpty

def filterBound (side : BoundSide) : Option String → Except ServiceError (Option String)
  | none => .ok none
  | some text => (fromInput (requestBound side text)).map some

def requestFilter (query : RequestQuery) : Except ServiceError RequestFilter := do
  let lower ← filterBound .lower query.lower
  let upper ← filterBound .upper query.upper
  pure ⟨modelFilter query.model, lower, upper⟩

/-- Checks the size of what is asked for. -/
def checkLimit (limit largest : Nat) : Except ServiceError Unit :=
  if 1 ≤ limit ∧ limit ≤ largest then .ok ()
  else .error (.invalidInput (.limitOutOfRange largest))

/-- Checks the number of a page. -/
def checkPage (page : Nat) : Except ServiceError Unit :=
  if 1 ≤ page then .ok () else .error (.invalidInput .pageTooSmall)

/-- One page of requests. -/
def requests (store : Store) (query : RequestQuery) :
    Except ServiceError RequestPage := do
  checkPage query.page
  checkLimit query.limit largestPageLimit
  let filter ← requestFilter query
  let (records, total) ←
    fromStore (store.requestPage query.page query.limit filter)
  pure
    { data := records.map RequestRecord.listing
      position :=
        { page := query.page
          limit := query.limit
          totalItems := total
          totalPages := pageCount total query.limit } }

/-- The latest run and the size of the tables. -/
def importStatus (store : Store) : Except ServiceError ImportOverview := do
  let lastRun ← fromStore store.latestRun
  pure ⟨lastRun, lastRun.map ImportRun.status, store.counts⟩

/-- The latest runs. -/
def importHistory (store : Store) (query : HistoryQuery) :
    Except ServiceError (List ImportRun) := do
  checkLimit query.limit largestHistoryLimit
  fromStore (store.history query.limit)

/-- One run. -/
def importRun (store : Store) (query : RunQuery) : Except ServiceError ImportRun := do
  match ← fromStore (store.run? query.id) with
  | some run => pure run
  | none => .error (.runNotFound query.id)

/-- The models of all requests. -/
def models (store : Store) : Except ServiceError (List String) :=
  .ok store.models

end UsageLedger.Service
