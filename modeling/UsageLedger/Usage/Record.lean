/-!
# Usage of language models

A daily metric sums up the usage of one model on one day.  A request record is
one call of a model, known by the id the telemetry service gave it.  A request
listing is the form in which a record is listed.
-/

namespace UsageLedger

/-- The model of a metric whose model is missing or blank. -/
def unknownModel : String := "unknown"

/-- The usage of one model on one day. -/
@[ext]
structure DailyMetric where
  date : String
  model : String
  inputTokens : Nat
  outputTokens : Nat
  totalTokens : Nat
  requestCount : Nat
  totalCost : Float

/-- One call of a model. -/
@[ext]
structure RequestRecord where
  id : String
  traceId : Option String
  name : Option String
  model : Option String
  startedAt : Option String
  finishedAt : Option String
  inputTokens : Nat
  outputTokens : Nat
  totalTokens : Nat
  cost : Option Float
  latencyMs : Option Int

/-- A call of a model as it is listed. -/
@[ext]
structure RequestListing where
  id : String
  traceId : Option String
  name : Option String
  model : Option String
  startTime : Option String
  endTime : Option String
  inputTokens : Nat
  outputTokens : Nat
  totalTokens : Nat
  cost : Option Float
  latencyMs : Option Int

def RequestRecord.listing (record : RequestRecord) : RequestListing where
  id := record.id
  traceId := record.traceId
  name := record.name
  model := record.model
  startTime := record.startedAt
  endTime := record.finishedAt
  inputTokens := record.inputTokens
  outputTokens := record.outputTokens
  totalTokens := record.totalTokens
  cost := record.cost
  latencyMs := record.latencyMs

/-- Where a page stands among the pages of a listing. -/
structure PagePosition where
  page : Nat
  limit : Nat
  totalItems : Nat
  totalPages : Nat
  deriving DecidableEq, Repr

/-- One page of a listing of requests. -/
structure RequestPage where
  data : List RequestListing
  position : PagePosition

/-- The number of pages that hold a number of items; pages of size zero hold none. -/
def pageCount (total limit : Nat) : Nat :=
  if limit = 0 then 0 else (total + limit - 1) / limit

@[simp]
theorem pageCount_zero (total : Nat) : pageCount total 0 = 0 := rfl

/-- The pages are just enough: they hold the items, and one page less does not. -/
theorem pageCount_spec
    {total limit : Nat}
    (positive : 0 < limit) :
    total ≤ pageCount total limit * limit ∧
      pageCount total limit * limit < total + limit := by
  have nonzero : limit ≠ 0 := by omega
  simp only [pageCount, nonzero, if_false]
  have remainder := Nat.mod_lt (total + limit - 1) positive
  have division := Nat.div_add_mod (total + limit - 1) limit
  rw [Nat.mul_comm] at division
  omega

end UsageLedger
