/-!
# What can be asked of the store

The parameters of the queries, as callers give them and before they are
checked, with the values used for parameters that are left out.
-/

namespace UsageLedger

/-- The bounds of a cost summary, as text. -/
@[ext]
structure CostQuery where
  lower : String
  upper : String
  deriving DecidableEq, Repr

/-- One page of the requests between two bounds, of one model or all. -/
@[ext]
structure RequestQuery where
  page : Nat
  limit : Nat
  model : Option String
  lower : Option String
  upper : Option String
  deriving DecidableEq, Repr

/-- How many import runs to list. -/
@[ext]
structure HistoryQuery where
  limit : Nat
  deriving DecidableEq, Repr

/-- Which import run to show. -/
@[ext]
structure RunQuery where
  id : Int
  deriving DecidableEq, Repr

/-- The page that is listed unless another one is asked for. -/
def defaultPage : Nat := 1

/-- The size of a page of requests unless another one is asked for. -/
def defaultPageLimit : Nat := 50

/-- The largest size of a page of requests. -/
def largestPageLimit : Nat := 500

/-- How many import runs are listed unless another number is asked for. -/
def defaultHistoryLimit : Nat := 20

/-- The largest number of import runs that are listed. -/
def largestHistoryLimit : Nat := 200

end UsageLedger
