import UsageLedger.Store.Row
import UsageLedger.Store.Table

/-!
# The store

The store holds import runs, daily metrics and request records, and the names
of the migrations that shaped its tables.  A run gets the number after the
highest one that was ever given or is in use, so that no number is used twice.
-/

namespace UsageLedger

open UsageLedger.Store

/-- All that is stored. -/
structure Store where
  /-- The import runs in the order of their creation. -/
  runs : List StoredRun
  /-- The highest number ever given to a run. -/
  lastId : Int
  /-- The daily metrics, one for each date and model. -/
  metrics : List StoredMetric
  /-- The request records, one for each id. -/
  requests : List StoredRequest
  /-- The migrations that were applied. -/
  migrations : List String

namespace Store

/-- The migrations there are, in the order in which they are applied. -/
def allMigrations : List String :=
  ["0001_init", "0002_add_indexes"]

/-- A store without any table. -/
def bare : Store := ⟨[], 0, [], [], []⟩

/-- Applies the migrations that were not applied yet. -/
def migrate (store : Store) : Store :=
  { store with
    migrations := store.migrations ++
      Store.allMigrations.filter fun name => !store.migrations.contains name }

/-- A store with empty tables. -/
def empty : Store := Store.bare.migrate

/-- The migrations that were applied, in order of their names. -/
def appliedMigrations (store : Store) : List String :=
  store.migrations.mergeSort fun first second => decide (first ≤ second)

/-- How many metrics and requests are stored. -/
def counts (store : Store) : ImportCounts :=
  ⟨store.metrics.length, store.requests.length⟩

/--
Whether an optional text comes no later than another in descending order; a
missing one is last.
-/
def descending : Option String → Option String → Bool
  | _, none => true
  | none, some _ => false
  | some first, some second => decide (second ≤ first)

/--
Whether an optional text comes no later than another in ascending order; a
missing one is first.
-/
def ascending : Option String → Option String → Bool
  | none, _ => true
  | some _, none => false
  | some first, some second => decide (first ≤ second)

end Store

end UsageLedger
