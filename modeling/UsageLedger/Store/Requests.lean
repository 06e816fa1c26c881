import UsageLedger.Store.Basic

/-!
# Request records

Records are written by id.  They are listed from the latest start on, records
without a start last and records of one start by id, in pages of those that
match a filter.
-/

namespace UsageLedger.Store

/--
Which records to list: those of one model, and those that started between two
times as text.
-/
structure RequestFilter where
  model : Option String
  lower : Option String
  upper : Option String
  deriving DecidableEq, Repr

/-- All records. -/
def RequestFilter.all : RequestFilter := ⟨none, none, none⟩

/-- Writes records; gives the number of records and the store with them. -/
def putRequests (store : Store) (records : List RequestRecord) :
    Except StoreError Nat × Store :=
  (.ok records.length,
    { store with
      requests :=
        Table.putAll StoredRequest.id (records.map StoredRequest.ofRecord)
          store.requests })

/-- Whether an optional value satisfies a condition; a missing one does not. -/
def holds {α : Type} (condition : α → Bool) : Option α → Bool
  | some value => condition value
  | none => false

/-- Whether a condition that may be missing is satisfied. -/
def RequestFilter.allows {α : Type} (bound : Option α) (condition : α → Bool) : Bool :=
  match bound with
  | some value => condition value
  | none => true

/-- Whether a record is to be listed. -/
def RequestFilter.accepts (filter : RequestFilter) (row : StoredRequest) : Bool :=
  (RequestFilter.allows filter.model fun model => row.model == some model) &&
    (RequestFilter.allows filter.lower fun lower =>
      holds (fun startedAt => decide (lower ≤ startedAt)) row.startedAt) &&
    (RequestFilter.allows filter.upper fun upper =>
      holds (fun startedAt => decide (startedAt ≤ upper)) row.startedAt)

/-- Whether a record comes no later than another in listings. -/
def StoredRequest.listedNoLater (first second : StoredRequest) : Bool :=
  if first.startedAt = second.startedAt then ascending first.id second.id
  else descending first.startedAt second.startedAt

/-- The stored records to be listed, in order. -/
def listing (store : Store) (filter : RequestFilter) : List StoredRequest :=
  (store.requests.filter filter.accepts).mergeSort StoredRequest.listedNoLater

/-- How many records come before a page; the number has to be a signed integer of 64 bits. -/
def pageOffset (page limit : Nat) : Except Overflow Nat :=
  let offset := (page - 1) * limit
  if offset ≤ largestSigned then .ok offset else .error .offset

/-- One page of the records to be listed, with the number of all of them. -/
def requestPage (store : Store) (page limit : Nat) (filter : RequestFilter) :
    Except StoreError (List RequestRecord × Nat) := do
  let offset ← (pageOffset page limit).mapError StoreError.overflow
  let listing := store.listing filter
  let records ← ((listing.drop offset).take limit).mapM StoredRequest.read
  pure (records, listing.length)

/-- The models of the records, each once, in order. -/
def models (store : Store) : List String :=
  (store.requests.filterMap StoredRequest.model).eraseDups.mergeSort
    fun first second => decide (first ≤ second)

end UsageLedger.Store
