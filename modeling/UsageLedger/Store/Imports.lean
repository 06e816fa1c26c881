import UsageLedger.Store.Basic

/-!
# Import runs in the store

A run is created running and ends once.  The history lists runs from the
latest start on, of equal starts the one created last first; the checkpoint is
the successful run that finished last.
-/

namespace UsageLedger.Store

/-- The highest number that was ever given to a run or is in use. -/
def highestId (store : Store) : Int :=
  store.runs.foldl (fun highest row => max highest row.id) store.lastId

/--
Creates a run that is running; gives the run and the store with it.  There is
none after the run with the highest number of 64 bits.
-/
def createRun
    (store : Store)
    (mode : ImportMode)
    (fromTimestamp : Option String)
    (toTimestamp startedAt : String) :
    Except StoreError ImportRun × Store :=
  let highest := store.highestId
  if highest < largestSigned then
    let run : ImportRun :=
      { id := highest + 1
        startedAt
        finishedAt := none
        mode
        fromTimestamp
        toTimestamp
        status := .running
        errorMessage := none }
    (.ok run,
      { store with
        runs := store.runs ++ [StoredRun.ofRun run]
        lastId := highest + 1 })
  else (.error .noNumberLeft, store)

/-- The run with a number. -/
def run? (store : Store) (id : Int) : Except StoreError (Option ImportRun) :=
  match Table.find? StoredRun.id id store.runs with
  | some row => row.read.map some
  | none => .ok none

/-- Whether a stored run has a number and is running. -/
def StoredRun.isRunning (row : StoredRun) (id : Int) : Bool :=
  row.id == id && row.status == RunStatus.running.name

/-- A stored run with its end filled in. -/
def StoredRun.complete (row : StoredRun) (completion : Completion) : StoredRun :=
  { row with
    finishedAt := some completion.finishedAt
    status := completion.status.name
    errorMessage := completion.message? }

/--
Ends a running run and reads it again.  The end is stored even if the run then
cannot be read.
-/
def completeRun (store : Store) (id : Int) (completion : Completion) :
    Except StoreError ImportRun × Store :=
  if store.runs.any fun row => row.isRunning id then
    let ended : Store :=
      { store with
        runs := store.runs.map fun row =>
          if row.isRunning id then row.complete completion else row }
    match ended.run? id with
    | .ok (some run) => (.ok run, ended)
    | .ok none => (.error (.runNotRunning id), ended)
    | .error cause => (.error cause, ended)
  else (.error (.runNotRunning id), store)

/-- Whether a run comes no later than another in the history. -/
def StoredRun.startsNoEarlier (first second : StoredRun) : Bool :=
  if first.startedAt = second.startedAt then decide (second.id ≤ first.id)
  else decide (second.startedAt ≤ first.startedAt)

/-- Whether a run comes no later than another in the order of their ends. -/
def StoredRun.finishesNoEarlier (first second : StoredRun) : Bool :=
  if first.finishedAt = second.finishedAt then decide (second.id ≤ first.id)
  else descending first.finishedAt second.finishedAt

/-- The stored runs as the history lists them. -/
def runsByStart (store : Store) : List StoredRun :=
  store.runs.mergeSort StoredRun.startsNoEarlier

/-- Reads the first of some rows. -/
def readFirst : List StoredRun → Except StoreError (Option ImportRun)
  | [] => .ok none
  | row :: _ => row.read.map some

/-- The first runs of the history. -/
def history (store : Store) (limit : Nat) :
    Except StoreError (List ImportRun) :=
  (store.runsByStart.take limit).mapM StoredRun.read

/-- The run that started last. -/
def latestRun (store : Store) : Except StoreError (Option ImportRun) :=
  readFirst store.runsByStart

/-- The stored runs that succeeded, in the order of their ends. -/
def successesByEnd (store : Store) : List StoredRun :=
  (store.runs.filter fun row => row.status == RunStatus.success.name).mergeSort
    StoredRun.finishesNoEarlier

/-- The checkpoint: the successful run that finished last. -/
def lastSuccess (store : Store) : Except StoreError (Option ImportRun) :=
  readFirst store.successesByEnd

end UsageLedger.Store
