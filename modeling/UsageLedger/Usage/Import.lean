/-!
# Import runs

An import copies usage from the telemetry service into the store, either
everything of the recent past or what came after the last import that
succeeded.  Every attempt is recorded as a run, which is running at first and
ends as a success or as a failure with a message.
-/

namespace UsageLedger

/-- What an import asks the telemetry service for. -/
inductive ImportMode where
  | full
  | incremental
  deriving DecidableEq, Repr

/-- The name a mode is stored under. -/
def ImportMode.name : ImportMode → String
  | .full => "full"
  | .incremental => "incremental"

/-- The modes by name. -/
def ImportMode.named : List (String × ImportMode) :=
  [("full", .full), ("incremental", .incremental)]

/-- The mode stored under a name. -/
def ImportMode.ofName? (name : String) : Option ImportMode :=
  if name = "full" then some .full
  else if name = "incremental" then some .incremental
  else none

/-- Where a run stands. -/
inductive RunStatus where
  | running
  | success
  | failed
  deriving DecidableEq, Repr

/-- The name a status is stored under. -/
def RunStatus.name : RunStatus → String
  | .running => "running"
  | .success => "success"
  | .failed => "failed"

/-- The statuses by name. -/
def RunStatus.named : List (String × RunStatus) :=
  [("running", .running), ("success", .success), ("failed", .failed)]

/-- The status stored under a name. -/
def RunStatus.ofName? (name : String) : Option RunStatus :=
  if name = "running" then some .running
  else if name = "success" then some .success
  else if name = "failed" then some .failed
  else none

/-- One attempt to import. -/
@[ext]
structure ImportRun where
  id : Int
  startedAt : String
  finishedAt : Option String
  mode : ImportMode
  fromTimestamp : Option String
  toTimestamp : String
  status : RunStatus
  errorMessage : Option String
  deriving DecidableEq, Repr

/-- How a run ends: at which time, and with which message if it failed. -/
inductive Completion where
  | success (finishedAt : String)
  | failure (finishedAt message : String)
  deriving DecidableEq, Repr

/-- The status a run ends in. -/
def Completion.status : Completion → RunStatus
  | .success _ => .success
  | .failure _ _ => .failed

/-- The time a run ends at. -/
def Completion.finishedAt : Completion → String
  | .success finishedAt => finishedAt
  | .failure finishedAt _ => finishedAt

/-- The message of a run that failed. -/
def Completion.message? : Completion → Option String
  | .success _ => none
  | .failure _ message => some message

/-- The run with its end filled in. -/
def ImportRun.complete (run : ImportRun) (completion : Completion) : ImportRun :=
  { run with
    finishedAt := some completion.finishedAt
    status := completion.status
    errorMessage := completion.message? }

/-- How many rows the two tables of usage hold. -/
structure ImportCounts where
  metrics : Nat
  requests : Nat
  deriving DecidableEq, Repr

/-- The latest run, its status and the size of the tables. -/
structure ImportOverview where
  lastRun : Option ImportRun
  lastStatus : Option RunStatus
  counts : ImportCounts
  deriving DecidableEq, Repr

@[simp]
theorem ImportMode.ofName?_name (mode : ImportMode) :
    ImportMode.ofName? mode.name = some mode := by
  cases mode <;> decide

@[simp]
theorem RunStatus.ofName?_name (status : RunStatus) :
    RunStatus.ofName? status.name = some status := by
  cases status <;> decide

theorem ImportMode.name_of_ofName?
    {name : String}
    {mode : ImportMode}
    (found : ImportMode.ofName? name = some mode) :
    mode.name = name := by
  unfold ImportMode.ofName? at found
  split at found
  · simp_all [← Option.some.inj found, ImportMode.name]
  · split at found <;> simp_all [ImportMode.name]
    subst found
    rfl

theorem RunStatus.name_of_ofName?
    {name : String}
    {status : RunStatus}
    (found : RunStatus.ofName? name = some status) :
    status.name = name := by
  unfold RunStatus.ofName? at found
  repeat' split at found
  all_goals simp_all
  all_goals subst found; rfl

end UsageLedger
