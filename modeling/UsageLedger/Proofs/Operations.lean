import UsageLedger.Proofs.Runs
import UsageLedger.Store.Metrics
import UsageLedger.Store.Requests

/-!
# Stores that operations lead to

An `Operation` is one call of the store, with its arguments; `perform` gives
the answer and the store after it.  A store is reachable when a list of
operations leads to it from the store with empty tables.

Reachable stores are sound: their runs are, and no key is held twice in the
two tables of usage.  The proof is one step per operation, and an induction
over the list of operations.
-/

namespace UsageLedger.Store

/-- A question to the store. -/
inductive Question where
  | appliedMigrations
  | counts
  | run (id : Int)
  | lastSuccess
  | latestRun
  | history (limit : Nat)
  | dailyMetrics (lower upper : String)
  | metricsWithin (lower upper : String)
  | requestPage (page limit : Nat) (filter : RequestFilter)
  | models

/-- One call of the store. -/
inductive Operation where
  | migrate
  | createRun (mode : ImportMode) (fromTimestamp : Option String)
      (toTimestamp startedAt : String)
  | completeRun (id : Int) (completion : Completion)
  | putMetrics (metrics : List DailyMetric)
  | putRequests (records : List RequestRecord)
  | ask (question : Question)

/-- What a call gives back. -/
inductive Answer where
  | done
  | written (outcome : Except StoreError Nat)
  | texts (names : List String)
  | counts (counts : ImportCounts)
  | run (outcome : Except StoreError ImportRun)
  | found (outcome : Except StoreError (Option ImportRun))
  | runs (outcome : Except StoreError (List ImportRun))
  | metrics (outcome : Except StoreError (List DailyMetric))
  | page (outcome : Except StoreError (List RequestRecord × Nat))

/-- The answer to a question. -/
def answer (store : Store) : Question → Answer
  | .appliedMigrations => .texts store.appliedMigrations
  | .counts => .counts store.counts
  | .run id => .found (store.run? id)
  | .lastSuccess => .found store.lastSuccess
  | .latestRun => .found store.latestRun
  | .history limit => .runs (store.history limit)
  | .dailyMetrics lower upper => .metrics (store.dailyMetrics lower upper)
  | .metricsWithin lower upper => .metrics (store.metricsWithin lower upper)
  | .requestPage page limit filter => .page (store.requestPage page limit filter)
  | .models => .texts store.models

/-- The answer to a call and the store after it. -/
def perform (store : Store) : Operation → Answer × Store
  | .migrate => (.done, store.migrate)
  | .createRun mode fromTimestamp toTimestamp startedAt =>
      let (outcome, after) :=
        store.createRun mode fromTimestamp toTimestamp startedAt
      (.run outcome, after)
  | .completeRun id completion =>
      let (outcome, after) := store.completeRun id completion
      (.run outcome, after)
  | .putMetrics metrics =>
      let (outcome, after) := store.putMetrics metrics
      (.written outcome, after)
  | .putRequests records =>
      let (outcome, after) := store.putRequests records
      (.written outcome, after)
  | .ask question => (store.answer question, store)

/-- The store after some calls. -/
def after (store : Store) (operations : List Operation) : Store :=
  operations.foldl (fun current operation => (current.perform operation).2) store

/-- A store that calls lead to from the store with empty tables. -/
def Reachable (store : Store) : Prop :=
  ∃ operations : List Operation, Store.empty.after operations = store

@[simp]
theorem after_nil (store : Store) : store.after [] = store := rfl

theorem after_append (store : Store) (first second : List Operation) :
    store.after (first ++ second) = (store.after first).after second := by
  simp [after, List.foldl_append]

/-- A store whose tables are as its operations leave them. -/
structure Sound (store : Store) : Prop where
  runs : RunsSound store
  metrics : (store.metrics.map StoredMetric.key).Nodup
  requests : (store.requests.map StoredRequest.id).Nodup

theorem sound_empty : Sound Store.empty where
  runs := .of_empty rfl
  metrics := List.nodup_nil
  requests := List.nodup_nil

/-- Metrics are written if all of them have a cost. -/
theorem putMetrics_of_hasCost
    {metrics : List DailyMetric}
    (valued : metrics.all hasCost = true)
    (store : Store) :
    store.putMetrics metrics = (.ok metrics.length, store.withMetrics metrics) :=
  if_pos valued

/-- If one of some metrics has no cost, nothing changes. -/
theorem putMetrics_of_lacking
    {metrics : List DailyMetric}
    (lacking : metrics.all hasCost = false)
    (store : Store) :
    store.putMetrics metrics = (.error (.missingValue metricCosts), store) :=
  if_neg (by rw [lacking]; exact Bool.false_ne_true)

/-- Writing metrics leaves the runs and the requests as they are. -/
theorem putMetrics_frame (store : Store) (metrics : List DailyMetric) :
    (store.putMetrics metrics).2.runs = store.runs ∧
      (store.putMetrics metrics).2.lastId = store.lastId ∧
      (store.putMetrics metrics).2.requests = store.requests := by
  unfold putMetrics
  split <;> exact ⟨rfl, rfl, rfl⟩

theorem Sound.putMetrics
    {store : Store}
    (sound : Sound store)
    (metrics : List DailyMetric) :
    Sound (store.putMetrics metrics).2 := by
  cases valued : metrics.all hasCost with
  | false =>
      rw [putMetrics_of_lacking valued]
      exact sound
  | true =>
      rw [putMetrics_of_hasCost valued]
      exact ⟨sound.runs.of_eq rfl rfl, Table.nodup_putAll sound.metrics _, sound.requests⟩

theorem Sound.putRequests
    {store : Store}
    (sound : Sound store)
    (records : List RequestRecord) :
    Sound (store.putRequests records).2 where
  runs := sound.runs.of_eq rfl rfl
  metrics := sound.metrics
  requests := Table.nodup_putAll sound.requests _

/-- Creating a run leaves the tables of usage as they are. -/
theorem createRun_usage
    (store : Store)
    (mode : ImportMode)
    (fromTimestamp : Option String)
    (toTimestamp startedAt : String) :
    (store.createRun mode fromTimestamp toTimestamp startedAt).2.metrics =
        store.metrics ∧
      (store.createRun mode fromTimestamp toTimestamp startedAt).2.requests =
        store.requests := by
  by_cases room : store.highestId < largestSigned
  · rw [createRun_of_room room]
    exact ⟨rfl, rfl⟩
  · rw [createRun_of_full room]
    exact ⟨rfl, rfl⟩

/-- Ending a run leaves the tables of usage as they are, whatever the store holds. -/
theorem completeRun_usage
    (store : Store)
    (id : Int)
    (completion : Completion) :
    (store.completeRun id completion).2.metrics = store.metrics ∧
      (store.completeRun id completion).2.requests = store.requests := by
  unfold completeRun
  split
  · dsimp only
    split <;> exact ⟨rfl, rfl⟩
  · exact ⟨rfl, rfl⟩

/-- Every call keeps a store sound and lets its runs continue. -/
theorem Sound.perform
    {store : Store}
    (sound : Sound store)
    (operation : Operation) :
    Sound (store.perform operation).2 ∧
      RunsContinue store (store.perform operation).2 := by
  cases operation with
  | migrate =>
      exact ⟨⟨sound.runs.of_eq rfl rfl, sound.metrics, sound.requests⟩,
        .of_runs_eq rfl⟩
  | createRun mode fromTimestamp toTimestamp startedAt =>
      rcases sound.runs.createRun mode fromTimestamp toTimestamp startedAt with
        ⟨runs, continues⟩
      rcases createRun_usage store mode fromTimestamp toTimestamp startedAt with
        ⟨sameMetrics, sameRequests⟩
      refine ⟨⟨runs, ?_, ?_⟩, continues⟩
      · exact sameMetrics.symm ▸ sound.metrics
      · exact sameRequests.symm ▸ sound.requests
  | completeRun id completion =>
      rcases sound.runs.completeRun id completion with ⟨runs, continues⟩
      rcases completeRun_usage store id completion with
        ⟨sameMetrics, sameRequests⟩
      refine ⟨⟨runs, ?_, ?_⟩, continues⟩
      · exact sameMetrics.symm ▸ sound.metrics
      · exact sameRequests.symm ▸ sound.requests
  | putMetrics metrics =>
      exact ⟨sound.putMetrics metrics, .of_runs_eq (putMetrics_frame store metrics).1⟩
  | putRequests records =>
      exact ⟨sound.putRequests records, .of_runs_eq rfl⟩
  | ask question => exact ⟨sound, .refl store⟩

/-- Any number of calls keep a store sound and let its runs continue. -/
theorem Sound.after
    {store : Store}
    (sound : Sound store)
    (operations : List Operation) :
    Sound (store.after operations) ∧
      RunsContinue store (store.after operations) := by
  induction operations generalizing store with
  | nil => exact ⟨sound, .refl store⟩
  | cons operation rest hypothesis =>
      rcases sound.perform operation with ⟨soundNext, continues⟩
      rcases hypothesis soundNext with ⟨soundLast, continuesNext⟩
      exact ⟨soundLast, continues.trans continuesNext⟩

theorem Reachable.sound {store : Store} (reachable : Reachable store) :
    Sound store := by
  rcases reachable with ⟨operations, rfl⟩
  exact (sound_empty.after operations).1

end UsageLedger.Store
