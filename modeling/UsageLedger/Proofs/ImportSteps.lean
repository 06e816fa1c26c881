import UsageLedger.Importing.Step
import UsageLedger.Proofs.Operations
import UsageLedger.Proofs.ReadBack

/-!
# The steps of an import, one by one

Each step of an import is a call of the store with arguments that the import
chooses.  For a sound store this module says what each step gives back and
what it changes: planning reads the checkpoint, opening adds a running run,
taking rows only touches one table of usage, and closing ends the run.  Only a
first import can fail to plan, at an instant with no date so far back.
-/

namespace UsageLedger.Store

open UsageLedger.Calendar
open UsageLedger.Telemetry

/-- One action after another hands over its value and the state. -/
theorem run_bind_state {σ α β : Type} (first : StateM σ α)
    (next : α → StateM σ β) (state : σ) :
    (first >>= next).run state =
      (next (first.run state).1).run (first.run state).2 := rfl

/-- The checkpoint of a store: no run when none succeeded, and otherwise one that did. -/
def IsCheckpoint (store : Store) : Option ImportRun → Prop
  | none => ∀ row ∈ store.runs, ¬ row.HasStatus .success
  | some run =>
      StoredRun.ofRun run ∈ store.runs ∧ run.status = .success ∧
        ∀ row ∈ store.runs, row.HasStatus .success →
          (StoredRun.ofRun run).finishesNoEarlier row = true

theorem RunsSound.lastSuccess_isCheckpoint
    {store : Store}
    (sound : RunsSound store) :
    ∃ last : Option ImportRun,
      store.lastSuccess = .ok last ∧ store.IsCheckpoint last := by
  rcases sound.lastSuccess_cases with ⟨found, absent⟩ | ⟨run, found, latest⟩
  · exact ⟨none, found, absent⟩
  · exact ⟨some run, found, latest⟩

/-- Whether an import can plan its window: a first one has to look back to a date. -/
def CanPlan (store : Store) (now : Instant) : Prop :=
  (∃ row ∈ store.runs, row.HasStatus .success) ∨ canLookBack now = true

/-- What can be planned can be planned later, since runs that succeeded stay. -/
theorem CanPlan.continues
    {earlier later : Store}
    {now : Instant}
    (canPlan : earlier.CanPlan now)
    (continues : RunsContinue earlier later) :
    later.CanPlan now := by
  rcases canPlan with ⟨row, member, succeeded⟩ | inReach
  · exact Or.inl ⟨row, continues.mem_of_ended member succeeded.not_running, succeeded⟩
  · exact Or.inr inReach

/-- The window that starts at a checkpoint, or at the lookback where there is none. -/
def windowFor (last : Option ImportRun) (now : Instant) : ImportWindow :=
  match last with
  | some run => .incremental run now
  | none => .full now

theorem plan_eq_ok_iff
    {last : Option ImportRun}
    {now : Instant}
    {window : ImportWindow} :
    ImportWindow.plan last now = .ok window ↔
      (last = none → canLookBack now = true) ∧ windowFor last now = window := by
  cases last with
  | some run => simp [ImportWindow.plan, windowFor]
  | none =>
      cases inRange : canLookBack now with
      | false => simp [ImportWindow.plan, inRange]
      | true => simp [ImportWindow.plan, windowFor, inRange]

/--
Planning succeeds where it can, with the window that starts at the checkpoint,
and breaks off otherwise.
-/
theorem RunsSound.planImport_cases
    {store : Store}
    (sound : RunsSound store)
    (now : Instant) :
    ∃ last : Option ImportRun,
      store.lastSuccess = .ok last ∧ store.IsCheckpoint last ∧
        (store.CanPlan now ∧ store.planImport now = .ok (windowFor last now) ∨
          ¬ store.CanPlan now ∧ store.planImport now = .error (.overflow .lookback)) := by
  rcases sound.lastSuccess_isCheckpoint with ⟨last, found, checkpoint⟩
  have planned : store.planImport now =
      (ImportWindow.plan last now).mapError StoreError.overflow := by
    rw [planImport, found]
    rfl
  refine ⟨last, found, checkpoint, ?_⟩
  rw [planned]
  cases last with
  | some run =>
      exact Or.inl ⟨Or.inl ⟨StoredRun.ofRun run, checkpoint.1,
        (StoredRun.hasStatus_ofRun run .success).2 checkpoint.2.1⟩, rfl⟩
  | none =>
      cases inRange : canLookBack now with
      | true =>
          rw [ImportWindow.plan, if_pos inRange]
          exact Or.inl ⟨Or.inr inRange, rfl⟩
      | false =>
          rw [ImportWindow.plan, if_neg (by simp [inRange])]
          refine Or.inr ⟨?_, rfl⟩
          rintro (⟨row, member, succeeded⟩ | outOfReach)
          · exact checkpoint row member succeeded
          · rw [inRange] at outOfReach
            cases outOfReach

/-- A window ends at the instant it is planned at. -/
theorem windowFor_toTimestamp (last : Option ImportRun) (now : Instant) :
    (windowFor last now).toTimestamp = now.text := by
  cases last <;> rfl

/-- The rows of metrics that were fetched are written. -/
theorem takeMetrics_ok (store : Store) (rows : List MetricRow) :
    store.takeMetrics (.ok rows) =
      (.ok (), store.withMetrics (Telemetry.dailyMetrics rows).rows) := by
  rw [takeMetrics, putMetrics_of_hasCost (all_hasCost_dailyMetrics rows)]
  rfl

/-- The run that an import opens for a window, under the next number of a store. -/
def runFor (store : Store) (window : ImportWindow) : ImportRun :=
  ImportRun.opening (store.highestId + 1) window.mode window.fromTimestamp
    window.toTimestamp window.toTimestamp

/-- A run ends at the instant at which its import closes it. -/
theorem finishedAt_completionOf
    (outcome : Except TelemetryError Unit)
    (now : Instant) :
    (completionOf outcome now).finishedAt = now.text := by
  cases outcome <;> rfl

theorem openImport_of_room
    {store : Store}
    (room : store.highestId < largestSigned)
    (window : ImportWindow) :
    store.openImport window =
      (.ok (store.runFor window), store.withRun (store.runFor window)) :=
  createRun_of_room room _ _ _ _

theorem openImport_of_full
    {store : Store}
    (full : ¬ store.highestId < largestSigned)
    (window : ImportWindow) :
    store.openImport window = (.error .noNumberLeft, store) :=
  createRun_of_full full _ _ _ _

/-- Where the last run is the one to end, only the last row changes. -/
theorem runs_withEnd_of_last
    {store : Store}
    {rows : List StoredRun}
    {run : ImportRun}
    (runs_eq : store.runs = rows ++ [StoredRun.ofRun run])
    (above : ∀ row ∈ rows, row.id < run.id)
    (running : run.status = .running)
    (completion : Completion) :
    (store.withEnd run.id completion).runs =
      rows ++ [StoredRun.ofRun (run.complete completion)] := by
  have others :
      (rows.map fun row =>
        if row.isRunning run.id then row.complete completion else row) = rows := by
    refine (List.map_congr_left fun row member => ?_).trans (List.map_id rows)
    have idle : ¬ row.isRunning run.id = true := by
      rw [StoredRun.isRunning_iff]
      rintro ⟨sameId, -⟩
      exact Int.ne_of_lt (above row member) sameId
    rw [if_neg idle]
    rfl
  have isRunning : (StoredRun.ofRun run).isRunning run.id = true :=
    (StoredRun.isRunning_iff _ _).2
      ⟨rfl, (StoredRun.hasStatus_ofRun run .running).2 running⟩
  unfold Store.withEnd
  simp only [runs_eq, List.map_append, others, List.map_cons, List.map_nil,
    isRunning, if_true, StoredRun.complete_ofRun]

end UsageLedger.Store
