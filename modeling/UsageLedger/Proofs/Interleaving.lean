import Mathlib.Data.List.Induction
import Mathlib.Logic.Function.Basic
import UsageLedger.Proofs.Stages

/-!
# Imports at the same time

Any number of imports may be under way over one store.  A `Move` makes the
next step of one of them, and brings along what the clock shows and what the
source answers should that step ask for it; any list of moves is one way in
which the steps of the imports can follow each other.

`StageStep` lists what a step can do in a sound store.  What is said of all
interleavings is proved by its cases.
-/

namespace UsageLedger

open UsageLedger.Calendar
open UsageLedger.Store
open UsageLedger.Telemetry

/-- Imports over one store, each at its stage. -/
structure Imports (ι : Type) where
  store : Store
  stages : ι → Stage

/-- The next step of one import, with what the clock and the source say to it. -/
structure Move (ι : Type) where
  call : ι
  reading : Instant
  metrics : Except TelemetryError (List MetricRow)
  observations : Except TelemetryError (List ObservationRow)

/-- A step that meets no failure, of a numbered import at some second of 1970. -/
def Move.smooth (call second : Nat) : Move Nat where
  call := call
  reading := Instant.ofNanos (second * 1000000000)
  metrics := .ok []
  observations := .ok []

variable {ι : Type}

/-- The clock of a move. -/
def Move.clock (move : Move ι) : StateM Store Instant :=
  pure move.reading

/-- The source of a move. -/
def Move.source (move : Move ι) : TelemetrySource (StateM Store) where
  metrics _ _ := pure move.metrics
  observations _ := pure move.observations

section Actions

variable (move : Move ι) (store : Store)

theorem Move.run_look :
    (getThe Store : StateM Store Store).run store = (store, store) := rfl

theorem Move.run_change {α : Type} (change : Store → α × Store) :
    (modifyGet change : StateM Store α).run store = change store := rfl

theorem Move.run_metrics (fromDate toDate : String) :
    (move.source.metrics fromDate toDate).run store = (move.metrics, store) := rfl

theorem Move.run_observations (fromStart : Option String) :
    (move.source.observations fromStart).run store =
      (move.observations, store) := rfl

end Actions

/-- The stage of an import and the store after a move. -/
def Stage.next (move : Move ι) (store : Store) (stage : Stage) : Stage × Store :=
  (stage.advance move.clock move.source).run store

/-- Imports of which none has begun. -/
def Imports.fresh (store : Store) : Imports ι where
  store := store
  stages := fun _ => .ready

section Steps

variable [DecidableEq ι]

/-- The imports after a move. -/
def Imports.step (imports : Imports ι) (move : Move ι) : Imports ι :=
  let (stage, store) := (imports.stages move.call).next move imports.store
  { store, stages := Function.update imports.stages move.call stage }

/-- The imports after some moves. -/
def Imports.after (imports : Imports ι) (moves : List (Move ι)) : Imports ι :=
  moves.foldl Imports.step imports

@[simp]
theorem Imports.after_nil (imports : Imports ι) : imports.after [] = imports := rfl

theorem Imports.after_append
    (imports : Imports ι)
    (first second : List (Move ι)) :
    imports.after (first ++ second) = (imports.after first).after second := by
  simp only [Imports.after, List.foldl_append]

theorem Imports.after_concat
    (imports : Imports ι)
    (moves : List (Move ι))
    (move : Move ι) :
    imports.after (moves ++ [move]) = (imports.after moves).step move := by
  simp only [Imports.after, List.foldl_append, List.foldl_cons, List.foldl_nil]

end Steps

/-! ## What a step can do -/

/-- The step of an import from one stage and store to the next, with all it may meet. -/
inductive StageStep (move : Move ι) (store : Store) : Stage → Stage → Store → Prop where
  | readsClock :
      StageStep move store .ready (.timed move.reading) store
  | plans (now : Instant) (last : Option ImportRun)
      (checkpoint : store.IsCheckpoint last) (canPlan : store.CanPlan now) :
      StageStep move store (.timed now) (.planned (windowFor last now)) store
  | breaksOff (now : Instant) (tooEarly : ¬ store.CanPlan now) :
      StageStep move store (.timed now) (.refused (.overflow .lookback)) store
  | opens (window : ImportWindow) (room : store.highestId < largestSigned) :
      StageStep move store (.planned window) (.opened window (store.runFor window))
        (store.withRun (store.runFor window))
  | findsNoNumber (window : ImportWindow) (full : ¬ store.highestId < largestSigned) :
      StageStep move store (.planned window) (.refused .noNumberLeft) store
  | missesMetrics (window : ImportWindow) (run : ImportRun) (cause : TelemetryError)
      (answer : move.metrics = .error cause) :
      StageStep move store (.opened window run)
        (.fetched window run (.error cause)) store
  | takesMetrics (window : ImportWindow) (run : ImportRun) (rows : List MetricRow)
      (answer : move.metrics = .ok rows) :
      StageStep move store (.opened window run) (.halfway window run)
        (store.withMetrics (Telemetry.dailyMetrics rows).rows)
  | missesObservations (window : ImportWindow) (run : ImportRun)
      (cause : TelemetryError) (answer : move.observations = .error cause) :
      StageStep move store (.halfway window run)
        (.fetched window run (.error cause)) store
  | takesObservations (window : ImportWindow) (run : ImportRun)
      (rows : List ObservationRow) (answer : move.observations = .ok rows) :
      StageStep move store (.halfway window run) (.fetched window run (.ok ()))
        (store.putRequests (requestRecords rows).rows).2
  | readsClockAgain (window : ImportWindow) (run : ImportRun)
      (outcome : Except TelemetryError Unit) :
      StageStep move store (.fetched window run outcome)
        (.closing window run outcome move.reading) store
  | closes (window : ImportWindow) (run : ImportRun)
      (outcome : Except TelemetryError Unit) (finished : Instant)
      (stored : ImportRun) (member : StoredRun.ofRun stored ∈ store.runs)
      (sameId : stored.id = run.id) (running : stored.status = .running) :
      StageStep move store (.closing window run outcome finished)
        (.closed window run (.ok (stored.complete (completionOf outcome finished))))
        (store.withEnd run.id (completionOf outcome finished))
  | findsNoRun (window : ImportWindow) (run : ImportRun)
      (outcome : Except TelemetryError Unit) (finished : Instant)
      (idle : ∀ row ∈ store.runs, row.id = run.id → ¬ row.HasStatus .running) :
      StageStep move store (.closing window run outcome finished)
        (.closed window run (.error (.runNotRunning run.id))) store
  | rests (stage : Stage) (result : Except StoreError ImportRun)
      (isOver : stage.result? = some result) :
      StageStep move store stage stage store

section Advance

variable (move : Move ι) {store : Store}

theorem stageStep_timed (sound : RunsSound store) (now : Instant) :
    StageStep move store (.timed now) ((Stage.timed now).next move store).1
      ((Stage.timed now).next move store).2 := by
  rcases sound.planImport_cases now with
    ⟨last, -, checkpoint, ⟨canPlan, planned⟩ | ⟨tooEarly, broken⟩⟩
  · have next : (Stage.timed now).next move store =
        (.planned (windowFor last now), store) := by
      simp only [Stage.next, Stage.advance, run_bind_state, Move.run_look, planned]
      rfl
    rw [next]
    exact .plans now last checkpoint canPlan
  · have next : (Stage.timed now).next move store =
        (.refused (.overflow .lookback), store) := by
      simp only [Stage.next, Stage.advance, run_bind_state, Move.run_look, broken]
      rfl
    rw [next]
    exact .breaksOff now tooEarly

variable (store)

theorem stageStep_planned (window : ImportWindow) :
    StageStep move store (.planned window) ((Stage.planned window).next move store).1
      ((Stage.planned window).next move store).2 := by
  by_cases room : store.highestId < largestSigned
  · have next : (Stage.planned window).next move store =
        (.opened window (store.runFor window),
          store.withRun (store.runFor window)) := by
      simp only [Stage.next, Stage.advance, run_bind_state, Move.run_change,
        openImport_of_room room]
      rfl
    rw [next]
    exact .opens window room
  · have next : (Stage.planned window).next move store =
        (.refused .noNumberLeft, store) := by
      simp only [Stage.next, Stage.advance, run_bind_state, Move.run_change,
        openImport_of_full room]
      rfl
    rw [next]
    exact .findsNoNumber window room

theorem stageStep_opened (window : ImportWindow) (run : ImportRun) :
    StageStep move store (.opened window run)
      ((Stage.opened window run).next move store).1
      ((Stage.opened window run).next move store).2 := by
  cases answer : move.metrics with
  | error cause =>
      have next : (Stage.opened window run).next move store =
          (.fetched window run (.error cause), store) := by
        simp only [Stage.next, Stage.advance, run_bind_state, Move.run_metrics,
          Move.run_change, answer, takeMetrics]
        rfl
      rw [next]
      exact .missesMetrics window run cause answer
  | ok rows =>
      have next : (Stage.opened window run).next move store =
          (.halfway window run,
            store.withMetrics (Telemetry.dailyMetrics rows).rows) := by
        simp only [Stage.next, Stage.advance, run_bind_state, Move.run_metrics,
          Move.run_change, answer, takeMetrics_ok]
        rfl
      rw [next]
      exact .takesMetrics window run rows answer

theorem stageStep_halfway (window : ImportWindow) (run : ImportRun) :
    StageStep move store (.halfway window run)
      ((Stage.halfway window run).next move store).1
      ((Stage.halfway window run).next move store).2 := by
  cases answer : move.observations with
  | error cause =>
      have next : (Stage.halfway window run).next move store =
          (.fetched window run (.error cause), store) := by
        simp only [Stage.next, Stage.advance, run_bind_state, Move.run_observations,
          Move.run_change, answer, takeObservations]
        rfl
      rw [next]
      exact .missesObservations window run cause answer
  | ok rows =>
      have next : (Stage.halfway window run).next move store =
          (.fetched window run (.ok ()),
            (store.putRequests (requestRecords rows).rows).2) := by
        simp only [Stage.next, Stage.advance, run_bind_state, Move.run_observations,
          Move.run_change, answer, takeObservations]
        rfl
      rw [next]
      exact .takesObservations window run rows answer

variable {store}

theorem stageStep_closing
    (sound : RunsSound store)
    (window : ImportWindow)
    (run : ImportRun)
    (outcome : Except TelemetryError Unit)
    (finished : Instant) :
    StageStep move store (.closing window run outcome finished)
      ((Stage.closing window run outcome finished).next move store).1
      ((Stage.closing window run outcome finished).next move store).2 := by
  have next : (Stage.closing window run outcome finished).next move store =
      (.closed window run
          (store.completeRun run.id (completionOf outcome finished)).1,
        (store.completeRun run.id (completionOf outcome finished)).2) := rfl
  rw [next]
  rcases sound.completeRun_cases run.id (completionOf outcome finished) with
    ⟨stored, member, sameId, running, ended⟩ | ⟨idle, unchanged⟩
  · rw [ended]
    exact .closes window run outcome finished stored member sameId running
  · rw [unchanged]
    exact .findsNoRun window run outcome finished idle

/-- In a sound store every step is one of the listed ones. -/
theorem stageStep_next (sound : RunsSound store) (stage : Stage) :
    StageStep move store stage (stage.next move store).1 (stage.next move store).2 := by
  cases stage with
  | ready => exact .readsClock
  | timed now => exact stageStep_timed move sound now
  | planned window => exact stageStep_planned move store window
  | opened window run => exact stageStep_opened move store window run
  | halfway window run => exact stageStep_halfway move store window run
  | fetched window run outcome => exact .readsClockAgain window run outcome
  | closing window run outcome finished =>
      exact stageStep_closing move sound window run outcome finished
  | closed window run result => exact .rests _ result rfl
  | refused cause => exact .rests _ (.error cause) rfl

end Advance

namespace StageStep

variable {move : Move ι} {store after : Store} {stage next : Stage}

/-- A step keeps the runs sound and lets them continue. -/
theorem keeps_sound
    (step : StageStep move store stage next after)
    (sound : RunsSound store) :
    RunsSound after ∧ RunsContinue store after := by
  cases step with
  | opens window room =>
      exact ⟨sound.withRun (ImportRun.consistent_opening _ _ _ _ _) rfl,
        sound.continues_withRun rfl⟩
  | closes window run outcome finished stored member sameId running =>
      exact ⟨sound.withEnd _ _, RunsSound.continues_withEnd _ _⟩
  | takesMetrics window run rows answer =>
      exact ⟨sound.of_eq rfl rfl, .of_runs_eq rfl⟩
  | takesObservations window run rows answer =>
      exact ⟨sound.of_eq rfl rfl, .of_runs_eq rfl⟩
  | _ => exact ⟨sound, .refl store⟩

/-- A row is only added by the import that then holds its run. -/
theorem added
    (step : StageStep move store stage next after)
    {row : StoredRun}
    (member : row ∈ after.runs) :
    (∃ old ∈ store.runs, old.Continues row) ∨
      ∃ window, stage = .planned window ∧
        next = .opened window (store.runFor window) ∧
        row = StoredRun.ofRun (store.runFor window) := by
  cases step with
  | opens window room =>
      rcases List.mem_append.1 member with old | new
      · exact Or.inl ⟨row, old, .refl row⟩
      · exact Or.inr ⟨window, rfl, rfl, List.mem_singleton.1 new⟩
  | closes window run outcome finished stored isStored sameId running =>
      rcases mem_withEnd_iff.1 member with ⟨old, -⟩ | ⟨old, oldRow, isRunning, rfl⟩
      · exact Or.inl ⟨row, old, .refl row⟩
      · exact Or.inl ⟨old, oldRow, StoredRun.continues_complete
          ((StoredRun.isRunning_iff old run.id).1 isRunning).2 _⟩
  | _ => exact Or.inl ⟨row, member, .refl row⟩

/-- A window is planned once, from the checkpoint of that time. -/
theorem window_cases
    (step : StageStep move store stage next after)
    {window : ImportWindow}
    (holds : next.window? = some window) :
    stage.window? = some window ∨
      ∃ now last, store.IsCheckpoint last ∧ window = windowFor last now := by
  cases step with
  | plans now last checkpoint =>
      cases holds
      exact Or.inr ⟨now, last, checkpoint, rfl⟩
  | readsClock => cases holds
  | breaksOff => cases holds
  | findsNoNumber => cases holds
  | _ => exact Or.inl holds

/-- A run is created once, for the window that was planned. -/
theorem opening_cases
    (step : StageStep move store stage next after)
    {window : ImportWindow}
    {run : ImportRun}
    (holds : next.opening? = some (window, run)) :
    stage.opening? = some (window, run) ∨
      stage = .planned window ∧ run = store.runFor window ∧
        after = store.withRun run := by
  cases step with
  | opens window room =>
      cases holds
      exact Or.inr ⟨rfl, rfl, rfl⟩
  | readsClock => cases holds
  | plans => cases holds
  | breaksOff => cases holds
  | findsNoNumber => cases holds
  | _ => exact Or.inl holds

/-- The window and the run of an import stay what they are. -/
theorem opening_kept
    (step : StageStep move store stage next after)
    {opening : ImportWindow × ImportRun}
    (holds : stage.opening? = some opening) :
    next.opening? = some opening := by
  cases step with
  | readsClock => cases holds
  | plans => cases holds
  | breaksOff => cases holds
  | opens => cases holds
  | findsNoNumber => cases holds
  | _ => exact holds

end StageStep

section Steps

variable [DecidableEq ι]

/-- A move makes a step of one import and leaves the other ones where they are. -/
theorem Imports.step_cases
    {imports : Imports ι}
    (sound : RunsSound imports.store)
    (move : Move ι) :
    StageStep move imports.store (imports.stages move.call)
        ((imports.step move).stages move.call) (imports.step move).store ∧
      ∀ other, other ≠ move.call →
        (imports.step move).stages other = imports.stages other := by
  constructor
  · have moved : (imports.step move).stages move.call =
        ((imports.stages move.call).next move imports.store).1 :=
      Function.update_self ..
    rw [moved]
    exact stageStep_next move sound (imports.stages move.call)
  · intro other apart
    exact Function.update_of_ne apart _ _

end Steps

end UsageLedger
