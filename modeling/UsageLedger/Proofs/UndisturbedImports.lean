import Mathlib.Data.Fintype.Card
import UsageLedger.Proofs.Interleaving

/-!
# Imports that do not disturb each other

Each import has a source of its own, which answers the same whenever it is
asked.  Imports over one store write into the same tables, but no import
touches the run of another one: their numbers differ.

The invariant is `Imports.Undisturbed`.  `StageStep.keeps` carries it over for
the import that makes a step, `StageStep.leaves` for the other ones.  What has
been written into the tables of usage is what the sources of those imports
gave that have come so far.  `imports_return` adds that imports do not wait
for each other either.
-/

namespace UsageLedger

open UsageLedger.Store
open UsageLedger.Telemetry

/-! ## Sources -/

/-- What the source of an import answers, whatever it is asked for. -/
structure Answers where
  metrics : Except TelemetryError (List MetricRow)
  observations : Except TelemetryError (List ObservationRow)

namespace Answers

variable (answers : Answers)

/-- The metrics that the import stores. -/
def metricRows : List StoredMetric :=
  match answers.metrics with
  | .error _ => []
  | .ok rows => (Telemetry.dailyMetrics rows).rows.map StoredMetric.ofMetric

/-- The requests that the import stores; without metrics it asks for none. -/
def requestRows : List StoredRequest :=
  match answers.metrics, answers.observations with
  | .ok _, .ok rows => (requestRecords rows).rows.map StoredRequest.ofRecord
  | _, _ => []

/-- What comes of fetching: the first failure, if there is one. -/
def outcome : Except TelemetryError Unit :=
  match answers.metrics with
  | .error cause => .error cause
  | .ok _ => answers.observations.map fun _ => ()

/-- The metrics that the import has stored by a stage. -/
def metricsBy : Stage → List StoredMetric
  | .halfway _ _ => answers.metricRows
  | .fetched _ _ _ => answers.metricRows
  | .closing _ _ _ _ => answers.metricRows
  | .closed _ _ _ => answers.metricRows
  | _ => []

/-- The requests that the import has stored by a stage. -/
def requestsBy : Stage → List StoredRequest
  | .fetched _ _ _ => answers.requestRows
  | .closing _ _ _ _ => answers.requestRows
  | .closed _ _ _ => answers.requestRows
  | _ => []

end Answers

/-- A run has the status and the message that go with an outcome. -/
def ImportRun.EndsWith (run : ImportRun) : Except TelemetryError Unit → Prop
  | .ok _ => run.status = .success ∧ run.errorMessage = none
  | .error cause => run.status = .failed ∧ run.errorMessage = some cause.message

theorem ImportRun.endsWith_complete
    (run : ImportRun)
    (outcome : Except TelemetryError Unit)
    (now : Calendar.Instant) :
    (run.complete (completionOf outcome now)).EndsWith outcome := by
  cases outcome <;> exact ⟨rfl, rfl⟩

theorem ImportRun.EndsWith.not_running
    {run : ImportRun}
    {outcome : Except TelemetryError Unit}
    (ends : run.EndsWith outcome) :
    run.status ≠ .running := by
  intro running
  cases outcome with
  | ok done => cases running.symm.trans ends.1
  | error cause => cases running.symm.trans ends.1

/-! ## What an import relies on -/

/-- A run is in the store and running. -/
def Store.IsRunning (store : Store) (run : ImportRun) : Prop :=
  StoredRun.ofRun run ∈ store.runs ∧ run.status = .running

/-- What an import has is what its source answered and what the store still holds. -/
def Stage.Holds (answers : Answers) (store : Store) : Stage → Prop
  | .opened _ run => store.IsRunning run
  | .halfway _ run => store.IsRunning run ∧ ∃ rows, answers.metrics = .ok rows
  | .fetched _ run outcome => store.IsRunning run ∧ outcome = answers.outcome
  | .closing _ run outcome _ => store.IsRunning run ∧ outcome = answers.outcome
  | .closed _ run result => ∃ ended : ImportRun,
      result = .ok ended ∧ ended.id = run.id ∧
        StoredRun.ofRun ended ∈ store.runs ∧ ended.EndsWith answers.outcome
  | .refused cause => cause = .overflow .lookback
  | _ => True

/-- The number of the run that an import has created. -/
def Stage.number? (stage : Stage) : Option Int :=
  stage.opening?.map fun opening => opening.2.id

variable {ι : Type}

/-- The source of the import that makes a move answers as it always does. -/
def Move.AnsweredBy (move : Move ι) (answers : Answers) : Prop :=
  move.metrics = answers.metrics ∧ move.observations = answers.observations

namespace StageStep

variable {move : Move ι} {store after : Store} {stage next : Stage}

/-- An import keeps what it relies on, if a run can be created. -/
theorem keeps
    (step : StageStep move store stage next after)
    {answers : Answers}
    (answered : move.AnsweredBy answers)
    (room : stage.number? = none → store.highestId < largestSigned)
    (holds : stage.Holds answers store) :
    next.Holds answers after := by
  rcases answered with ⟨metrics, observations⟩
  cases step with
  | readsClock => trivial
  | plans now last checkpoint => trivial
  | breaksOff now tooEarly => rfl
  | opens window room =>
      exact ⟨List.mem_append_right _ (List.mem_singleton.2 rfl), rfl⟩
  | findsNoNumber window full => exact absurd (room rfl) full
  | missesMetrics window run cause answer =>
      rw [metrics] at answer
      exact ⟨holds, by rw [Answers.outcome, answer]⟩
  | takesMetrics window run rows answer =>
      rw [metrics] at answer
      exact ⟨holds, rows, answer⟩
  | missesObservations window run cause answer =>
      rcases holds with ⟨runs, rows, given⟩
      rw [observations] at answer
      refine ⟨runs, ?_⟩
      rw [Answers.outcome, given, answer]
      rfl
  | takesObservations window run rows answer =>
      rcases holds with ⟨runs, metricRows, given⟩
      rw [observations] at answer
      refine ⟨runs, ?_⟩
      rw [Answers.outcome, given, answer]
      rfl
  | readsClockAgain window run outcome => exact holds
  | closes window run outcome finished stored member sameId running =>
      rcases holds with ⟨-, rfl⟩
      refine ⟨_, rfl, sameId, ?_, stored.endsWith_complete _ _⟩
      refine mem_withEnd_iff.2 (Or.inr ⟨_, member, ?_, rfl⟩)
      exact (StoredRun.isRunning_iff _ _).2
        ⟨sameId, (StoredRun.hasStatus_ofRun stored .running).2 running⟩
  | findsNoRun window run outcome finished idle =>
      rcases holds with ⟨⟨member, running⟩, -⟩
      exact absurd ((StoredRun.hasStatus_ofRun run .running).2 running)
        (idle _ member rfl)
  | rests _ result isOver => exact holds

/-- A row with a number of its own stays as it is. -/
theorem leaves_row
    (step : StageStep move store stage next after)
    {row : StoredRun}
    (member : row ∈ store.runs)
    (apart : stage.number? ≠ some row.id) :
    row ∈ after.runs := by
  cases step with
  | opens window room => exact List.mem_append_left _ member
  | closes window run outcome finished stored isStored sameId running =>
      refine mem_withEnd_iff.2 (Or.inl ⟨member, ?_⟩)
      intro isRunning
      exact apart (congrArg some ((StoredRun.isRunning_iff row run.id).1 isRunning).1.symm)
  | _ => exact member

/-- What another import relies on stays, if its run has another number. -/
theorem leaves
    (step : StageStep move store stage next after)
    {answers : Answers}
    {other : Stage}
    (apart : ∀ id, other.number? = some id → stage.number? ≠ some id)
    (holds : other.Holds answers store) :
    other.Holds answers after := by
  have runs : ∀ run : ImportRun, other.number? = some run.id →
      store.IsRunning run → after.IsRunning run := by
    rintro run number ⟨member, running⟩
    exact ⟨step.leaves_row member (apart run.id number), running⟩
  cases other with
  | opened window run => exact runs run rfl holds
  | halfway window run => exact ⟨runs run rfl holds.1, holds.2⟩
  | fetched window run outcome => exact ⟨runs run rfl holds.1, holds.2⟩
  | closing window run outcome finished => exact ⟨runs run rfl holds.1, holds.2⟩
  | closed window run result =>
      rcases holds with ⟨ended, isResult, sameId, member, ends⟩
      refine ⟨ended, isResult, sameId, step.leaves_row member ?_, ends⟩
      show stage.number? ≠ some ended.id
      rw [sameId]
      exact apart run.id rfl
  | refused cause => exact holds
  | ready => trivial
  | timed now => trivial
  | planned window => trivial

/-- Either an import keeps its number, or it takes the next one. -/
theorem number_cases (step : StageStep move store stage next after) :
    (next.number? = stage.number? ∧ after.lastId = store.lastId) ∨
      (stage.number? = none ∧ next.number? = some (store.highestId + 1) ∧
        after.lastId = store.highestId + 1) := by
  cases step with
  | opens window room => exact Or.inr ⟨rfl, rfl, rfl⟩
  | _ => exact Or.inl ⟨rfl, rfl⟩

/-- What a step writes into the tables of usage are the rows that its import has stored since. -/
theorem writes
    (step : StageStep move store stage next after)
    {answers : Answers}
    (answered : move.AnsweredBy answers)
    (holds : stage.Holds answers store) :
    ∃ metrics requests,
      after.metrics = Table.putAll StoredMetric.key metrics store.metrics ∧
      after.requests = Table.putAll StoredRequest.id requests store.requests ∧
      (∀ row, row ∈ answers.metricsBy next ↔ row ∈ answers.metricsBy stage ∨ row ∈ metrics) ∧
      (∀ row, row ∈ answers.requestsBy next ↔
        row ∈ answers.requestsBy stage ∨ row ∈ requests) := by
  rcases answered with ⟨metrics, observations⟩
  cases step with
  | takesMetrics window run rows answer =>
      rw [metrics] at answer
      refine ⟨answers.metricRows, [], ?_, rfl, ?_, ?_⟩
      · rw [Answers.metricRows, answer]
        rfl
      · simp [Answers.metricsBy]
      · simp [Answers.requestsBy]
  | takesObservations window run rows answer =>
      rcases holds with ⟨-, metricRows, given⟩
      rw [observations] at answer
      refine ⟨[], answers.requestRows, rfl, ?_, ?_, ?_⟩
      · rw [Answers.requestRows, given, answer]
        rfl
      · simp [Answers.metricsBy]
      · simp [Answers.requestsBy]
  | missesMetrics window run cause answer =>
      rw [metrics] at answer
      refine ⟨[], [], rfl, rfl, ?_, ?_⟩
      · simp [Answers.metricsBy, Answers.metricRows, answer]
      · simp [Answers.requestsBy, Answers.requestRows, answer]
  | missesObservations window run cause answer =>
      rw [observations] at answer
      refine ⟨[], [], rfl, rfl, ?_, ?_⟩
      · simp [Answers.metricsBy]
      · simp [Answers.requestsBy, Answers.requestRows, answer]
  | _ => exact ⟨[], [], rfl, rfl, fun row => by simp [Answers.metricsBy],
      fun row => by simp [Answers.requestsBy]⟩

end StageStep

/-! ## Any number of imports -/

/-- A table with rows written into it, those and no others that some imports have stored. -/
def Written {α κ : Type} [DecidableEq κ] (key : α → κ) (stored : ι → List α)
    (before after : List α) : Prop :=
  ∃ rows, after = Table.putAll key rows before ∧
    ∀ row, row ∈ rows ↔ ∃ call, row ∈ stored call

theorem Written.step
    {α κ : Type}
    [DecidableEq κ]
    {key : α → κ}
    {stored storedNext : ι → List α}
    {before after next rows : List α}
    (written : Written key stored before after)
    (isNext : next = Table.putAll key rows after)
    (mover : ι)
    (moved : ∀ row, row ∈ storedNext mover ↔ row ∈ stored mover ∨ row ∈ rows)
    (others : ∀ call, call ≠ mover → storedNext call = stored call) :
    Written key storedNext before next := by
  rcases written with ⟨earlier, rfl, mem_earlier⟩
  refine ⟨earlier ++ rows, ?_, ?_⟩
  · rw [isNext, Table.putAll_append]
  · intro row
    rw [List.mem_append, mem_earlier]
    constructor
    · rintro (⟨call, member⟩ | new)
      · by_cases isMover : call = mover
        · subst isMover
          exact ⟨call, (moved row).2 (Or.inl member)⟩
        · exact ⟨call, (others call isMover).symm ▸ member⟩
      · exact ⟨mover, (moved row).2 (Or.inr new)⟩
    · rintro ⟨call, member⟩
      by_cases isMover : call = mover
      · subst isMover
        rcases (moved row).1 member with old | new
        · exact Or.inl ⟨call, old⟩
        · exact Or.inr new
      · exact Or.inl ⟨call, others call isMover ▸ member⟩

section Steps

variable [DecidableEq ι] [Fintype ι]

/-- The imports that have not created their runs yet. -/
def Imports.waiting (imports : Imports ι) : Finset ι :=
  Finset.univ.filter fun call => (imports.stages call).number? = none

/-- What holds at any time of imports that began over a store, each with its source. -/
structure Imports.Undisturbed (sources : ι → Answers) (start : Store)
    (imports : Imports ι) : Prop where
  sound : RunsSound imports.store
  onward : start.lastId ≤ imports.store.lastId
  holds : ∀ call, (imports.stages call).Holds (sources call) imports.store
  /-- Runs have numbers above those of the start. -/
  fresh : ∀ call id, (imports.stages call).number? = some id →
    start.lastId < id ∧ id ≤ imports.store.lastId
  distinct : ∀ first second id, (imports.stages first).number? = some id →
    (imports.stages second).number? = some id → first = second
  /-- There are numbers left for those that wait. -/
  room : imports.store.lastId + imports.waiting.card ≤ largestSigned
  kept : ∀ row ∈ start.runs, row ∈ imports.store.runs
  owned : ∀ row ∈ imports.store.runs,
    row ∈ start.runs ∨ ∃ call, (imports.stages call).number? = some row.id
  metrics : Written StoredMetric.key
    (fun call => (sources call).metricsBy (imports.stages call))
    start.metrics imports.store.metrics
  requests : Written StoredRequest.id
    (fun call => (sources call).requestsBy (imports.stages call))
    start.requests imports.store.requests

omit [DecidableEq ι] in
theorem undisturbed_fresh
    (sources : ι → Answers)
    {start : Store}
    (sound : RunsSound start)
    (room : start.highestId + Fintype.card ι ≤ largestSigned) :
    (Imports.fresh start : Imports ι).Undisturbed sources start where
  sound := sound
  onward := Int.le_refl _
  holds _ := trivial
  fresh call id number := by cases number
  distinct first second id number := by cases number
  room := by
    have all : (Imports.fresh start : Imports ι).waiting = Finset.univ :=
      Finset.filter_true_of_mem fun call member => rfl
    rw [all, Finset.card_univ]
    rw [sound.highestId_eq] at room
    exact room
  kept row member := member
  owned row member := Or.inl member
  metrics := ⟨[], rfl, fun row => by simp [Imports.fresh, Answers.metricsBy]⟩
  requests := ⟨[], rfl, fun row => by simp [Imports.fresh, Answers.requestsBy]⟩

/-- A move that creates a run takes its number from those that are left. -/
theorem Imports.lastId_add_waiting
    {imports : Imports ι}
    (sound : RunsSound imports.store)
    (move : Move ι) :
    (imports.step move).store.lastId + (imports.step move).waiting.card =
      imports.store.lastId + imports.waiting.card := by
  rcases Imports.step_cases sound move with ⟨step, others⟩
  rcases step.number_cases with ⟨sameNumber, sameId⟩ | ⟨noNumber, number, nextId⟩
  · have sameWaiting : (imports.step move).waiting = imports.waiting := by
      refine Finset.filter_congr fun call _ => ?_
      by_cases moved : call = move.call
      · rw [moved, sameNumber]
      · rw [others call moved]
    rw [sameWaiting, sameId]
  · have isWaiting : move.call ∈ imports.waiting :=
      Finset.mem_filter.2 ⟨Finset.mem_univ _, noNumber⟩
    have others : (imports.step move).waiting = imports.waiting.erase move.call := by
      ext call
      rw [Finset.mem_erase, waiting, waiting, Finset.mem_filter, Finset.mem_filter]
      by_cases moved : call = move.call
      · simp [moved, number]
      · simp [moved, others call moved]
    have counted := Finset.card_erase_add_one isWaiting
    rw [others, nextId, sound.highestId_eq]
    omega

omit [Fintype ι] in
/-- A number is an old one, or the next one and taken by the import that moves. -/
theorem Imports.number_step
    {imports : Imports ι}
    (sound : RunsSound imports.store)
    (move : Move ι)
    {call : ι}
    {id : Int}
    (number : ((imports.step move).stages call).number? = some id) :
    (imports.stages call).number? = some id ∨
      call = move.call ∧ id = imports.store.lastId + 1 ∧
        (imports.step move).store.lastId = id := by
  rcases Imports.step_cases sound move with ⟨step, others⟩
  by_cases moved : call = move.call
  · subst moved
    rcases step.number_cases with ⟨sameNumber, -⟩ | ⟨-, nextNumber, nextId⟩
    · exact Or.inl (sameNumber ▸ number)
    · cases nextNumber.symm.trans number
      rw [← sound.highestId_eq]
      exact Or.inr ⟨rfl, rfl, nextId⟩
  · rw [others call moved] at number
    exact Or.inl number

omit [Fintype ι] in
/-- An import keeps its number. -/
theorem Imports.number_kept
    {imports : Imports ι}
    (sound : RunsSound imports.store)
    (move : Move ι)
    {call : ι}
    {id : Int}
    (number : (imports.stages call).number? = some id) :
    ((imports.step move).stages call).number? = some id := by
  rcases Imports.step_cases sound move with ⟨step, others⟩
  by_cases moved : call = move.call
  · subst moved
    rcases step.number_cases with ⟨sameNumber, -⟩ | ⟨noNumber, -⟩
    · exact sameNumber.trans number
    · cases noNumber.symm.trans number
  · rw [others call moved]
    exact number

omit [DecidableEq ι] in
/-- An import that waits finds a number. -/
theorem Imports.Undisturbed.has_room
    {sources : ι → Answers}
    {start : Store}
    {imports : Imports ι}
    (undisturbed : imports.Undisturbed sources start)
    {call : ι}
    (waits : (imports.stages call).number? = none) :
    imports.store.highestId < largestSigned := by
  have isWaiting : call ∈ imports.waiting :=
    Finset.mem_filter.2 ⟨Finset.mem_univ _, waits⟩
  have some := Finset.card_pos.2 ⟨call, isWaiting⟩
  have room := undisturbed.room
  rw [undisturbed.sound.highestId_eq]
  omega

omit [Fintype ι] in
theorem Imports.lastId_le_step
    {imports : Imports ι}
    (sound : RunsSound imports.store)
    (move : Move ι) :
    imports.store.lastId ≤ (imports.step move).store.lastId := by
  rcases Imports.step_cases sound move with ⟨step, -⟩
  rcases step.number_cases with ⟨-, sameId⟩ | ⟨-, -, nextId⟩
  · exact Int.le_of_eq sameId.symm
  · rw [nextId, sound.highestId_eq]
    omega

section Undisturbed

variable
    {sources : ι → Answers}
    {start : Store}
    {imports : Imports ι}
    (undisturbed : imports.Undisturbed sources start)
    (move : Move ι)

include undisturbed

theorem Imports.Undisturbed.step_fresh :
    ∀ call id, ((imports.step move).stages call).number? = some id →
      start.lastId < id ∧ id ≤ (imports.step move).store.lastId := by
  intro call id number
  have onward := Imports.lastId_le_step undisturbed.sound move
  rcases Imports.number_step undisturbed.sound move number with
    old | ⟨rfl, rfl, isLast⟩
  · rcases undisturbed.fresh call id old with ⟨above, below⟩
    exact ⟨above, Int.le_trans below onward⟩
  · have above := undisturbed.onward
    exact ⟨by omega, by omega⟩

/-- A number that is taken is above all others, so no two imports share one. -/
theorem Imports.Undisturbed.step_distinct :
    ∀ first second id, ((imports.step move).stages first).number? = some id →
      ((imports.step move).stages second).number? = some id → first = second := by
  intro first second id firstNumber secondNumber
  rcases Imports.number_step undisturbed.sound move firstNumber with
    firstOld | ⟨rfl, rfl, isLast⟩
  · rcases Imports.number_step undisturbed.sound move secondNumber with
      secondOld | ⟨rfl, rfl, isLast⟩
    · exact undisturbed.distinct first second id firstOld secondOld
    · have below := (undisturbed.fresh first _ firstOld).2
      omega
  · rcases Imports.number_step undisturbed.sound move secondNumber with
      secondOld | ⟨rfl, -, -⟩
    · have below := (undisturbed.fresh second _ secondOld).2
      omega
    · rfl

/-- Runs of the start are below all numbers of imports and stay as they were. -/
theorem Imports.Undisturbed.step_kept
    (bounded : ∀ row ∈ start.runs, row.id ≤ start.lastId) :
    ∀ row ∈ start.runs, row ∈ (imports.step move).store.runs := by
  rcases Imports.step_cases undisturbed.sound move with ⟨step, -⟩
  intro row member
  refine step.leaves_row (undisturbed.kept row member) ?_
  intro number
  have above := (undisturbed.fresh move.call row.id number).1
  exact absurd (bounded row member) (Int.not_le.2 above)

theorem Imports.Undisturbed.step_owned
    (bounded : ∀ row ∈ start.runs, row.id ≤ start.lastId) :
    ∀ row ∈ (imports.step move).store.runs,
      row ∈ start.runs ∨ ∃ call, ((imports.step move).stages call).number? = some row.id := by
  rcases Imports.step_cases undisturbed.sound move with ⟨step, -⟩
  have sound := (step.keeps_sound undisturbed.sound).1
  intro row member
  rcases step.added member with ⟨old, oldRow, becomes⟩ | ⟨window, -, isNext, rfl⟩
  · rcases undisturbed.owned old oldRow with ofStart | ⟨call, number⟩
    · have stays := undisturbed.step_kept move bounded old ofStart
      rw [sound.eq_of_id_eq member stays becomes.id]
      exact Or.inl ofStart
    · rw [becomes.id]
      exact Or.inr ⟨call, Imports.number_kept undisturbed.sound move number⟩
  · refine Or.inr ⟨move.call, ?_⟩
    rw [isNext]
    rfl

/-- Every step leaves the imports undisturbed. -/
theorem Imports.Undisturbed.step
    (bounded : ∀ row ∈ start.runs, row.id ≤ start.lastId)
    (answered : move.AnsweredBy (sources move.call)) :
    (imports.step move).Undisturbed sources start := by
  rcases Imports.step_cases undisturbed.sound move with ⟨step, others⟩
  rcases step.writes answered (undisturbed.holds _) with
    ⟨metrics, requests, isMetrics, isRequests, newMetrics, newRequests⟩
  have apart : ∀ other, other ≠ move.call → ∀ id,
      (imports.stages other).number? = some id →
        (imports.stages move.call).number? ≠ some id := by
    intro other notMoved id number same
    exact notMoved (undisturbed.distinct other move.call id number same)
  refine
    { sound := (step.keeps_sound undisturbed.sound).1
      onward := Int.le_trans undisturbed.onward
        (Imports.lastId_le_step undisturbed.sound move)
      holds := ?_
      fresh := undisturbed.step_fresh move
      distinct := undisturbed.step_distinct move
      room := ?_
      kept := undisturbed.step_kept move bounded
      owned := undisturbed.step_owned move bounded
      metrics := undisturbed.metrics.step isMetrics move.call newMetrics ?_
      requests := undisturbed.requests.step isRequests move.call newRequests ?_ }
  · intro call
    by_cases moved : call = move.call
    · subst moved
      exact step.keeps answered undisturbed.has_room (undisturbed.holds _)
    · rw [others call moved]
      exact step.leaves (apart call moved) (undisturbed.holds call)
  · rw [Imports.lastId_add_waiting undisturbed.sound move]
    exact undisturbed.room
  · intro call notMoved
    simp only [others call notMoved]
  · intro call notMoved
    simp only [others call notMoved]

theorem Imports.Undisturbed.after
    (bounded : ∀ row ∈ start.runs, row.id ≤ start.lastId)
    (moves : List (Move ι))
    (answered : ∀ move ∈ moves, move.AnsweredBy (sources move.call)) :
    (imports.after moves).Undisturbed sources start := by
  induction moves using List.reverseRecOn with
  | nil => exact undisturbed
  | append_singleton moves move hypothesis =>
      rw [Imports.after_concat]
      have before := hypothesis fun earlier member =>
        answered earlier (List.mem_append_left _ member)
      exact before.step move bounded
        (answered move (List.mem_append_right _ (List.mem_singleton.2 rfl)))

end Undisturbed

end Steps

/-! ## Returning -/

/-- How many steps an import makes at most from a stage on. -/
def Stage.stepsLeft : Stage → Nat
  | .ready => 7
  | .timed _ => 6
  | .planned _ => 5
  | .opened _ _ => 4
  | .halfway _ _ => 3
  | .fetched _ _ _ => 2
  | .closing _ _ _ _ => 1
  | .closed _ _ _ => 0
  | .refused _ => 0

/-- Whether an import has given back a run or a failure; one that broke off has not. -/
def Stage.hasReturned : Stage → Bool
  | .closed _ _ _ => true
  | .refused (.overflow _) => false
  | .refused _ => true
  | _ => false

/-- What holds of an import that can plan its window even as a first one. -/
def Stage.InReach : Stage → Prop
  | .timed now => canLookBack now = true
  | .refused cause => ∀ number, cause ≠ .overflow number
  | _ => True

theorem Stage.hasReturned_of_stepsLeft
    {stage : Stage}
    (noneLeft : stage.stepsLeft = 0)
    (inReach : stage.InReach) :
    stage.hasReturned = true := by
  cases stage with
  | closed window run result => rfl
  | refused cause =>
      cases cause with
      | overflow number => exact absurd rfl (inReach number)
      | _ => rfl
  | _ => cases noneLeft

theorem StageStep.keeps_inReach
    {move : Move ι}
    {store after : Store}
    {stage next : Stage}
    (step : StageStep move store stage next after)
    (reading : canLookBack move.reading = true)
    (inReach : stage.InReach) :
    next.InReach := by
  cases step with
  | readsClock => exact reading
  | breaksOff now tooEarly => exact absurd (Or.inr inReach) tooEarly
  | findsNoNumber window full => exact fun number => nofun
  | rests _ result isOver => exact inReach
  | _ => trivial

theorem StageStep.stepsLeft_le
    {move : Move ι}
    {store after : Store}
    {stage next : Stage}
    (step : StageStep move store stage next after) :
    next.stepsLeft ≤ stage.stepsLeft - 1 := by
  cases step with
  | rests _ result isOver =>
      cases stage with
      | closed window run result => exact Nat.le_refl 0
      | refused cause => exact Nat.le_refl 0
      | _ => cases isOver
  | _ => simp [Stage.stepsLeft]

section Returning

variable [DecidableEq ι]

/-- However imports hinder each other, each comes closer to its end with every move it makes. -/
theorem Imports.stepsLeft_after
    (imports : Imports ι)
    (sound : RunsSound imports.store)
    (moves : List (Move ι))
    (call : ι) :
    RunsSound (imports.after moves).store ∧
      ((imports.after moves).stages call).stepsLeft ≤
        (imports.stages call).stepsLeft - moves.countP fun move => move.call = call := by
  induction moves using List.reverseRecOn with
  | nil => exact ⟨sound, Nat.le_refl _⟩
  | append_singleton moves move hypothesis =>
      rcases hypothesis with ⟨soundBefore, closer⟩
      rcases Imports.step_cases soundBefore move with ⟨step, others⟩
      rw [Imports.after_concat, List.countP_append, List.countP_singleton]
      refine ⟨(step.keeps_sound soundBefore).1, ?_⟩
      by_cases moved : call = move.call
      · subst moved
        have next := step.stepsLeft_le
        simp only [decide_true, if_true]
        omega
      · have notMoved : move.call ≠ call := Ne.symm moved
        simpa only [others call moved, notMoved, decide_false, Bool.false_eq_true,
          if_false, Nat.add_zero] using closer

/-- An import whose clock stays in reach can plan its window, whatever the other ones do. -/
theorem Imports.inReach_after
    {start : Store}
    (sound : RunsSound start)
    {moves : List (Move ι)}
    {call : ι}
    (readings : ∀ move ∈ moves, move.call = call → canLookBack move.reading = true) :
    (((Imports.fresh start).after moves).stages call).InReach := by
  induction moves using List.reverseRecOn with
  | nil => trivial
  | append_singleton moves move hypothesis =>
      have before := hypothesis fun earlier member =>
        readings earlier (List.mem_append_left _ member)
      have soundBefore := (Imports.stepsLeft_after (Imports.fresh start) sound moves call).1
      rcases Imports.step_cases soundBefore move with ⟨step, others⟩
      rw [Imports.after_concat]
      by_cases moved : call = move.call
      · subst moved
        exact step.keeps_inReach
          (readings move (List.mem_append_right _ (List.mem_singleton.2 rfl)) rfl) before
      · rw [others call moved]
        exact before

/--
An import that makes seven moves has returned, whatever the other ones do,
unless its clock shows an instant with no date to look back to.
-/
theorem imports_return
    {start : Store}
    (sound : RunsSound start)
    {moves : List (Move ι)}
    {call : ι}
    (seven : 7 ≤ moves.countP fun move => move.call = call)
    (readings : ∀ move ∈ moves, move.call = call → canLookBack move.reading = true) :
    (((Imports.fresh start).after moves).stages call).hasReturned = true := by
  have closer := (Imports.stepsLeft_after (Imports.fresh start) sound moves call).2
  have begins : ((Imports.fresh start).stages call).stepsLeft = 7 := rfl
  exact Stage.hasReturned_of_stepsLeft (by omega) (Imports.inReach_after sound readings)

end Returning

end UsageLedger
