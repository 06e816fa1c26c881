import UsageLedger.Proofs.Orders
import UsageLedger.Proofs.Tables
import UsageLedger.Store.Imports

/-!
# The table of runs

A store is sound in its runs when every row reads as a run whose end and
message fit its status, when the rows stand in the order of their numbers, and
when no number exceeds the highest one that was given.  Creating and ending
runs keep a store sound.

`RunsContinue` says what may become of a table of runs in the course of time:
rows stay, they keep what they were created with, ended rows do not change at
all, and rows that are added have higher numbers than the rows before them.
-/

namespace UsageLedger

/-- The end and the message of a run fit its status. -/
def ImportRun.Consistent (run : ImportRun) : Prop :=
  match run.status with
  | .running => run.finishedAt = none ∧ run.errorMessage = none
  | .success => run.finishedAt.isSome ∧ run.errorMessage = none
  | .failed => run.finishedAt.isSome ∧ run.errorMessage.isSome

/-- A run that just begins. -/
def ImportRun.opening (id : Int) (mode : ImportMode)
    (fromTimestamp : Option String) (toTimestamp startedAt : String) :
    ImportRun where
  id := id
  startedAt := startedAt
  finishedAt := none
  mode := mode
  fromTimestamp := fromTimestamp
  toTimestamp := toTimestamp
  status := .running
  errorMessage := none

theorem ImportRun.consistent_opening (id : Int) (mode : ImportMode)
    (fromTimestamp : Option String) (toTimestamp startedAt : String) :
    (ImportRun.opening id mode fromTimestamp toTimestamp startedAt).Consistent :=
  ⟨rfl, rfl⟩

/-- Ending a run gives it the end and the message that its new status asks for. -/
theorem ImportRun.consistent_complete (run : ImportRun) (completion : Completion) :
    (run.complete completion).Consistent := by
  cases completion with
  | success finishedAt => exact ⟨rfl, rfl⟩
  | failure finishedAt message => exact ⟨rfl, rfl⟩

theorem Completion.status_ne_running (completion : Completion) :
    completion.status ≠ .running := by
  cases completion <;> simp [Completion.status]

theorem RunStatus.name_injective : Function.Injective RunStatus.name := by
  intro left right equal
  have found := congrArg RunStatus.ofName? equal
  rw [RunStatus.ofName?_name, RunStatus.ofName?_name] at found
  exact Option.some.inj found

namespace Store

/-- Filling in the end of a stored run is storing the ended run. -/
theorem StoredRun.complete_ofRun (run : ImportRun) (completion : Completion) :
    (StoredRun.ofRun run).complete completion =
      StoredRun.ofRun (run.complete completion) := rfl

/-- Whether a stored run has a status. -/
def StoredRun.HasStatus (row : StoredRun) (status : RunStatus) : Prop :=
  row.status = status.name

theorem StoredRun.hasStatus_ofRun (run : ImportRun) (status : RunStatus) :
    (StoredRun.ofRun run).HasStatus status ↔ run.status = status :=
  RunStatus.name_injective.eq_iff

theorem StoredRun.HasStatus.unique
    {row : StoredRun}
    {left right : RunStatus}
    (first : row.HasStatus left)
    (second : row.HasStatus right) :
    left = right :=
  RunStatus.name_injective (first.symm.trans second)

/-- A run that has succeeded is not running any more. -/
theorem StoredRun.HasStatus.not_running
    {row : StoredRun}
    (succeeded : row.HasStatus .success) :
    ¬ row.HasStatus .running := by
  intro running
  cases succeeded.unique running

theorem StoredRun.isRunning_iff (row : StoredRun) (id : Int) :
    row.isRunning id = true ↔ row.id = id ∧ row.HasStatus .running := by
  simp [StoredRun.isRunning, StoredRun.HasStatus]

/-- A store whose runs are as the operations on runs leave them. -/
structure RunsSound (store : Store) : Prop where
  rows : ∀ row ∈ store.runs,
    ∃ run : ImportRun, StoredRun.ofRun run = row ∧ run.Consistent
  ordered : store.runs.Pairwise fun first second => first.id < second.id
  bounded : ∀ row ∈ store.runs, row.id ≤ store.lastId

theorem RunsSound.of_empty {store : Store} (empty : store.runs = []) :
    RunsSound store where
  rows := by
    rw [empty]
    intro row member
    cases member
  ordered := by
    rw [empty]
    exact List.Pairwise.nil
  bounded := by
    rw [empty]
    intro row member
    cases member

/-- A run that is not running has succeeded or failed. -/
theorem RunsSound.over_cases
    {store : Store}
    (sound : RunsSound store)
    {row : StoredRun}
    (member : row ∈ store.runs)
    (isOver : ¬ row.HasStatus .running) :
    row.HasStatus .success ∨ row.HasStatus .failed := by
  rcases sound.rows row member with ⟨run, rfl, -⟩
  simp only [StoredRun.hasStatus_ofRun] at isOver ⊢
  cases status : run.status with
  | running => exact absurd status isOver
  | success => exact Or.inl rfl
  | failed => exact Or.inr rfl

namespace RunsSound

variable {store : Store} (sound : RunsSound store)

include sound

theorem unique : (store.runs.map StoredRun.id).Nodup := by
  rw [List.Nodup, List.pairwise_map]
  exact sound.ordered.imp Int.ne_of_lt

/-- Two rows with one number are one row. -/
theorem eq_of_id_eq
    {first second : StoredRun}
    (firstRow : first ∈ store.runs)
    (secondRow : second ∈ store.runs)
    (equal : first.id = second.id) :
    first = second :=
  List.inj_on_of_nodup_map sound.unique firstRow secondRow equal

/-- The highest number is the one that was given last. -/
theorem highestId_eq : store.highestId = store.lastId := by
  have bounded := sound.bounded
  unfold highestId
  generalize store.runs = rows at bounded
  induction rows with
  | nil => rfl
  | cons row rest hypothesis =>
      rw [List.foldl_cons, Int.max_eq_left (bounded row List.mem_cons_self)]
      exact hypothesis fun other member =>
        bounded other (List.mem_cons_of_mem row member)

/-- Looking a number up finds the run with that number. -/
theorem run?_eq_some_iff {id : Int} {run : ImportRun} :
    store.run? id = .ok (some run) ↔
      StoredRun.ofRun run ∈ store.runs ∧ run.id = id := by
  unfold run?
  constructor
  · intro found
    split at found
    · rename_i row lookup
      rcases (Table.find?_eq_some_iff sound.unique).1 lookup with ⟨member, sameId⟩
      rcases sound.rows row member with ⟨stored, rfl, -⟩
      rw [StoredRun.read_ofRun] at found
      cases found
      exact ⟨member, sameId⟩
    · cases found
  · rintro ⟨member, sameId⟩
    have lookup :
        Table.find? StoredRun.id id store.runs = some (StoredRun.ofRun run) :=
      (Table.find?_eq_some_iff sound.unique).2 ⟨member, sameId⟩
    rw [lookup]
    simp [Except.map]

end RunsSound

/-- A run that is not running has an end. -/
theorem RunsSound.finishedAt_of_over
    {store : Store}
    (sound : RunsSound store)
    {row : StoredRun}
    (member : row ∈ store.runs)
    (isOver : ¬ row.HasStatus .running) :
    ∃ text, row.finishedAt = some text := by
  rcases sound.rows row member with ⟨run, rfl, consistent⟩
  rw [StoredRun.hasStatus_ofRun] at isOver
  rw [← Option.isSome_iff_exists]
  show run.finishedAt.isSome
  cases status : run.status with
  | running => exact absurd status isOver
  | success =>
      simp only [ImportRun.Consistent, status] at consistent
      exact consistent.1
  | failed =>
      simp only [ImportRun.Consistent, status] at consistent
      exact consistent.1

/-! ## Creating and ending runs -/

/-- The store with a run added that has the next number. -/
def withRun (store : Store) (run : ImportRun) : Store :=
  { store with
    runs := store.runs ++ [StoredRun.ofRun run]
    lastId := run.id }

/-- The store with the end of a running run filled in. -/
def withEnd (store : Store) (id : Int) (completion : Completion) : Store :=
  { store with
    runs := store.runs.map fun row =>
      if row.isRunning id then row.complete completion else row }

theorem createRun_of_room
    {store : Store}
    (room : store.highestId < largestSigned)
    (mode : ImportMode)
    (fromTimestamp : Option String)
    (toTimestamp startedAt : String) :
    store.createRun mode fromTimestamp toTimestamp startedAt =
      let run := ImportRun.opening (store.highestId + 1) mode fromTimestamp
        toTimestamp startedAt
      (.ok run, store.withRun run) := by
  simp only [createRun, if_pos room]
  rfl

theorem createRun_of_full
    {store : Store}
    (full : ¬ store.highestId < largestSigned)
    (mode : ImportMode)
    (fromTimestamp : Option String)
    (toTimestamp startedAt : String) :
    store.createRun mode fromTimestamp toTimestamp startedAt =
      (.error .noNumberLeft, store) := by
  simp only [createRun, if_neg full]

theorem mem_withEnd_iff
    {store : Store}
    {id : Int}
    {completion : Completion}
    {row : StoredRun} :
    row ∈ (store.withEnd id completion).runs ↔
      (row ∈ store.runs ∧ ¬ row.isRunning id) ∨
        ∃ old ∈ store.runs, old.isRunning id ∧ old.complete completion = row := by
  unfold withEnd
  rw [List.mem_map]
  constructor
  · rintro ⟨old, member, rfl⟩
    by_cases running : old.isRunning id
    · rw [if_pos running]
      exact Or.inr ⟨old, member, running, rfl⟩
    · rw [if_neg running]
      exact Or.inl ⟨member, running⟩
  · rintro (⟨member, idle⟩ | ⟨old, member, running, rfl⟩)
    · exact ⟨row, member, if_neg idle⟩
    · exact ⟨old, member, if_pos running⟩

namespace RunsSound

variable {store : Store} (sound : RunsSound store)

include sound

/-- A new number is higher than all numbers in use. -/
theorem id_lt_next {row : StoredRun} (member : row ∈ store.runs) :
    row.id < store.highestId + 1 := by
  have bound := sound.bounded row member
  rw [sound.highestId_eq]
  omega

theorem withRun
    {run : ImportRun}
    (consistent : run.Consistent)
    (next : run.id = store.highestId + 1) :
    RunsSound (store.withRun run) where
  rows row member := by
    rcases List.mem_append.1 member with old | new
    · exact sound.rows row old
    · rw [List.mem_singleton] at new
      exact ⟨run, new.symm, consistent⟩
  ordered := by
    refine List.pairwise_append.2 ⟨sound.ordered, List.pairwise_singleton _ _, ?_⟩
    intro old member new isNew
    rw [List.mem_singleton] at isNew
    subst isNew
    have below := sound.id_lt_next member
    rw [← next] at below
    exact below
  bounded row member := by
    rcases List.mem_append.1 member with old | new
    · have below := sound.id_lt_next old
      rw [← next] at below
      exact Int.le_of_lt below
    · rw [List.mem_singleton] at new
      subst new
      exact Int.le_refl _

theorem withEnd (id : Int) (completion : Completion) :
    RunsSound (store.withEnd id completion) where
  rows row member := by
    rcases mem_withEnd_iff.1 member with ⟨old, -⟩ | ⟨old, oldRow, -, rfl⟩
    · exact sound.rows row old
    · rcases sound.rows old oldRow with ⟨run, rfl, -⟩
      exact ⟨run.complete completion, (StoredRun.complete_ofRun run completion).symm,
        run.consistent_complete completion⟩
  ordered := by
    unfold Store.withEnd
    rw [List.pairwise_map]
    refine sound.ordered.imp ?_
    intro first second less
    split <;> split <;> exact less
  bounded row member := by
    rcases mem_withEnd_iff.1 member with ⟨old, -⟩ | ⟨old, oldRow, -, rfl⟩
    · exact sound.bounded row old
    · exact sound.bounded old oldRow

/-- A run that is running is ended, and is then what the store gives back. -/
theorem completeRun_of_running
    {run : ImportRun}
    (member : StoredRun.ofRun run ∈ store.runs)
    (running : run.status = .running)
    (completion : Completion) :
    store.completeRun run.id completion =
      (.ok (run.complete completion), store.withEnd run.id completion) := by
  have isRunning : (StoredRun.ofRun run).isRunning run.id = true :=
    (StoredRun.isRunning_iff _ _).2
      ⟨rfl, (StoredRun.hasStatus_ofRun run .running).2 running⟩
  have found : (store.runs.any fun row => row.isRunning run.id) = true :=
    List.any_eq_true.2 ⟨_, member, isRunning⟩
  have ended : (store.withEnd run.id completion).run? run.id =
      .ok (some (run.complete completion)) := by
    refine (sound.withEnd run.id completion).run?_eq_some_iff.2 ⟨?_, rfl⟩
    exact mem_withEnd_iff.2 (Or.inr ⟨_, member, isRunning, rfl⟩)
  unfold Store.withEnd at ended ⊢
  simp only [completeRun, found, if_true, ended]

omit sound in
/-- Nothing happens to a store when the run to end is not running. -/
theorem completeRun_of_idle
    {id : Int}
    (idle : ∀ row ∈ store.runs, row.id = id → ¬ row.HasStatus .running)
    (completion : Completion) :
    store.completeRun id completion = (.error (.runNotRunning id), store) := by
  have absent : (store.runs.any fun row => row.isRunning id) = false := by
    rw [List.any_eq_false]
    intro row member running
    rcases (StoredRun.isRunning_iff row id).1 running with ⟨sameId, status⟩
    exact idle row member sameId status
  simp only [completeRun, absent, Bool.false_eq_true, if_false]

/-- Either the run to end is running and is ended, or the store stays as it is. -/
theorem completeRun_cases (id : Int) (completion : Completion) :
    (∃ run : ImportRun,
      StoredRun.ofRun run ∈ store.runs ∧ run.id = id ∧ run.status = .running ∧
        store.completeRun id completion =
          (.ok (run.complete completion), store.withEnd id completion)) ∨
      ((∀ row ∈ store.runs, row.id = id → ¬ row.HasStatus .running) ∧
        store.completeRun id completion = (.error (.runNotRunning id), store)) := by
  by_cases running :
      ∃ row ∈ store.runs, row.id = id ∧ row.HasStatus .running
  · rcases running with ⟨row, member, rfl, status⟩
    rcases sound.rows row member with ⟨run, rfl, -⟩
    have isRunning := (StoredRun.hasStatus_ofRun run .running).1 status
    exact Or.inl ⟨run, member, rfl, isRunning,
      sound.completeRun_of_running member isRunning completion⟩
  · have idle : ∀ row ∈ store.runs, row.id = id → ¬ row.HasStatus .running := by
      intro row member sameId status
      exact running ⟨row, member, sameId, status⟩
    exact Or.inr ⟨idle, completeRun_of_idle idle completion⟩

end RunsSound

/-! ## What becomes of runs -/

/-- What a row may become: it keeps what it was created with, and all of it once it has ended. -/
structure StoredRun.Continues (row later : StoredRun) : Prop where
  id : later.id = row.id
  startedAt : later.startedAt = row.startedAt
  mode : later.mode = row.mode
  fromTimestamp : later.fromTimestamp = row.fromTimestamp
  toTimestamp : later.toTimestamp = row.toTimestamp
  ended : ¬ row.HasStatus .running → later = row

theorem StoredRun.Continues.refl (row : StoredRun) : row.Continues row :=
  ⟨rfl, rfl, rfl, rfl, rfl, fun _ => rfl⟩

theorem StoredRun.Continues.trans
    {first second third : StoredRun}
    (earlier : first.Continues second)
    (later : second.Continues third) :
    first.Continues third where
  id := later.id.trans earlier.id
  startedAt := later.startedAt.trans earlier.startedAt
  mode := later.mode.trans earlier.mode
  fromTimestamp := later.fromTimestamp.trans earlier.fromTimestamp
  toTimestamp := later.toTimestamp.trans earlier.toTimestamp
  ended isOver := by
    have same := earlier.ended isOver
    rw [same] at later
    exact later.ended isOver

theorem StoredRun.continues_complete
    {row : StoredRun}
    (running : row.HasStatus .running)
    (completion : Completion) :
    row.Continues (row.complete completion) :=
  ⟨rfl, rfl, rfl, rfl, rfl, fun isOver => absurd running isOver⟩

/-- A run that takes everything, from no earlier end on. -/
def StoredRun.IsFull (row : StoredRun) : Prop :=
  row.mode = ImportMode.full.name ∧ row.fromTimestamp = none

theorem StoredRun.IsFull.continues
    {row later : StoredRun}
    (full : row.IsFull)
    (becomes : row.Continues later) :
    later.IsFull :=
  ⟨becomes.mode.trans full.1, becomes.fromTimestamp.trans full.2⟩

/-- What a table of runs may become: no row is lost, and rows that are added have higher numbers. -/
structure RunsContinue (earlier later : Store) : Prop where
  kept : ∀ row ∈ earlier.runs, ∃ next ∈ later.runs, row.Continues next
  added : ∀ row ∈ later.runs,
    (∃ old ∈ earlier.runs, old.Continues row) ∨
      ∀ old ∈ earlier.runs, old.id < row.id

theorem RunsContinue.of_runs_eq
    {earlier later : Store}
    (same : later.runs = earlier.runs) :
    RunsContinue earlier later where
  kept row member := ⟨row, same ▸ member, .refl row⟩
  added row member := Or.inl ⟨row, same ▸ member, .refl row⟩

theorem RunsContinue.refl (store : Store) : RunsContinue store store :=
  .of_runs_eq rfl

theorem RunsContinue.trans
    {first second third : Store}
    (earlier : RunsContinue first second)
    (later : RunsContinue second third) :
    RunsContinue first third where
  kept row member := by
    rcases earlier.kept row member with ⟨next, nextRow, becomes⟩
    rcases later.kept next nextRow with ⟨last, lastRow, becomesLast⟩
    exact ⟨last, lastRow, becomes.trans becomesLast⟩
  added row member := by
    rcases later.added row member with ⟨middle, middleRow, becomes⟩ | above
    · rcases earlier.added middle middleRow with ⟨old, oldRow, became⟩ | above
      · exact Or.inl ⟨old, oldRow, became.trans becomes⟩
      · refine Or.inr fun old oldRow => ?_
        rw [becomes.id]
        exact above old oldRow
    · refine Or.inr fun old oldRow => ?_
      rcases earlier.kept old oldRow with ⟨next, nextRow, becomes⟩
      rw [← becomes.id]
      exact above next nextRow

/-- An ended row is still there later. -/
theorem RunsContinue.mem_of_ended
    {earlier later : Store}
    (continues : RunsContinue earlier later)
    {row : StoredRun}
    (member : row ∈ earlier.runs)
    (isOver : ¬ row.HasStatus .running) :
    row ∈ later.runs := by
  rcases continues.kept row member with ⟨next, nextRow, becomes⟩
  rw [becomes.ended isOver] at nextRow
  exact nextRow

/-- Below a run that follows ended ones, rows do not change any more. -/
theorem RunsContinue.mem_below_iff
    {earlier later : Store}
    (continues : RunsContinue earlier later)
    {row : StoredRun}
    (stored : row ∈ earlier.runs)
    (isOver : ∀ other ∈ earlier.runs, other.id < row.id →
      ¬ other.HasStatus .running)
    (other : StoredRun)
    (below : other.id < row.id) :
    other ∈ later.runs ↔ other ∈ earlier.runs := by
  constructor
  · intro member
    rcases continues.added other member with ⟨old, oldRow, becomes⟩ | above
    · rw [becomes.id] at below
      rw [becomes.ended (isOver old oldRow below)]
      exact oldRow
    · exact absurd (above row stored) (Int.not_lt.2 (Int.le_of_lt below))
  · intro member
    exact continues.mem_of_ended member (isOver other member below)

namespace RunsSound

variable {store : Store} (sound : RunsSound store)

include sound

theorem continues_withRun
    {run : ImportRun}
    (next : run.id = store.highestId + 1) :
    RunsContinue store (store.withRun run) where
  kept row member := ⟨row, List.mem_append_left _ member, .refl row⟩
  added row member := by
    rcases List.mem_append.1 member with old | new
    · exact Or.inl ⟨row, old, .refl row⟩
    · rw [List.mem_singleton] at new
      subst new
      refine Or.inr fun old oldRow => ?_
      have below := sound.id_lt_next oldRow
      rw [← next] at below
      exact below

omit sound in
theorem continues_withEnd (id : Int) (completion : Completion) :
    RunsContinue store (store.withEnd id completion) where
  kept row member := by
    by_cases running : row.isRunning id
    · exact ⟨row.complete completion,
        mem_withEnd_iff.2 (Or.inr ⟨row, member, running, rfl⟩),
        StoredRun.continues_complete
          ((StoredRun.isRunning_iff row id).1 running).2 completion⟩
    · exact ⟨row, mem_withEnd_iff.2 (Or.inl ⟨member, running⟩), .refl row⟩
  added row member := by
    rcases mem_withEnd_iff.1 member with ⟨old, -⟩ | ⟨old, oldRow, running, rfl⟩
    · exact Or.inl ⟨row, old, .refl row⟩
    · exact Or.inl ⟨old, oldRow, StoredRun.continues_complete
        ((StoredRun.isRunning_iff old id).1 running).2 completion⟩

/-- Creating a run keeps the runs sound and lets them continue. -/
theorem createRun
    (mode : ImportMode)
    (fromTimestamp : Option String)
    (toTimestamp startedAt : String) :
    RunsSound (store.createRun mode fromTimestamp toTimestamp startedAt).2 ∧
      RunsContinue store
        (store.createRun mode fromTimestamp toTimestamp startedAt).2 := by
  by_cases room : store.highestId < largestSigned
  · rw [createRun_of_room room]
    exact ⟨sound.withRun (ImportRun.consistent_opening _ _ _ _ _) rfl,
      sound.continues_withRun rfl⟩
  · rw [createRun_of_full room]
    exact ⟨sound, .refl store⟩

/-- Ending a run keeps the runs sound and lets them continue. -/
theorem completeRun (id : Int) (completion : Completion) :
    RunsSound (store.completeRun id completion).2 ∧
      RunsContinue store (store.completeRun id completion).2 := by
  rcases sound.completeRun_cases id completion with ⟨run, -, -, -, ended⟩ | ⟨-, idle⟩
  · rw [ended]
    exact ⟨sound.withEnd id completion, continues_withEnd id completion⟩
  · rw [idle]
    exact ⟨sound, .refl store⟩

/-- Only the table of runs and the highest number matter. -/
theorem of_eq
    {other : Store}
    (sameRuns : other.runs = store.runs)
    (sameId : other.lastId = store.lastId) :
    RunsSound other where
  rows := by
    rw [sameRuns]
    exact sound.rows
  ordered := by
    rw [sameRuns]
    exact sound.ordered
  bounded := by
    rw [sameRuns, sameId]
    exact sound.bounded

end RunsSound

/-! ## The checkpoint -/

/-- Stored runs sort by their numbers, the one created last first. -/
theorem sortsBy_id :
    SortsBy fun first second : StoredRun => decide (second.id ≤ first.id) where
  trans first second third := by
    simp only [decide_eq_true_eq]
    exact fun firstSecond secondThird => Int.le_trans secondThird firstSecond
  total first second := by
    rw [Bool.or_eq_true, decide_eq_true_eq, decide_eq_true_eq]
    exact Int.le_total _ _

/-- Stored runs sort by their ends, of equal ends the one created last first. -/
theorem sortsBy_finishesNoEarlier : SortsBy StoredRun.finishesNoEarlier := by
  show SortsBy (tieBroken StoredRun.finishedAt descending
    fun first second => decide (second.id ≤ first.id))
  exact SortsBy.tieBroken sortsBy_descending decides_descending sortsBy_id

/--
The checkpoint of a store: there is none when no run succeeded; otherwise it
is a successful run, and no successful run finished after it.
-/
theorem RunsSound.lastSuccess_cases
    {store : Store}
    (sound : RunsSound store) :
    (store.lastSuccess = .ok none ∧
      ∀ row ∈ store.runs, ¬ row.HasStatus .success) ∨
      ∃ run : ImportRun,
        store.lastSuccess = .ok (some run) ∧
          StoredRun.ofRun run ∈ store.runs ∧ run.status = .success ∧
          ∀ row ∈ store.runs, row.HasStatus .success →
            (StoredRun.ofRun run).finishesNoEarlier row = true := by
  have candidate : ∀ row,
      row ∈ (store.runs.filter fun row => row.status == RunStatus.success.name) ↔
        row ∈ store.runs ∧ row.HasStatus .success := by
    intro row
    rw [List.mem_filter, beq_iff_eq]
    rfl
  cases sorted : store.successesByEnd with
  | nil =>
      have empty := mergeSort_eq_nil.1 sorted
      refine Or.inl ⟨by simp only [lastSuccess, sorted, readFirst], ?_⟩
      intro row member status
      have listed := (candidate row).2 ⟨member, status⟩
      rw [empty] at listed
      cases listed
  | cons first rest =>
      rcases sortsBy_finishesNoEarlier.head_mergeSort sorted with ⟨member, latest⟩
      rcases (candidate first).1 member with ⟨firstRow, status⟩
      rcases sound.rows first firstRow with ⟨run, rfl, -⟩
      refine Or.inr ⟨run, ?_, firstRow,
        (StoredRun.hasStatus_ofRun run .success).1 status, ?_⟩
      · simp [lastSuccess, sorted, readFirst, Except.map]
      · intro row isRow succeeded
        exact latest row ((candidate row).2 ⟨isRow, succeeded⟩)

end Store

end UsageLedger
