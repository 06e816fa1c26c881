import UsageLedger.Proofs.HandledStores

/-!
# Ends that are stored before they are read

Ending a run takes two steps.  The end is filled in where a running run has
the number, and then that row is read to be given back.  The second step fails
on a mode that has no meaning, which no call stores but an overwritten column
can hold; by then the first one is done.

`ends_are_stored_first` says what is answered and what is stored, for every
table of runs in which no number is held twice, as none is in a handled store
(`nodup_ids_of_handled`).  So an end is all or nothing exactly if the mode of
the running run can be read, and `bogus_run_is_ended` is a run that is ended
although an error is answered.
-/

namespace UsageLedger.Store

/-! ## Numbers that are held once -/

theorem nodup_of_length_eraseDups
    {κ : Type}
    [BEq κ]
    [LawfulBEq κ]
    {keys : List κ}
    (same : keys.eraseDups.length = keys.length) :
    keys.Nodup := by
  have once := nodup_eraseDups keys
  have fewer : keys.eraseDups.Subperm keys :=
    List.subperm_of_subset once fun _ => List.mem_eraseDups.1
  exact (fewer.perm_of_length_le same.ge).nodup_iff.1 once

theorem nodup_of_distinctRows
    {α κ : Type}
    [BEq κ]
    [LawfulBEq κ]
    {key? : α → Option κ}
    {columns : String}
    {changed distinct : Nat × List α}
    (checked : distinctRows key? columns changed = .ok distinct) :
    (distinct.2.filterMap key?).Nodup := by
  unfold distinctRows at checked
  dsimp only at checked
  split at checked
  · rename_i same
    cases checked
    exact nodup_of_length_eraseDups same
  · cases checked

theorem le_foldl_max_id (rows : List StoredRun) (least : Int) :
    least ≤ rows.foldl (fun highest row => max highest row.id) least ∧
      ∀ row ∈ rows, row.id ≤ rows.foldl (fun highest row => max highest row.id) least := by
  induction rows generalizing least with
  | nil => exact ⟨le_refl least, fun row member => absurd member List.not_mem_nil⟩
  | cons first rest hypothesis =>
      rcases hypothesis (max least first.id) with ⟨noLess, others⟩
      exact ⟨(le_max_left _ _).trans noLess,
        List.forall_mem_cons.2 ⟨(le_max_right _ _).trans noLess, others⟩⟩

theorem id_le_highestId
    {store : Store}
    {row : StoredRun}
    (stored : row ∈ store.runs) :
    row.id ≤ store.highestId :=
  (le_foldl_max_id store.runs store.lastId).2 row stored

/-- Filling an end in leaves the numbers as they are. -/
theorem map_id_withEnd (store : Store) (id : Int) (completion : Completion) :
    (store.withEnd id completion).runs.map StoredRun.id = store.runs.map StoredRun.id := by
  rw [withEnd, List.map_map]
  refine List.map_congr_left fun row _ => ?_
  dsimp only [Function.comp_apply]
  split <;> rfl

/-- Whether or not a run is ended and read again, the end is stored or the store is as it was. -/
theorem completeRun_store (store : Store) (id : Int) (completion : Completion) :
    (store.completeRun id completion).2 = store ∨
      (store.completeRun id completion).2 = store.withEnd id completion := by
  unfold completeRun
  split
  · right
    dsimp only
    split <;> rfl
  · exact .inl rfl

section Numbers

variable {store : Store} (unique : (store.runs.map StoredRun.id).Nodup)

include unique

theorem nodup_ids_withRun {run : ImportRun} (next : run.id = store.highestId + 1) :
    ((store.withRun run).runs.map StoredRun.id).Nodup := by
  rw [withRun, List.map_append, List.map_singleton, List.nodup_append_comm,
    List.singleton_append, List.nodup_cons]
  refine ⟨?_, unique⟩
  intro member
  rcases List.mem_map.1 member with ⟨row, stored, same⟩
  have below := id_le_highestId stored
  rw [same] at below
  change run.id ≤ store.highestId at below
  omega

theorem nodup_ids_of_perform (operation : Operation) :
    ((store.perform operation).2.runs.map StoredRun.id).Nodup := by
  cases operation with
  | createRun mode fromTimestamp toTimestamp startedAt =>
      show ((store.createRun mode fromTimestamp toTimestamp startedAt).2.runs.map _).Nodup
      by_cases room : store.highestId < largestSigned
      · rw [createRun_of_room room]
        exact nodup_ids_withRun unique rfl
      · rw [createRun_of_full room]
        exact unique
  | completeRun id completion =>
      show ((store.completeRun id completion).2.runs.map _).Nodup
      rcases completeRun_store store id completion with same | ended
      · rw [same]
        exact unique
      · rw [ended, map_id_withEnd]
        exact unique
  | putMetrics metrics =>
      rw [perform, (putMetrics_frame store metrics).1]
      exact unique
  | _ => exact unique

theorem nodup_ids_of_overwrite
    {after : Store}
    {table column key : String}
    {value : Option Cell}
    {count : Nat}
    (overwritten : store.overwrite table column key value = .ok (count, after)) :
    (after.runs.map StoredRun.id).Nodup := by
  unfold overwrite at overwritten
  split at overwritten
  · simp only [overwriteRuns, bind_eq_ok_iff] at overwritten
    rcases overwritten with ⟨_, -, _, -, distinct, checked, built⟩
    cases built
    have ids := nodup_of_distinctRows checked
    rwa [List.filterMap_eq_map'] at ids
  · split at overwritten
    · simp only [overwriteMetrics, bind_eq_ok_iff] at overwritten
      rcases overwritten with ⟨_, -, _, -, _, -, built⟩
      cases built
      exact unique
    · split at overwritten
      · simp only [overwriteRequests, bind_eq_ok_iff] at overwritten
        rcases overwritten with ⟨_, -, _, -, _, -, built⟩
        cases built
        exact unique
      · cases overwritten

end Numbers

/-- Whatever is called and overwritten, no two runs have one number. -/
theorem nodup_ids_of_handled
    {store : Store}
    (handled : Handled store) :
    (store.runs.map StoredRun.id).Nodup := by
  induction handled with
  | empty => exact List.nodup_nil
  | perform _ operation hypothesis => exact nodup_ids_of_perform hypothesis operation
  | overwrite _ overwritten hypothesis => exact nodup_ids_of_overwrite hypothesis overwritten

/-! ## The two steps -/

/-- A row with a mode that has a meaning reads as the ended run. -/
theorem exists_read_complete
    {row : StoredRun}
    {mode : ImportMode}
    (known : ImportMode.ofName? row.mode = some mode)
    (completion : Completion) :
    ∃ run, (row.complete completion).read = .ok run ∧
      StoredRun.ofRun run = row.complete completion := by
  let run : ImportRun :=
    { id := row.id
      startedAt := row.startedAt
      finishedAt := some completion.finishedAt
      mode := mode
      fromTimestamp := row.fromTimestamp
      toTimestamp := row.toTimestamp
      status := completion.status
      errorMessage := completion.message? }
  have same : StoredRun.ofRun run = row.complete completion := by
    have name : run.mode.name = row.mode := ImportMode.name_of_ofName? known
    rw [StoredRun.ofRun, name]
    rfl
  exact ⟨run, by rw [← same, StoredRun.read_ofRun], same⟩

theorem read_complete_of_unknown
    {row : StoredRun}
    (unknown : ImportMode.ofName? row.mode = none)
    (completion : Completion) :
    (row.complete completion).read = .error (.unexpectedValue 3 "mode" row.mode) := by
  have noMode : readName 3 "mode" (row.complete completion).mode
      (ImportMode.ofName? (row.complete completion).mode) =
        .error (.unexpectedValue 3 "mode" row.mode) := by
    show readName 3 "mode" row.mode (ImportMode.ofName? row.mode) = _
    rw [unknown]
    rfl
  rw [StoredRun.read, noMode]
  rfl

section Steps

variable
    {store : Store}
    (unique : (store.runs.map StoredRun.id).Nodup)
    {row : StoredRun}
    (stored : row ∈ store.runs)
    (running : row.HasStatus .running)
    (completion : Completion)

include running in
theorem StoredRun.HasStatus.isRunning : row.isRunning row.id = true :=
  (StoredRun.isRunning_iff row row.id).2 ⟨rfl, running⟩

include stored running in
theorem mem_runs_withEnd : row.complete completion ∈ (store.withEnd row.id completion).runs :=
  mem_withEnd_iff.2 (.inr ⟨row, stored, running.isRunning, rfl⟩)

include unique stored running

/-- Looking the number up after the first step reads the row that holds the end. -/
theorem run?_withEnd :
    (store.withEnd row.id completion).run? row.id =
      (row.complete completion).read.map some := by
  have uniqueAfter := unique
  rw [← map_id_withEnd store row.id completion] at uniqueAfter
  have found : Table.find? StoredRun.id row.id (store.withEnd row.id completion).runs =
      some (row.complete completion) :=
    (Table.find?_eq_some_iff uniqueAfter).2 ⟨mem_runs_withEnd stored running completion, rfl⟩
  rw [run?, found]

/-- The first step stores the end, and the second one reads the row that holds it. -/
theorem completeRun_eq_read :
    store.completeRun row.id completion =
      ((row.complete completion).read, store.withEnd row.id completion) := by
  have found : (store.runs.any fun other => other.isRunning row.id) = true :=
    List.any_eq_true.2 ⟨row, stored, running.isRunning⟩
  have reads := run?_withEnd unique stored running completion
  unfold withEnd at reads ⊢
  cases read : (row.complete completion).read with
  | ok run =>
      rw [read, Except.map] at reads
      simp only [completeRun, found, if_true, reads]
  | error cause =>
      rw [read, Except.map] at reads
      simp only [completeRun, found, if_true, reads]

/-- Storing the end of a running run changes the store. -/
theorem withEnd_ne : store.withEnd row.id completion ≠ store := by
  intro same
  have ended := mem_runs_withEnd stored running completion
  rw [same] at ended
  have unchanged := List.inj_on_of_nodup_map unique ended stored rfl
  have status : completion.status.name = RunStatus.running.name := by
    rw [← running, ← unchanged]
    rfl
  exact completion.status_ne_running (RunStatus.name_injective status)

end Steps

/-! ## All or nothing -/

/--
The run is given back as it is now stored, with the end that was asked for, or
an error is answered and the store stays as it was.
-/
def AllOrNothing (store : Store) (id : Int) (completion : Completion) :
    Except StoreError ImportRun × Store → Prop
  | (.ok run, after) => after.run? id = .ok (some run) ∧ run.status = completion.status ∧
      run.finishedAt = some completion.finishedAt ∧ run.errorMessage = completion.message?
  | (.error _, after) => after = store

/-- What is answered when a run is asked to end, and what is stored. -/
structure EndsInSteps (store : Store) (id : Int) (completion : Completion)
    (outcome : Except StoreError ImportRun × Store) : Prop where
  idle : (∀ row ∈ store.runs, row.id = id → ¬ row.HasStatus .running) →
    outcome = (.error (.runNotRunning id), store)
  /-- The end of a running run is stored, whatever the rest of its row holds. -/
  stored : ∀ row ∈ store.runs, row.id = id → row.HasStatus .running →
    outcome.2 = store.withEnd id completion ∧ outcome.2 ≠ store
  /-- A run whose mode can be read is given back as it is now stored. -/
  known : ∀ row ∈ store.runs, row.id = id → row.HasStatus .running →
    ∀ mode, ImportMode.ofName? row.mode = some mode →
      ∃ run, outcome.1 = .ok run ∧ outcome.2.run? id = .ok (some run) ∧
        StoredRun.ofRun run = row.complete completion
  /-- For any other run an error is answered, which names the mode. -/
  unknown : ∀ row ∈ store.runs, row.id = id → row.HasStatus .running →
    ImportMode.ofName? row.mode = none →
      outcome.1 = .error (.unexpectedValue 3 "mode" row.mode)
  allOrNothing_iff : AllOrNothing store id completion outcome ↔
    ∀ row ∈ store.runs, row.id = id → row.HasStatus .running →
      ∃ mode, ImportMode.ofName? row.mode = some mode

/--
The end of a run is stored before the run is read, so ending a run is all or
nothing exactly if the mode of the running run can be read.
-/
theorem ends_are_stored_first
    {store : Store}
    (unique : (store.runs.map StoredRun.id).Nodup)
    (id : Int)
    (completion : Completion) :
    EndsInSteps store id completion (store.completeRun id completion) where
  idle none := RunsSound.completeRun_of_idle none completion
  stored row stored sameId running := by
    subst sameId
    rw [completeRun_eq_read unique stored running]
    exact ⟨rfl, withEnd_ne unique stored running completion⟩
  known row stored sameId running mode known := by
    subst sameId
    rcases exists_read_complete known completion with ⟨run, reads, same⟩
    rw [completeRun_eq_read unique stored running]
    refine ⟨run, reads, ?_, same⟩
    rw [run?_withEnd unique stored running, reads]
    rfl
  unknown row stored sameId running unknown := by
    subst sameId
    rw [completeRun_eq_read unique stored running]
    exact read_complete_of_unknown unknown completion
  allOrNothing_iff := by
    constructor
    · intro allOrNothing row stored sameId running
      subst sameId
      rw [completeRun_eq_read unique stored running] at allOrNothing
      rw [← Option.ne_none_iff_exists']
      intro unknown
      rw [read_complete_of_unknown unknown] at allOrNothing
      exact withEnd_ne unique stored running completion allOrNothing
    · intro readable
      by_cases idle : ∀ row ∈ store.runs, row.id = id → ¬ row.HasStatus .running
      · rw [RunsSound.completeRun_of_idle idle]
        rfl
      · push Not at idle
        rcases idle with ⟨row, stored, rfl, running⟩
        rcases readable row stored rfl running with ⟨mode, known⟩
        rcases exists_read_complete known completion with ⟨run, reads, same⟩
        have isStored := run?_withEnd unique stored running completion
        rw [completeRun_eq_read unique stored running, reads]
        rw [reads] at isStored
        refine ⟨isStored, ?_, congrArg StoredRun.finishedAt same,
          congrArg StoredRun.errorMessage same⟩
        exact RunStatus.name_injective (congrArg StoredRun.status same)

/-! ## A mode without meaning -/

def firstMoment : String := "2025-03-01T00:00:00.000Z"

/-- A store with one run, which is running and whose mode was overwritten. -/
def bogusStore : Store :=
  { Store.empty with
    runs :=
      [{ StoredRun.ofRun (ImportRun.opening 1 .full none firstMoment firstMoment) with
          mode := "bogus" }]
    lastId := 1 }

theorem overwrite_mode :
    (Store.empty.perform (.createRun .full none firstMoment firstMoment)).2.overwrite
        importsTable "mode" "1" (some (.text "bogus")) =
      .ok (1, bogusStore) := by
  have name : columnName "mode" = "mode" := by decide +kernel
  have column : requireColumn runColumns "mode" = .ok () := by
    rw [requireColumn, name]
    rfl
  rw [overwrite, if_pos rfl, overwriteRuns, column]
  simp only [StoredRun.overwrite, name]
  rfl

theorem handled_bogusStore : Handled bogusStore :=
  (Handled.empty.perform _).overwrite overwrite_mode

theorem ends_are_stored_first_bogus :
    (bogusStore.runs.map StoredRun.id).Nodup ∧
      EndsInSteps bogusStore 1 (.success firstMoment)
        (bogusStore.completeRun 1 (.success firstMoment)) := by
  have unique := nodup_ids_of_handled handled_bogusStore
  exact ⟨unique, ends_are_stored_first unique 1 (.success firstMoment)⟩

/-- A run whose mode has no meaning is ended, and an error is answered. -/
theorem bogus_run_is_ended :
    Handled bogusStore ∧
      (∃ row ∈ bogusStore.runs, row.HasStatus .running) ∧
      (∃ after,
        bogusStore.completeRun 1 (.success firstMoment) =
            (.error (.unexpectedValue 3 "mode" "bogus"), after) ∧
          ∃ row ∈ after.runs, row.HasStatus .success) ∧
      ¬ AllOrNothing bogusStore 1 (.success firstMoment)
        (bogusStore.completeRun 1 (.success firstMoment)) := by
  refine ⟨handled_bogusStore, ⟨_, List.mem_singleton_self _, rfl⟩,
    ⟨_, rfl, _, List.mem_singleton_self _, rfl⟩, ?_⟩
  intro unchanged
  have status := congrArg (fun store => store.runs.map StoredRun.status) unchanged
  revert status
  decide

end UsageLedger.Store
