import UsageLedger.Proofs.Operations

/-!
# The life of a run

A run is created running, under a number above all others, and ends at most
once, as a success or as a failure with a message.  `RunLifecycle` collects
what holds of a store at any moment; `runs_live_once` says that it holds of
every store that operations lead to, and that whatever is done afterwards
leaves in place what a run was created with and all of a run that has ended.
-/

namespace UsageLedger

theorem ImportRun.Consistent.cases {run : ImportRun} (consistent : run.Consistent) :
    (run.status = .running ∧ run.finishedAt = none ∧ run.errorMessage = none) ∨
      (run.status = .success ∧ run.finishedAt.isSome ∧ run.errorMessage = none) ∨
      (run.status = .failed ∧ run.finishedAt.isSome ∧ run.errorMessage.isSome) := by
  unfold ImportRun.Consistent at consistent
  cases status : run.status with
  | running =>
      rw [status] at consistent
      exact Or.inl ⟨rfl, consistent⟩
  | success =>
      rw [status] at consistent
      exact Or.inr (Or.inl ⟨rfl, consistent⟩)
  | failed =>
      rw [status] at consistent
      exact Or.inr (Or.inr ⟨rfl, consistent⟩)

namespace Store

/--
What becomes of a store in which a run is created: the run is running, its
number is above all others, it is the one row that is added, and looking its
number up finds it.
-/
structure Created (before : Store) (run : ImportRun) (after : Store) : Prop where
  running : run.status = .running ∧ run.finishedAt = none ∧ run.errorMessage = none
  above : ∀ row ∈ before.runs, row.id < run.id
  only : after =
    { before with runs := before.runs ++ [StoredRun.ofRun run], lastId := run.id }
  found : after.run? run.id = .ok (some run)

/--
What becomes of a store in which a run is ended: the row with its number gets
the end, the status and the message, nothing else changes, and looking the
number up finds the ended run.
-/
structure EndedRun (before : Store) (id : Int) (completion : Completion)
    (run : ImportRun) (after : Store) : Prop where
  only : after =
    { before with
      runs := before.runs.map fun row =>
        if row.id = id then
          { row with
            finishedAt := some completion.finishedAt
            status := completion.status.name
            errorMessage := completion.message? }
        else row }
  found : after.run? id = .ok (some run)

/-- What holds of the runs of a store at any moment. -/
structure RunLifecycle (store : Store) : Prop where
  /-- Numbers rise in the order of creation. -/
  numbered : store.runs.Pairwise fun first second => first.id < second.id
  /-- A row reads as a run whose end and message fit its status. -/
  consistent : ∀ row ∈ store.runs,
    ∃ run : ImportRun, row.read = .ok run ∧ row = StoredRun.ofRun run ∧
      ((run.status = .running ∧ run.finishedAt = none ∧ run.errorMessage = none) ∨
        (run.status = .success ∧ run.finishedAt.isSome ∧ run.errorMessage = none) ∨
        (run.status = .failed ∧ run.finishedAt.isSome ∧ run.errorMessage.isSome))
  /-- A run is created with what was asked for, unless no number is left. -/
  creates : ∀ (mode : ImportMode) (fromTimestamp : Option String)
      (toTimestamp startedAt : String),
    (∃ run after,
      store.createRun mode fromTimestamp toTimestamp startedAt = (.ok run, after) ∧
        run.mode = mode ∧ run.fromTimestamp = fromTimestamp ∧
        run.toTimestamp = toTimestamp ∧ run.startedAt = startedAt ∧
        Created store run after) ∨
      ((largestSigned : Int) ≤ store.highestId ∧
        store.createRun mode fromTimestamp toTimestamp startedAt =
          (.error .noNumberLeft, store))
  /-- A run is ended exactly when it is stored and running. -/
  ends : ∀ (id : Int) (completion : Completion),
    ((∃ row ∈ store.runs, row.id = id ∧ row.HasStatus .running) ∧
      ∃ run after,
        store.completeRun id completion = (.ok run, after) ∧
          EndedRun store id completion run after) ∨
      ((¬ ∃ row ∈ store.runs, row.id = id ∧ row.HasStatus .running) ∧
        store.completeRun id completion = (.error (.runNotRunning id), store))

theorem RunsSound.created
    {store : Store}
    (sound : RunsSound store)
    {run : ImportRun}
    (running : run.status = .running ∧ run.finishedAt = none ∧ run.errorMessage = none)
    (next : run.id = store.highestId + 1) :
    Created store run (store.withRun run) where
  running := running
  above row member := by
    rw [next]
    exact sound.id_lt_next member
  only := rfl
  found := by
    have consistent : run.Consistent := by
      unfold ImportRun.Consistent
      rw [running.1]
      exact running.2
    refine (sound.withRun consistent next).run?_eq_some_iff.2 ⟨?_, rfl⟩
    exact List.mem_append_right _ (List.mem_singleton.2 rfl)

/-- Where a number belongs to a running run, filling its end in changes the row with that number. -/
theorem RunsSound.withEnd_eq
    {store : Store}
    (sound : RunsSound store)
    {run : ImportRun}
    (member : StoredRun.ofRun run ∈ store.runs)
    (running : run.status = .running)
    (completion : Completion) :
    store.withEnd run.id completion =
      { store with
        runs := store.runs.map fun row =>
          if row.id = run.id then row.complete completion else row } := by
  unfold Store.withEnd
  have sameRows :
      (store.runs.map fun row =>
        if row.isRunning run.id then row.complete completion else row) =
        store.runs.map fun row =>
          if row.id = run.id then row.complete completion else row := by
    refine List.map_congr_left fun row isRow => ?_
    by_cases sameId : row.id = run.id
    · have same := sound.eq_of_id_eq isRow member sameId
      have isRunning : row.isRunning run.id = true := by
        rw [StoredRun.isRunning_iff]
        refine ⟨sameId, ?_⟩
        rw [same]
        exact (StoredRun.hasStatus_ofRun run .running).2 running
      rw [if_pos isRunning, if_pos sameId]
    · have idle : ¬ row.isRunning run.id = true := by
        rw [StoredRun.isRunning_iff]
        rintro ⟨equal, -⟩
        exact sameId equal
      rw [if_neg idle, if_neg sameId]
  rw [sameRows]

theorem RunsSound.ended
    {store : Store}
    (sound : RunsSound store)
    {run : ImportRun}
    (member : StoredRun.ofRun run ∈ store.runs)
    (running : run.status = .running)
    (completion : Completion) :
    EndedRun store run.id completion (run.complete completion)
      (store.withEnd run.id completion) where
  only := sound.withEnd_eq member running completion
  found := by
    refine (sound.withEnd run.id completion).run?_eq_some_iff.2 ⟨?_, rfl⟩
    refine mem_withEnd_iff.2 (Or.inr ⟨_, member, ?_, rfl⟩)
    exact (StoredRun.isRunning_iff _ _).2
      ⟨rfl, (StoredRun.hasStatus_ofRun run .running).2 running⟩

theorem RunsSound.lifecycle
    {store : Store}
    (sound : RunsSound store) :
    RunLifecycle store where
  numbered := sound.ordered
  consistent row member := by
    rcases sound.rows row member with ⟨run, rfl, consistent⟩
    exact ⟨run, StoredRun.read_ofRun run, rfl, consistent.cases⟩
  creates mode fromTimestamp toTimestamp startedAt := by
    by_cases room : store.highestId < largestSigned
    · refine Or.inl ⟨_, _, createRun_of_room room mode fromTimestamp toTimestamp
        startedAt, rfl, rfl, rfl, rfl, ?_⟩
      exact sound.created ⟨rfl, rfl, rfl⟩ rfl
    · exact Or.inr ⟨Int.not_lt.1 room,
        createRun_of_full room mode fromTimestamp toTimestamp startedAt⟩
  ends id completion := by
    rcases sound.completeRun_cases id completion with
      ⟨run, member, rfl, running, ended⟩ | ⟨idle, refused⟩
    · refine Or.inl ⟨⟨_, member, rfl, ?_⟩, _, _, ended, ?_⟩
      · exact (StoredRun.hasStatus_ofRun run .running).2 running
      · exact sound.ended member running completion
    · refine Or.inr ⟨?_, refused⟩
      rintro ⟨row, member, sameId, status⟩
      exact idle row member sameId status

/--
Whatever is done to an empty store, its runs have the lifecycle, and whatever
is done afterwards lets them continue.
-/
theorem runs_live_once (operations : List Operation) :
    RunLifecycle (Store.empty.after operations) ∧
      ∀ more : List Operation,
        RunsContinue (Store.empty.after operations)
          (Store.empty.after (operations ++ more)) := by
  have sound := (sound_empty.after operations).1
  constructor
  · exact sound.runs.lifecycle
  · intro more
    rw [after_append]
    exact (sound.after more).2

end Store

end UsageLedger
