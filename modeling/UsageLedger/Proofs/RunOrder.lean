import UsageLedger.Proofs.Interleaving

/-!
# Runs in their order

When imports run one after another over a clock that never goes back, the
order of the numbers of runs is also the order of their bounds and of their
ends.  The checkpoint, which is chosen by the ends, is then the successful run
with the highest number.

`StageStep.keeps_order` is the step of the proof: whatever the import inside
does next, the runs stay in order if the clock has not gone back.
-/

namespace UsageLedger

open UsageLedger.Calendar
open UsageLedger.Store
open UsageLedger.Telemetry

/-! ## Runs in order -/

/-- A run is over when the next one exists, and neither its bound nor its end is later. -/
structure Before (first second : StoredRun) : Prop where
  isOver : ¬ first.HasStatus .running
  toTimestamp : first.toTimestamp ≤ second.toTimestamp
  finishedAt : ∀ firstEnd secondEnd, first.finishedAt = some firstEnd →
    second.finishedAt = some secondEnd → firstEnd ≤ secondEnd

/-- A start at the successful run with the highest number below a number, if there is one. -/
def StartsAtHighest (store : Store) (id : Int) (mode : String)
    (start : Option String) : Prop :=
  (mode = ImportMode.full.name ∧ start = none ∧
    ∀ row ∈ store.runs, row.id < id → ¬ row.HasStatus .success) ∨
  ∃ earlier ∈ store.runs, earlier.id < id ∧ earlier.HasStatus .success ∧
    (∀ row ∈ store.runs, row.id < id → row.HasStatus .success →
      row.id ≤ earlier.id) ∧
    mode = ImportMode.incremental.name ∧ start = some earlier.toTimestamp

/-- A store whose runs are in order, with no text in them but those of the clock. -/
structure InOrder (texts : List String) (store : Store) : Prop where
  sound : RunsSound store
  bounds : ∀ row ∈ store.runs, row.toTimestamp ∈ texts
  ends : ∀ row ∈ store.runs, ∀ text, row.finishedAt = some text → text ∈ texts
  before : ∀ first ∈ store.runs, ∀ second ∈ store.runs,
    first.id < second.id → Before first second
  starts : ∀ row ∈ store.runs,
    StartsAtHighest store row.id row.mode row.fromTimestamp

/-- A text of the clock that no other one exceeds. -/
def IsLatest (texts : List String) (text : String) : Prop :=
  text ∈ texts ∧ ∀ other ∈ texts, other ≤ text

theorem isLatest_read
    {texts : List String}
    {reading : Instant}
    (onward : ∀ text ∈ texts, text ≤ reading.text) :
    IsLatest (texts ++ [reading.text]) reading.text := by
  refine ⟨List.mem_append_right _ (List.mem_singleton.2 rfl), ?_⟩
  intro other member
  rcases List.mem_append.1 member with earlier | same
  · exact onward other earlier
  · cases List.mem_singleton.1 same
    exact String.le_refl _

theorem StartsAtHighest.congr
    {store later : Store}
    {id : Int}
    {mode : String}
    {start : Option String}
    (same : ∀ row : StoredRun, row.id < id → (row ∈ later.runs ↔ row ∈ store.runs))
    (starts : StartsAtHighest store id mode start) :
    StartsAtHighest later id mode start := by
  rcases starts with ⟨full, noStart, none⟩ |
    ⟨earlier, stored, below, succeeded, highest, bounds⟩
  · refine Or.inl ⟨full, noStart, ?_⟩
    intro row member less
    exact none row ((same row less).1 member) less
  · refine Or.inr ⟨earlier, (same earlier below).2 stored, below, succeeded, ?_, bounds⟩
    intro row member less
    exact highest row ((same row less).1 member) less

theorem InOrder.of_empty {store : Store} (empty : store.runs = []) :
    InOrder [] store where
  sound := .of_empty empty
  bounds := by
    rw [empty]
    intro row member
    cases member
  ends := by
    rw [empty]
    intro row member
    cases member
  before := by
    rw [empty]
    intro row member
    cases member
  starts := by
    rw [empty]
    intro row member
    cases member

namespace InOrder

variable {texts : List String} {store : Store} (ordered : InOrder texts store)

include ordered

theorem of_eq
    {after : Store}
    (sameRuns : after.runs = store.runs)
    (sameId : after.lastId = store.lastId) :
    InOrder texts after where
  sound := ordered.sound.of_eq sameRuns sameId
  bounds := by
    rw [sameRuns]
    exact ordered.bounds
  ends := by
    rw [sameRuns]
    exact ordered.ends
  before := by
    rw [sameRuns]
    exact ordered.before
  starts := by
    intro row member
    rw [sameRuns] at member
    refine (ordered.starts row member).congr ?_
    intro other less
    rw [sameRuns]

/-- The clock may be read further. -/
theorem read (more : List String) : InOrder (texts ++ more) store where
  sound := ordered.sound
  bounds row member := List.mem_append_left _ (ordered.bounds row member)
  ends row member text ended := List.mem_append_left _ (ordered.ends row member text ended)
  before := ordered.before
  starts := ordered.starts

/-- The checkpoint is the successful run with the highest number. -/
theorem highest_of_checkpoint
    {last : Option ImportRun}
    (checkpoint : store.IsCheckpoint last)
    (now : Instant) :
    StartsAtHighest store (store.highestId + 1) (windowFor last now).mode.name
      (windowFor last now).fromTimestamp := by
  cases last with
  | none => exact Or.inl ⟨rfl, rfl, fun row member _ => checkpoint row member⟩
  | some run =>
      rcases checkpoint with ⟨stored, succeeded, latest⟩
      refine Or.inr ⟨StoredRun.ofRun run, stored, ordered.sound.id_lt_next stored,
        (StoredRun.hasStatus_ofRun run .success).2 succeeded, ?_, rfl, rfl⟩
      intro row member _ rowSucceeded
      rcases ordered.sound.finishedAt_of_over member rowSucceeded.not_running with
        ⟨rowEnd, rowEnded⟩
      have ended := (StoredRun.hasStatus_ofRun run .success).2 succeeded
      rcases ordered.sound.finishedAt_of_over stored ended.not_running with
        ⟨runEnd, runEnded⟩
      have chosen := latest row member rowSucceeded
      by_contra notBelow
      have above : (StoredRun.ofRun run).id < row.id := Int.lt_of_not_ge notBelow
      have inOrder := (ordered.before _ stored row member above).finishedAt
        runEnd rowEnd runEnded rowEnded
      rw [StoredRun.finishesNoEarlier, runEnded, rowEnded] at chosen
      -- The checkpoint ends no earlier, so both end at once; then the higher number is chosen.
      by_cases sameEnd : runEnd = rowEnd
      · rw [if_pos (congrArg some sameEnd)] at chosen
        exact notBelow (of_decide_eq_true chosen)
      · rw [if_neg fun equal => sameEnd (Option.some.inj equal)] at chosen
        exact sameEnd (String.le_antisymm inOrder (of_decide_eq_true chosen))

/-- A run may be created when no other run is running. -/
theorem withRun
    {window : ImportWindow}
    (idle : ∀ row ∈ store.runs, ¬ row.HasStatus .running)
    (latest : IsLatest texts window.toTimestamp)
    (starts : StartsAtHighest store (store.highestId + 1) window.mode.name
      window.fromTimestamp) :
    InOrder texts (store.withRun (store.runFor window)) := by
  have isNew : ∀ {row : StoredRun}, row ∈ (store.withRun (store.runFor window)).runs →
      row ∈ store.runs ∨ row = StoredRun.ofRun (store.runFor window) := by
    intro row member
    exact (List.mem_append.1 member).imp_right List.mem_singleton.1
  have continues : RunsContinue store (store.withRun (store.runFor window)) :=
    ordered.sound.continues_withRun rfl
  refine ⟨ordered.sound.withRun (ImportRun.consistent_opening _ _ _ _ _) rfl,
    ?_, ?_, ?_, ?_⟩
  · intro row member
    rcases isNew member with old | rfl
    · exact ordered.bounds row old
    · exact latest.1
  · intro row member text ended
    rcases isNew member with old | rfl
    · exact ordered.ends row old text ended
    · cases ended
  · intro first firstRow second secondRow less
    rcases isNew secondRow with secondOld | rfl
    · rcases isNew firstRow with firstOld | rfl
      · exact ordered.before first firstOld second secondOld less
      · exact absurd (ordered.sound.id_lt_next secondOld) (Int.not_lt.2 (Int.le_of_lt less))
    · rcases isNew firstRow with firstOld | rfl
      · exact ⟨idle first firstOld, latest.2 _ (ordered.bounds first firstOld),
          fun _ _ _ ended => by cases ended⟩
      · exact absurd less (Int.lt_irrefl _)
  · intro row member
    rcases isNew member with old | rfl
    · exact (ordered.starts row old).congr
        (continues.mem_below_iff old fun other isOld _ => idle other isOld)
    · refine starts.congr ?_
      intro row below
      constructor
      · intro member
        rcases isNew member with old | rfl
        · exact old
        · exact absurd below (Int.lt_irrefl _)
      · intro old
        exact List.mem_append_left _ old

/-- A running run may end at the latest reading of the clock. -/
theorem withEnd
    {run : ImportRun}
    (stored : StoredRun.ofRun run ∈ store.runs)
    (running : run.status = .running)
    {completion : Completion}
    (latest : IsLatest texts completion.finishedAt) :
    InOrder texts (store.withEnd run.id completion) := by
  have isOld : ∀ {row : StoredRun}, row ∈ (store.withEnd run.id completion).runs →
      row ∈ store.runs ∨
        row = (StoredRun.ofRun run).complete completion := by
    intro row member
    rcases mem_withEnd_iff.1 member with ⟨old, -⟩ | ⟨old, oldRow, isRunning, rfl⟩
    · exact Or.inl old
    · have sameId := ((StoredRun.isRunning_iff old run.id).1 isRunning).1
      rw [ordered.sound.eq_of_id_eq oldRow stored sameId]
      exact Or.inr rfl
  have isRunning : (StoredRun.ofRun run).HasStatus .running :=
    (StoredRun.hasStatus_ofRun run .running).2 running
  have continues : RunsContinue store (store.withEnd run.id completion) :=
    RunsSound.continues_withEnd run.id completion
  refine ⟨ordered.sound.withEnd run.id completion, ?_, ?_, ?_, ?_⟩
  · intro row member
    rcases isOld member with old | rfl
    · exact ordered.bounds row old
    · exact ordered.bounds (StoredRun.ofRun run) stored
  · intro row member text ended
    rcases isOld member with old | rfl
    · exact ordered.ends row old text ended
    · cases ended
      exact latest.1
  · intro first firstRow second secondRow less
    rcases isOld firstRow with firstOld | rfl
    · rcases isOld secondRow with secondOld | rfl
      · exact ordered.before first firstOld second secondOld less
      · have before := ordered.before first firstOld _ stored less
        refine ⟨before.isOver, before.toTimestamp, ?_⟩
        intro firstEnd secondEnd ended secondEnded
        cases secondEnded
        exact latest.2 _ (ordered.ends first firstOld firstEnd ended)
    · -- No run has a higher number than a running one.
      have nothingAbove : ∀ row ∈ store.runs, ¬ run.id < row.id := fun row member above =>
        (ordered.before _ stored row member above).isOver isRunning
      rcases isOld secondRow with secondOld | rfl
      · exact absurd less (nothingAbove second secondOld)
      · exact absurd less (Int.lt_irrefl _)
  · intro row member
    have fromOld : ∀ old ∈ store.runs, StartsAtHighest
        (store.withEnd run.id completion) old.id old.mode old.fromTimestamp := by
      intro old oldRow
      refine (ordered.starts old oldRow).congr (continues.mem_below_iff oldRow ?_)
      intro other otherRow below
      exact (ordered.before other otherRow old oldRow below).isOver
    rcases isOld member with old | rfl
    · exact fromOld row old
    · exact fromOld (StoredRun.ofRun run) stored

end InOrder

/-! ## The import inside -/

/-- The run that an import has created and not ended yet. -/
def Stage.pending? : Stage → Option ImportRun
  | .opened _ run => some run
  | .halfway _ run => some run
  | .fetched _ run _ => some run
  | .closing _ run _ _ => some run
  | _ => none

/-- The readings that the next step of an import takes from a clock. -/
def Stage.taken (reading : Instant) : Stage → List Instant
  | .ready => [reading]
  | .fetched _ _ _ => [reading]
  | _ => []

/-- What an import knows is up to date. -/
def Stage.UpToDate (texts : List String) (store : Store) : Stage → Prop
  | .timed now => IsLatest texts now.text
  | .planned window =>
      IsLatest texts window.toTimestamp ∧
        StartsAtHighest store (store.highestId + 1) window.mode.name
          window.fromTimestamp
  | .closing _ _ _ finished => IsLatest texts finished.text
  | _ => True

/--
An import that is the only one: no run is running but its own, and what it knows
is up to date.
-/
structure Stage.Alone (texts : List String) (store : Store) (stage : Stage) : Prop where
  pending : ∀ row ∈ store.runs, row.HasStatus .running →
    ∃ run, stage.pending? = some run ∧ run.id = row.id
  upToDate : stage.UpToDate texts store

variable {ι : Type}

/-- Whatever the only import does next, the runs stay in order if the clock does not go back. -/
theorem StageStep.keeps_order
    {move : Move ι}
    {store after : Store}
    {stage next : Stage}
    (step : StageStep move store stage next after)
    {texts : List String}
    (ordered : InOrder texts store)
    (alone : stage.Alone texts store)
    (onward : ∀ reading ∈ stage.taken move.reading, ∀ text ∈ texts,
      text ≤ reading.text) :
    InOrder (texts ++ (stage.taken move.reading).map Instant.text) after ∧
      next.Alone (texts ++ (stage.taken move.reading).map Instant.text) after := by
  cases step with
  | readsClock =>
      exact ⟨ordered.read _, alone.pending,
        isLatest_read (onward move.reading (List.mem_singleton.2 rfl))⟩
  | plans now last checkpoint =>
      simp only [Stage.taken, List.map_nil, List.append_nil]
      refine ⟨ordered, alone.pending, ?_, ordered.highest_of_checkpoint checkpoint now⟩
      rw [windowFor_toTimestamp]
      exact alone.upToDate
  | opens window room =>
      simp only [Stage.taken, List.map_nil, List.append_nil]
      have idle : ∀ row ∈ store.runs, ¬ row.HasStatus .running := by
        intro row member running
        rcases alone.pending row member running with ⟨run, none, -⟩
        cases none
      rcases alone.upToDate with ⟨latest, starts⟩
      refine ⟨ordered.withRun idle latest starts, ?_, trivial⟩
      intro row member running
      rcases List.mem_append.1 member with old | new
      · exact absurd running (idle row old)
      · rw [List.mem_singleton.1 new]
        exact ⟨_, rfl, rfl⟩
  | readsClockAgain window run outcome =>
      exact ⟨ordered.read _, alone.pending,
        isLatest_read (onward move.reading (List.mem_singleton.2 rfl))⟩
  | closes window run outcome finished stored member sameId running =>
      simp only [Stage.taken, List.map_nil, List.append_nil]
      have latest : IsLatest texts (completionOf outcome finished).finishedAt := by
        rw [finishedAt_completionOf]
        exact alone.upToDate
      rw [← sameId]
      refine ⟨ordered.withEnd member running latest, ?_, trivial⟩
      intro row isRow isRunning
      rcases mem_withEnd_iff.1 isRow with ⟨old, idle⟩ | ⟨old, oldRow, -, rfl⟩
      · rcases alone.pending row old isRunning with ⟨pending, isPending, isId⟩
        cases isPending
        exact absurd ((StoredRun.isRunning_iff row stored.id).2
          ⟨isId.symm.trans sameId.symm, isRunning⟩) idle
      · exact absurd (RunStatus.name_injective isRunning)
          (Completion.status_ne_running _)
  | findsNoRun window run outcome finished idle =>
      simp only [Stage.taken, List.map_nil, List.append_nil]
      refine ⟨ordered, ?_, trivial⟩
      intro row member running
      rcases alone.pending row member running with ⟨pending, isPending, sameId⟩
      cases isPending
      exact absurd running (idle row member sameId.symm)
  | takesMetrics window run rows answer =>
      simp only [Stage.taken, List.map_nil, List.append_nil]
      exact ⟨ordered.of_eq rfl rfl, alone.pending, trivial⟩
  | takesObservations window run rows answer =>
      simp only [Stage.taken, List.map_nil, List.append_nil]
      exact ⟨ordered.of_eq rfl rfl, alone.pending, trivial⟩
  | rests resting result isOver =>
      cases stage with
      | closed => exact ⟨ordered.read _, alone.pending, trivial⟩
      | refused => exact ⟨ordered.read _, alone.pending, trivial⟩
      | _ => cases isOver
  | _ => exact ⟨ordered.read _, alone.pending, trivial⟩

end UsageLedger
