import Mathlib.Logic.Relation
import UsageLedger.Proofs.InstantOrder
import UsageLedger.Proofs.Interleaving

/-!
# No gap between imports

Imports may be under way at the same time, their steps in any order, with any
clock and any answers of the source.  Still every run starts where a run ended
that had succeeded before this one was created, or else it is a full one.

The invariant is `Imports.Linked`: the windows that imports hold were planned
from runs that have succeeded, and every stored run belongs to the import that
created it.  `imports_leave_no_gap` adds when the earlier run succeeded, for
which it looks at the moves one after another.
-/

namespace UsageLedger

open UsageLedger.Calendar
open UsageLedger.Store
open UsageLedger.Telemetry

/-! ## Windows and the rows that are created for them -/

/-- What holds of a window once it is planned over a store. -/
structure PlannedOver (store : Store) (window : ImportWindow) : Prop where
  toDate : window.toDate = dateOfTimestamp window.toTimestamp
  start :
    (window.mode = .full ∧ window.fromTimestamp = none) ∨
      ∃ earlier ∈ store.runs, earlier.HasStatus .success ∧
        window.mode = .incremental ∧
        window.fromTimestamp = some earlier.toTimestamp ∧
        window.fromDate = dateOfTimestamp earlier.toTimestamp

theorem plannedOver_windowFor
    {store : Store}
    {last : Option ImportRun}
    (checkpoint : store.IsCheckpoint last)
    (now : Instant) :
    PlannedOver store (windowFor last now) := by
  have toDate : now.date.text = dateOfTimestamp now.text :=
    (dateOfTimestamp_text now).symm
  cases last with
  | none => exact ⟨toDate, Or.inl ⟨rfl, rfl⟩⟩
  | some run =>
      rcases checkpoint with ⟨member, succeeded, -⟩
      exact ⟨toDate, Or.inr ⟨StoredRun.ofRun run, member,
        (StoredRun.hasStatus_ofRun run .success).2 succeeded, rfl, rfl, rfl⟩⟩

theorem PlannedOver.continues
    {earlier later : Store}
    (continues : RunsContinue earlier later)
    {window : ImportWindow}
    (planned : PlannedOver earlier window) :
    PlannedOver later window := by
  rcases planned with ⟨toDate, full | ⟨row, member, succeeded, starts⟩⟩
  · exact ⟨toDate, Or.inl full⟩
  · exact ⟨toDate, Or.inr ⟨row,
      continues.mem_of_ended member succeeded.not_running,
      succeeded, starts⟩⟩

/-- A row has the bounds of a window. -/
structure OpenedFor (window : ImportWindow) (row : StoredRun) : Prop where
  mode : row.mode = window.mode.name
  fromTimestamp : row.fromTimestamp = window.fromTimestamp
  toTimestamp : row.toTimestamp = window.toTimestamp

theorem OpenedFor.continues
    {window : ImportWindow}
    {row later : StoredRun}
    (opened : OpenedFor window row)
    (becomes : row.Continues later) :
    OpenedFor window later where
  mode := becomes.mode.trans opened.mode
  fromTimestamp := becomes.fromTimestamp.trans opened.fromTimestamp
  toTimestamp := becomes.toTimestamp.trans opened.toTimestamp

theorem openedFor_runFor (store : Store) (window : ImportWindow) :
    OpenedFor window (StoredRun.ofRun (store.runFor window)) :=
  ⟨rfl, rfl, rfl⟩

/-- An import that has created its run holds its window. -/
theorem Stage.window?_of_opening?
    {stage : Stage}
    {window : ImportWindow}
    {run : ImportRun}
    (holds : stage.opening? = some (window, run)) :
    stage.window? = some window := by
  cases stage <;> cases holds <;> rfl

/-! ## Imports and the runs they created -/

section Interleaved

variable {ι : Type}

/-- The window that the run with a number was created for. -/
def Imports.HasWindow (imports : Imports ι) (id : Int) (window : ImportWindow) :
    Prop :=
  ∃ call run, (imports.stages call).opening? = some (window, run) ∧ run.id = id

/-- What holds between a store and the imports over it at any time. -/
structure Imports.Linked (imports : Imports ι) : Prop where
  sound : RunsSound imports.store
  planned : ∀ call window, (imports.stages call).window? = some window →
    PlannedOver imports.store window
  opened : ∀ window id, imports.HasWindow id window →
    ∃ row ∈ imports.store.runs, row.id = id ∧ OpenedFor window row
  owned : ∀ row ∈ imports.store.runs, ∃ window, imports.HasWindow row.id window

theorem linked_fresh {store : Store} (empty : store.runs = []) :
    (Imports.fresh store : Imports ι).Linked where
  sound := RunsSound.of_empty empty
  planned := by
    intro call window holds
    cases holds
  opened := by
    rintro window id ⟨call, run, holds, -⟩
    cases holds
  owned := by
    intro row member
    have inEmpty : row ∈ store.runs := member
    rw [empty] at inEmpty
    cases inEmpty

variable [DecidableEq ι]

/-- A window stays the one that a run was created for. -/
theorem Imports.HasWindow.step
    {imports : Imports ι}
    (sound : RunsSound imports.store)
    (move : Move ι)
    {id : Int}
    {window : ImportWindow}
    (holds : imports.HasWindow id window) :
    (imports.step move).HasWindow id window := by
  rcases Imports.step_cases sound move with ⟨step, others⟩
  rcases holds with ⟨call, run, opening, sameId⟩
  refine ⟨call, run, ?_, sameId⟩
  by_cases moved : call = move.call
  · subst moved
    exact step.opening_kept opening
  · rw [others call moved]
    exact opening

/-- Every step keeps the imports linked to the store. -/
theorem Imports.Linked.step
    {imports : Imports ι}
    (linked : imports.Linked)
    (move : Move ι) :
    (imports.step move).Linked := by
  rcases Imports.step_cases linked.sound move with ⟨step, others⟩
  rcases step.keeps_sound linked.sound with ⟨sound, continues⟩
  refine ⟨sound, ?_, ?_, ?_⟩
  · intro call window holds
    by_cases moved : call = move.call
    · subst moved
      rcases step.window_cases holds with before | ⟨now, last, checkpoint, rfl⟩
      · exact (linked.planned _ window before).continues continues
      · exact (plannedOver_windowFor checkpoint now).continues continues
    · rw [others call moved] at holds
      exact (linked.planned call window holds).continues continues
  · rintro window id ⟨call, run, holds, sameId⟩
    have ofOld : imports.HasWindow id window →
        ∃ row ∈ (imports.step move).store.runs, row.id = id ∧ OpenedFor window row := by
      intro before
      rcases linked.opened window id before with ⟨row, member, rowId, opened⟩
      rcases continues.kept row member with ⟨later, laterRow, becomes⟩
      exact ⟨later, laterRow, becomes.id.trans rowId, opened.continues becomes⟩
    by_cases moved : call = move.call
    · subst moved
      rcases step.opening_cases holds with before | ⟨-, isRun, isStore⟩
      · exact ofOld ⟨_, run, before, sameId⟩
      · rw [isStore]
        refine ⟨StoredRun.ofRun run, List.mem_append_right _ List.mem_cons_self,
          sameId, ?_⟩
        rw [isRun]
        exact openedFor_runFor _ window
    · rw [others call moved] at holds
      exact ofOld ⟨call, run, holds, sameId⟩
  · intro row member
    rcases step.added member with ⟨old, oldRow, becomes⟩ | ⟨window, -, isNext, rfl⟩
    · rcases linked.owned old oldRow with ⟨window, holds⟩
      rw [becomes.id]
      exact ⟨window, holds.step linked.sound move⟩
    · refine ⟨window, move.call, _, ?_, rfl⟩
      rw [isNext]
      rfl

theorem Imports.Linked.after
    {imports : Imports ι}
    (linked : imports.Linked)
    (moves : List (Move ι)) :
    (imports.after moves).Linked ∧
      RunsContinue imports.store (imports.after moves).store := by
  induction moves using List.reverseRecOn with
  | nil => exact ⟨linked, .refl _⟩
  | append_singleton moves move hypothesis =>
      rcases hypothesis with ⟨linkedBefore, continues⟩
      rw [Imports.after_concat]
      have step := (Imports.step_cases linkedBefore.sound move).1
      exact ⟨linkedBefore.step move,
        continues.trans (step.keeps_sound linkedBefore.sound).2⟩

/-! ## Which run a run starts from -/

/-- After some moves, the next one creates the run with a number. -/
def Imports.Creates (start : Imports ι) (moves : List (Move ι)) (move : Move ι)
    (id : Int) : Prop :=
  (∀ row ∈ (start.after moves).store.runs, row.id ≠ id) ∧
    ∃ row ∈ ((start.after moves).step move).store.runs, row.id = id

/-- A run starts where an earlier one ended that had succeeded before this one was created. -/
structure Follows (start : Imports ι) (moves : List (Move ι))
    (row earlier : StoredRun) : Prop where
  older : earlier.id < row.id
  mode : row.mode = ImportMode.incremental.name
  starts : row.fromTimestamp = some earlier.toTimestamp
  succeeded : earlier.HasStatus .success
  inTime : ∃ first move rest, moves = first ++ move :: rest ∧
    start.Creates first move row.id ∧ earlier ∈ (start.after first).store.runs

theorem Follows.continues
    {start : Imports ι}
    {moves : List (Move ι)}
    {row earlier later : StoredRun}
    (follows : Follows start moves row earlier)
    (becomes : row.Continues later)
    (move : Move ι) :
    Follows start (moves ++ [move]) later earlier where
  older := by
    rw [becomes.id]
    exact follows.older
  mode := becomes.mode.trans follows.mode
  starts := becomes.fromTimestamp.trans follows.starts
  succeeded := follows.succeeded
  inTime := by
    rcases follows.inTime with ⟨first, creating, rest, rfl, creates, stored⟩
    refine ⟨first, creating, rest ++ [move], ?_, ?_, stored⟩
    · rw [List.append_assoc, List.cons_append]
    · rw [becomes.id]
      exact creates

/-- The run that a move creates looks at everything or follows a successful one. -/
theorem Imports.Linked.created
    {start : Imports ι}
    {moves : List (Move ι)}
    (linked : (start.after moves).Linked)
    {move : Move ι}
    {window : ImportWindow}
    (planned : (start.after moves).stages move.call = .planned window)
    (member : StoredRun.ofRun ((start.after moves).store.runFor window) ∈
      ((start.after moves).step move).store.runs) :
    (StoredRun.ofRun ((start.after moves).store.runFor window)).IsFull ∨
      ∃ earlier, Follows start (moves ++ [move])
        (StoredRun.ofRun ((start.after moves).store.runFor window)) earlier := by
  have holds : ((start.after moves).stages move.call).window? = some window := by
    rw [planned]
    rfl
  rcases linked.planned move.call window holds with
    ⟨-, ⟨mode, noStart⟩ | ⟨earlier, stored, succeeded, mode, starts, -⟩⟩
  · exact Or.inl ⟨congrArg ImportMode.name mode, noStart⟩
  · refine Or.inr ⟨earlier, linked.sound.id_lt_next stored,
      congrArg ImportMode.name mode, starts, succeeded,
      moves, move, [], rfl, ⟨?_, _, member, rfl⟩, stored⟩
    intro row isRow
    exact Int.ne_of_lt (linked.sound.id_lt_next isRow)

theorem follows_after
    {store : Store}
    (empty : store.runs = [])
    (moves : List (Move ι)) :
    ∀ row ∈ ((Imports.fresh store).after moves).store.runs,
      row.IsFull ∨ ∃ earlier, Follows (Imports.fresh store) moves row earlier := by
  induction moves using List.reverseRecOn with
  | nil =>
      intro row member
      have inEmpty : row ∈ store.runs := member
      rw [empty] at inEmpty
      cases inEmpty
  | append_singleton moves move hypothesis =>
      have linked := ((linked_fresh empty : (Imports.fresh store).Linked).after moves).1
      have step := (Imports.step_cases linked.sound move).1
      rw [Imports.after_concat]
      intro row member
      rcases step.added member with ⟨old, oldRow, becomes⟩ | ⟨window, planned, -, rfl⟩
      · rcases hypothesis old oldRow with full | ⟨earlier, follows⟩
        · exact Or.inl (full.continues becomes)
        · exact Or.inr ⟨earlier, follows.continues becomes move⟩
      · exact linked.created planned member

/-! ## Following the runs back -/

/-- The window that holds a start begins on the date of that start. -/
theorem PlannedOver.fromDate
    {store : Store}
    {window : ImportWindow}
    (planned : PlannedOver store window)
    {start : String}
    (starts : window.fromTimestamp = some start) :
    window.fromDate = dateOfTimestamp start := by
  rcases planned.start with ⟨-, noStart⟩ | ⟨earlier, -, -, -, from_eq, fromDate⟩
  · rw [noStart] at starts
    cases starts
  · rw [from_eq] at starts
    cases starts
    exact fromDate

omit [DecidableEq ι] in
/-- The window of a stored run was planned, and the run was created with its bounds. -/
theorem Imports.Linked.window_of_row
    {imports : Imports ι}
    (linked : imports.Linked)
    {row : StoredRun}
    (member : row ∈ imports.store.runs)
    {window : ImportWindow}
    (holds : imports.HasWindow row.id window) :
    PlannedOver imports.store window ∧ OpenedFor window row := by
  constructor
  · rcases holds with ⟨call, run, opening, -⟩
    exact linked.planned call window (Stage.window?_of_opening? opening)
  · rcases linked.opened window row.id holds with ⟨other, otherRow, sameId, opened⟩
    rw [linked.sound.eq_of_id_eq otherRow member sameId] at opened
    exact opened

/-- A run starts where an earlier one ended, and its window on the date where that one ended. -/
structure Resumes (start : Imports ι) (moves : List (Move ι))
    (row earlier : StoredRun) : Prop extends Follows start moves row earlier where
  stored : earlier ∈ (start.after moves).store.runs
  window : ∀ window earlierWindow,
    (start.after moves).HasWindow row.id window →
      (start.after moves).HasWindow earlier.id earlierWindow →
        window.fromDate = earlierWindow.toDate

theorem Follows.resumes
    {store : Store}
    (empty : store.runs = [])
    {moves : List (Move ι)}
    {row earlier : StoredRun}
    (member : row ∈ ((Imports.fresh store).after moves).store.runs)
    (follows : Follows (Imports.fresh store) moves row earlier) :
    Resumes (Imports.fresh store) moves row earlier := by
  have linkedAfter : ∀ moves, ((Imports.fresh store : Imports ι).after moves).Linked :=
    fun moves => ((linked_fresh empty).after moves).1
  have stored : earlier ∈ ((Imports.fresh store).after moves).store.runs := by
    rcases follows.inTime with ⟨first, move, rest, rfl, -, before⟩
    rw [Imports.after_append]
    exact ((linkedAfter first).after (move :: rest)).2.mem_of_ended before
      follows.succeeded.not_running
  refine ⟨follows, stored, ?_⟩
  intro window earlierWindow holds earlierHolds
  rcases (linkedAfter moves).window_of_row member holds with ⟨planned, opened⟩
  rcases (linkedAfter moves).window_of_row stored earlierHolds with
    ⟨earlierPlanned, earlierOpened⟩
  have starts : window.fromTimestamp = some earlier.toTimestamp :=
    opened.fromTimestamp.symm.trans follows.starts
  rw [planned.fromDate starts, earlierPlanned.toDate, earlierOpened.toTimestamp]

/-- Runs cannot be followed back for ever, because their numbers go down. -/
theorem wellFounded_resumes {start : Imports ι} {moves : List (Move ι)}
    (sound : RunsSound (start.after moves).store) :
    WellFounded fun earlier row => Resumes start moves row earlier := by
  obtain ⟨lowest, isLowest⟩ : ∃ lowest : Int,
      ∀ row ∈ (start.after moves).store.runs, lowest ≤ row.id := by
    have ordered := sound.ordered
    cases listed : (start.after moves).store.runs with
    | nil =>
        refine ⟨0, ?_⟩
        intro row member
        cases member
    | cons first rest =>
        rw [listed, List.pairwise_cons] at ordered
        refine ⟨first.id, ?_⟩
        intro row member
        rcases List.mem_cons.1 member with rfl | later
        · exact Int.le_refl _
        · exact Int.le_of_lt (ordered.1 row later)
  have decreases : ∀ {earlier row : StoredRun}, Resumes start moves row earlier →
      (earlier.id - lowest).toNat < (row.id - lowest).toNat := by
    intro earlier row resumes
    have above := isLowest earlier resumes.stored
    have older := resumes.older
    omega
  exact Subrelation.wf decreases
    (InvImage.wf (fun row : StoredRun => (row.id - lowest).toNat) Nat.lt_wfRel.wf)

/--
No run leaves a gap to the runs before it.  A run that is not full resumes a
run that had succeeded when it was created; following the runs back comes to an
end, only at a full run, and passes successful runs only.
-/
structure NoGap (start : Imports ι) (moves : List (Move ι)) : Prop where
  resumes : ∀ row ∈ (start.after moves).store.runs,
    row.IsFull ∨ ∃ earlier, Resumes start moves row earlier
  windows : ∀ row ∈ (start.after moves).store.runs,
    ∃ window, (start.after moves).HasWindow row.id window ∧ OpenedFor window row
  ends : WellFounded fun earlier row => Resumes start moves row earlier
  endsFull : ∀ row ∈ (start.after moves).store.runs, ∀ last,
    Relation.ReflTransGen (Resumes start moves) row last →
      (¬ ∃ earlier, Resumes start moves last earlier) → last.IsFull
  passes : ∀ row last, Relation.TransGen (Resumes start moves) row last →
    last ∈ (start.after moves).store.runs ∧ last.HasStatus .success

/-- However imports interleave over a store without runs, no run leaves a gap. -/
theorem imports_leave_no_gap
    (store : Store)
    (empty : store.runs = [])
    (moves : List (Move ι)) :
    NoGap (Imports.fresh store) moves := by
  have linked := ((linked_fresh empty : (Imports.fresh store).Linked).after moves).1
  have resumes : ∀ row ∈ ((Imports.fresh store).after moves).store.runs,
      row.IsFull ∨ ∃ earlier, Resumes (Imports.fresh store) moves row earlier := by
    intro row member
    rcases follows_after empty moves row member with full | ⟨earlier, follows⟩
    · exact Or.inl full
    · exact Or.inr ⟨earlier, follows.resumes empty member⟩
  refine ⟨resumes, ?_, wellFounded_resumes linked.sound, ?_, ?_⟩
  · intro row member
    rcases linked.owned row member with ⟨window, holds⟩
    exact ⟨window, holds, (linked.window_of_row member holds).2⟩
  · intro row member last path atEnd
    have isStored : last ∈ ((Imports.fresh store).after moves).store.runs := by
      cases path with
      | refl => exact member
      | tail before link => exact link.stored
    rcases resumes last isStored with full | further
    · exact full
    · exact absurd further atEnd
  · intro row last path
    cases path with
    | single link => exact ⟨link.stored, link.succeeded⟩
    | tail before link => exact ⟨link.stored, link.succeeded⟩

end Interleaved

/-- One import, and then two of which the steps alternate. -/
def threeImports : List (Move Nat) :=
  [0, 0, 0, 0, 0, 0, 0, 1, 2, 1, 2, 1, 2, 1, 2, 1, 2, 1, 2, 1, 2].zipIdx.map
    fun (call, second) => Move.smooth call second

theorem imports_leave_no_gap_three :
    Store.empty.runs = [] ∧
      NoGap (Imports.fresh Store.empty) threeImports ∧
      (((Imports.fresh Store.empty).after threeImports).store.runs.map
        fun row => (row.id, row.mode)) =
          [(1, "full"), (2, "incremental"), (3, "incremental")] :=
  ⟨rfl, imports_leave_no_gap Store.empty rfl threeImports, by decide +kernel⟩

end UsageLedger
