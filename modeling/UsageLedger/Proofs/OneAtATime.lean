import UsageLedger.Proofs.InstantOrder
import UsageLedger.Proofs.RunOrder
import UsageLedger.Service.Importing

/-!
# Imports one at a time

Imports that share a gate wait until no one is inside, make their steps and
leave.  The calls may come in any order and wait for any time; `Turns` keeps
for each of them where it is, and who is inside.

`runs_follow_in_turn` says what this is worth while the clock does not go back:
a run is created when all other runs are over, it starts at the successful run
with the highest number, and the bounds of runs never decrease.
-/

namespace UsageLedger

open UsageLedger.Calendar
open UsageLedger.Service
open UsageLedger.Store
open UsageLedger.Telemetry

/-- An import through a gate enters, makes the seven steps of an import, and leaves. -/
theorem importAlone_eq_advances
    {σ : Type}
    [MonadStateOf Store (StateM σ)]
    (gate : Gate (StateM σ))
    (clock : StateM σ Instant)
    (source : TelemetrySource (StateM σ)) :
    some <$> importAlone gate clock source = (do
      gate.enter
      let result ← Stage.result? <$> Stage.advances clock source 7 .ready
      gate.leave
      pure (result.map fromImport)) := by
  rw [← runImport_eq_advances]
  rfl

/-- Where a call is that imports through a gate. -/
inductive Visit where
  | waiting
  | inside (stage : Stage)
  | left (result : Except StoreError ImportRun)

/-- Imports through one gate over one store, and the one that is inside. -/
structure Turns (ι : Type) where
  store : Store
  holder : Option ι
  visits : ι → Visit

variable {ι : Type}

/-- Imports that have not entered yet. -/
def Turns.fresh (store : Store) : Turns ι where
  store := store
  holder := none
  visits := fun _ => .waiting

/-- The readings that a move takes from the clock. -/
def Turns.taken (turns : Turns ι) (move : Move ι) : List Instant :=
  match turns.visits move.call with
  | .inside stage => stage.taken move.reading
  | _ => []

section Steps

variable [DecidableEq ι]

/-- The imports after a move; an import that cannot enter yet goes on waiting. -/
def Turns.step (turns : Turns ι) (move : Move ι) : Turns ι :=
  match turns.visits move.call with
  | .waiting =>
      match turns.holder with
      | none =>
          { turns with
            holder := some move.call
            visits := Function.update turns.visits move.call (.inside .ready) }
      | some _ => turns
  | .inside stage =>
      match stage.result? with
      | some result =>
          { turns with
            holder := none
            visits := Function.update turns.visits move.call (.left result) }
      | none =>
          let (next, store) := stage.next move turns.store
          { turns with
            store
            visits := Function.update turns.visits move.call (.inside next) }
  | .left _ => turns

/-- The imports after some moves. -/
def Turns.after (turns : Turns ι) (moves : List (Move ι)) : Turns ι :=
  moves.foldl Turns.step turns

/-- The readings that some moves take from the clock, in their order. -/
def Turns.readings (turns : Turns ι) : List (Move ι) → List Instant
  | [] => []
  | move :: rest => turns.taken move ++ (turns.step move).readings rest

theorem Turns.after_concat
    (turns : Turns ι)
    (moves : List (Move ι))
    (move : Move ι) :
    turns.after (moves ++ [move]) = (turns.after moves).step move := by
  simp only [Turns.after, List.foldl_append, List.foldl_cons, List.foldl_nil]

theorem Turns.readings_append
    (turns : Turns ι)
    (first second : List (Move ι)) :
    turns.readings (first ++ second) =
      turns.readings first ++ (turns.after first).readings second := by
  induction first generalizing turns with
  | nil => rfl
  | cons move rest hypothesis =>
      rw [List.cons_append, Turns.readings, hypothesis, Turns.readings,
        List.append_assoc]
      rfl

/-! ## What a move can do -/

/-- The move of a call, with the readings it takes and what the imports are after it. -/
inductive TurnStep (turns : Turns ι) (move : Move ι) :
    List Instant → Turns ι → Prop where
  | enters (waiting : turns.visits move.call = .waiting)
      (free : turns.holder = none) :
      TurnStep turns move []
        { turns with
          holder := some move.call
          visits := Function.update turns.visits move.call (.inside .ready) }
  | works (stage next : Stage) (after : Store)
      (inside : turns.visits move.call = .inside stage)
      (step : StageStep move turns.store stage next after) :
      TurnStep turns move (stage.taken move.reading)
        { turns with
          store := after
          visits := Function.update turns.visits move.call (.inside next) }
  | leaves (stage : Stage) (result : Except StoreError ImportRun)
      (inside : turns.visits move.call = .inside stage)
      (isOver : stage.result? = some result) :
      TurnStep turns move []
        { turns with
          holder := none
          visits := Function.update turns.visits move.call (.left result) }
  | stays : TurnStep turns move [] turns

/-- An import that is over has no run to end and does not read the clock. -/
theorem Stage.over_of_result?
    {stage : Stage}
    {result : Except StoreError ImportRun}
    (isOver : stage.result? = some result)
    (reading : Instant) :
    stage.pending? = none ∧ stage.taken reading = [] := by
  cases stage with
  | closed => exact ⟨rfl, rfl⟩
  | refused => exact ⟨rfl, rfl⟩
  | _ => cases isOver

theorem turnStep_step
    {turns : Turns ι}
    (sound : RunsSound turns.store)
    (move : Move ι) :
    TurnStep turns move (turns.taken move) (turns.step move) := by
  rw [Turns.taken, Turns.step]
  cases visit : turns.visits move.call with
  | waiting =>
      cases holder : turns.holder with
      | none => exact .enters visit holder
      | some inside => exact .stays
  | inside stage =>
      cases isOver : stage.result? with
      | some result =>
          simp only [isOver, (Stage.over_of_result? isOver move.reading).2]
          exact .leaves stage result visit isOver
      | none =>
          simp only [isOver]
          exact .works stage _ _ visit (stageStep_next move sound stage)
  | left result => exact .stays

/-! ## The invariant -/

/-- One import is inside or none; the runs are in order, and none is left running outside. -/
structure Turns.Orderly (texts : List String) (turns : Turns ι) : Prop where
  ordered : InOrder texts turns.store
  holder : ∀ call stage, turns.visits call = .inside stage → turns.holder = some call
  idle : turns.holder = none → ∀ row ∈ turns.store.runs, ¬ row.HasStatus .running
  alone : ∀ call stage, turns.visits call = .inside stage →
    stage.Alone texts turns.store

omit [DecidableEq ι] in
theorem orderly_fresh {store : Store} (empty : store.runs = []) :
    (Turns.fresh store : Turns ι).Orderly [] := by
  refine ⟨.of_empty empty, ?_, ?_, ?_⟩
  · intro call stage inside
    cases inside
  · intro free row member
    have inEmpty : row ∈ store.runs := member
    rw [empty] at inEmpty
    cases inEmpty
  · intro call stage inside
    cases inside

/-- After a move, another call is inside if it was, and the one that moved if the move says so. -/
theorem inside_of_update
    {visits : ι → Visit}
    {moved call : ι}
    {visit : Visit}
    {stage : Stage}
    (inside : Function.update visits moved visit call = .inside stage) :
    (call = moved ∧ visit = .inside stage) ∨
      (call ≠ moved ∧ visits call = .inside stage) := by
  by_cases same : call = moved
  · subst same
    rw [Function.update_self] at inside
    exact Or.inl ⟨rfl, inside⟩
  · rw [Function.update_of_ne same] at inside
    exact Or.inr ⟨same, inside⟩

/-- Every move keeps the imports orderly if the clock has not gone back. -/
theorem Turns.Orderly.step
    {texts : List String}
    {turns next : Turns ι}
    {move : Move ι}
    {taken : List Instant}
    (orderly : turns.Orderly texts)
    (step : TurnStep turns move taken next)
    (onward : ∀ reading ∈ taken, ∀ text ∈ texts, text ≤ reading.text) :
    next.Orderly (texts ++ taken.map Instant.text) := by
  cases step with
  | enters waiting free =>
      have outside : ∀ call stage, turns.visits call ≠ .inside stage := by
        intro call stage inside
        have holds := orderly.holder call stage inside
        rw [free] at holds
        cases holds
      refine ⟨orderly.ordered.read _, ?_, ?_, ?_⟩
      · intro call stage inside
        rcases inside_of_update inside with ⟨rfl, -⟩ | ⟨-, before⟩
        · rfl
        · exact absurd before (outside call stage)
      · intro free
        cases free
      · intro call stage inside
        rcases inside_of_update inside with ⟨rfl, same⟩ | ⟨-, before⟩
        · cases same
          exact ⟨fun row member running =>
            absurd running (orderly.idle free row member), trivial⟩
        · exact absurd before (outside call stage)
  | works stage next after inside step =>
      have holds := orderly.holder move.call stage inside
      rcases step.keeps_order orderly.ordered (orderly.alone _ _ inside) onward with
        ⟨ordered, alone⟩
      refine ⟨ordered, ?_, ?_, ?_⟩
      · intro call other isInside
        rcases inside_of_update isInside with ⟨rfl, -⟩ | ⟨-, before⟩
        · exact holds
        · exact orderly.holder call other before
      · intro free
        cases holds.symm.trans free
      · intro call other isInside
        rcases inside_of_update isInside with ⟨rfl, same⟩ | ⟨apart, before⟩
        · cases same
          exact alone
        · have holdsToo := orderly.holder call other before
          exact absurd (Option.some.inj (holdsToo.symm.trans holds)) apart
  | leaves stage result inside isOver =>
      have holds := orderly.holder move.call stage inside
      have outside : ∀ call other, call ≠ move.call →
          turns.visits call ≠ .inside other := by
        intro call other apart isInside
        have holdsToo := orderly.holder call other isInside
        exact apart (Option.some.inj (holdsToo.symm.trans holds))
      refine ⟨orderly.ordered.read _, ?_, ?_, ?_⟩
      · intro call other isInside
        rcases inside_of_update isInside with ⟨-, left⟩ | ⟨apart, before⟩
        · cases left
        · exact absurd before (outside call other apart)
      · intro free row member running
        rcases (orderly.alone _ _ inside).pending row member running with ⟨run, pending, -⟩
        rw [(Stage.over_of_result? isOver move.reading).1] at pending
        cases pending
      · intro call other isInside
        rcases inside_of_update isInside with ⟨-, left⟩ | ⟨apart, before⟩
        · cases left
        · exact absurd before (outside call other apart)
  | stays =>
      simp only [List.map_nil, List.append_nil]
      exact orderly

theorem orderly_after
    {store : Store}
    (empty : store.runs = [])
    (moves : List (Move ι))
    (steady : ((Turns.fresh store).readings moves).Pairwise (· ≤ ·))
    (plain : ∀ reading ∈ (Turns.fresh store).readings moves, reading.date.IsPlain) :
    ((Turns.fresh store).after moves).Orderly
      (((Turns.fresh store).readings moves).map Instant.text) := by
  induction moves using List.reverseRecOn with
  | nil => exact orderly_fresh empty
  | append_singleton moves move hypothesis =>
      rw [Turns.readings_append] at steady plain ⊢
      rw [Turns.after_concat]
      rcases List.pairwise_append.1 steady with ⟨steadyBefore, -, onward⟩
      have orderly := hypothesis steadyBefore fun reading member =>
        plain reading (List.mem_append_left _ member)
      have taken : ((Turns.fresh store).after moves).readings [move] =
          ((Turns.fresh store).after moves).taken move := List.append_nil _
      rw [taken] at onward plain ⊢
      rw [List.map_append]
      refine orderly.step (turnStep_step orderly.ordered.sound move) ?_
      intro reading member text isText
      rcases List.mem_map.1 isText with ⟨earlier, earlierTaken, rfl⟩
      exact Instant.text_le_text
        (plain earlier (List.mem_append_left _ earlierTaken))
        (plain reading (List.mem_append_right _ member))
        (onward earlier earlierTaken reading member)

/-! ## Runs follow in turn -/

/-- A move that creates a run finds no other run running. -/
theorem Turns.Orderly.created
    {texts : List String}
    {turns next : Turns ι}
    {move : Move ι}
    {taken : List Instant}
    (orderly : turns.Orderly texts)
    (step : TurnStep turns move taken next)
    {row : StoredRun}
    (member : row ∈ next.store.runs)
    (isNew : ∀ old ∈ turns.store.runs, old.id ≠ row.id) :
    ∀ old ∈ turns.store.runs, ¬ old.HasStatus .running := by
  cases step with
  | works stage next after inside step =>
      rcases step.added member with ⟨old, oldRow, becomes⟩ | ⟨window, planned, -, -⟩
      · exact absurd becomes.id.symm (isNew old oldRow)
      · intro old oldRow running
        rcases (orderly.alone _ _ inside).pending old oldRow running with ⟨run, pending, -⟩
        rw [planned] at pending
        cases pending
  | enters waiting free => exact absurd rfl (isNew row member)
  | leaves stage result inside isOver => exact absurd rfl (isNew row member)
  | stays => exact absurd rfl (isNew row member)

/-- A run that has succeeded or failed. -/
def IsOver (row : StoredRun) : Prop :=
  row.HasStatus .success ∨ row.HasStatus .failed

/--
Runs follow each other in turn.  A run is created only when all others are
over, it starts at the successful run with the highest number below its own,
and by their numbers neither the ends of windows nor their starts decrease.
-/
structure InTurn (start : Turns ι) (moves : List (Move ι)) : Prop where
  created : ∀ first move rest, moves = first ++ move :: rest →
    ∀ row ∈ ((start.after first).step move).store.runs,
      (∀ old ∈ (start.after first).store.runs, old.id ≠ row.id) →
        ∀ old ∈ (start.after first).store.runs, IsOver old
  endedBelow : ∀ first ∈ (start.after moves).store.runs,
    ∀ second ∈ (start.after moves).store.runs, first.id < second.id → IsOver first
  starts : ∀ row ∈ (start.after moves).store.runs,
    StartsAtHighest (start.after moves).store row.id row.mode row.fromTimestamp
  toTimestamps : ∀ first ∈ (start.after moves).store.runs,
    ∀ second ∈ (start.after moves).store.runs, first.id < second.id →
      first.toTimestamp ≤ second.toTimestamp
  fromTimestamps : ∀ first ∈ (start.after moves).store.runs,
    ∀ second ∈ (start.after moves).store.runs, first.id < second.id →
      ∀ firstStart secondStart, first.fromTimestamp = some firstStart →
        second.fromTimestamp = some secondStart → firstStart ≤ secondStart

/-- Where runs are in order, their starts are so too. -/
theorem InOrder.fromTimestamp_le
    {texts : List String}
    {store : Store}
    (ordered : InOrder texts store)
    {first second : StoredRun}
    (firstRow : first ∈ store.runs)
    (secondRow : second ∈ store.runs)
    (less : first.id < second.id)
    {firstStart secondStart : String}
    (firstStarts : first.fromTimestamp = some firstStart)
    (secondStarts : second.fromTimestamp = some secondStart) :
    firstStart ≤ secondStart := by
  rcases ordered.starts first firstRow with ⟨-, noStart, -⟩ |
    ⟨earlier, stored, below, succeeded, -, -, starts⟩
  · cases noStart.symm.trans firstStarts
  rcases ordered.starts second secondRow with ⟨-, noStart, -⟩ |
    ⟨later, storedToo, -, -, highest, -, startsToo⟩
  · cases noStart.symm.trans secondStarts
  cases starts.symm.trans firstStarts
  cases startsToo.symm.trans secondStarts
  have notAbove : earlier.id ≤ later.id :=
    highest earlier stored (Int.lt_trans below less) succeeded
  rcases Int.lt_or_eq_of_le notAbove with apart | same
  · exact (ordered.before earlier stored later storedToo apart).toTimestamp
  · cases ordered.sound.eq_of_id_eq stored storedToo same
    exact String.le_refl _

/-- Through one gate and with a clock that does not go back, runs follow in turn. -/
theorem runs_follow_in_turn
    (store : Store)
    (empty : store.runs = [])
    (moves : List (Move ι))
    (steady : ((Turns.fresh store).readings moves).Pairwise (· ≤ ·))
    (plain : ∀ reading ∈ (Turns.fresh store).readings moves, reading.date.IsPlain) :
    InTurn (Turns.fresh store) moves := by
  have ordered := (orderly_after empty moves steady plain).ordered
  refine ⟨?_, ?_, ordered.starts, ?_, ?_⟩
  · rintro first move rest rfl row member isNew old oldRow
    rw [Turns.readings_append] at steady plain
    have orderly := orderly_after empty first (List.pairwise_append.1 steady).1
      fun reading isTaken => plain reading (List.mem_append_left _ isTaken)
    have step := turnStep_step orderly.ordered.sound move
    exact orderly.ordered.sound.over_cases oldRow
      (orderly.created step member isNew old oldRow)
  · intro first firstRow second secondRow less
    exact ordered.sound.over_cases firstRow
      (ordered.before first firstRow second secondRow less).isOver
  · intro first firstRow second secondRow less
    exact (ordered.before first firstRow second secondRow less).toTimestamp
  · intro first firstRow second secondRow less firstStart secondStart
    exact ordered.fromTimestamp_le firstRow secondRow less

end Steps

/-- Three calls that come at once, of which the second one cannot fetch any metrics. -/
def threeInTurn : List (Move Nat) :=
  [0, 1, 2, 0, 0, 2, 0, 0, 0, 0, 1, 0, 0, 1, 2, 1, 1, 1, 1, 1, 2, 1, 1,
    2, 2, 2, 2, 2, 2, 2, 2, 2].zipIdx.map fun (call, second) =>
      if call = 1 then
        { Move.smooth call second with metrics := .error (.unreachable "connection refused") }
      else Move.smooth call second

theorem runs_follow_in_turn_three :
    Store.empty.runs = [] ∧
      ((Turns.fresh Store.empty).readings threeInTurn).Pairwise (· ≤ ·) ∧
      (∀ reading ∈ (Turns.fresh Store.empty).readings threeInTurn,
        reading.date.IsPlain) ∧
      InTurn (Turns.fresh Store.empty) threeInTurn ∧
      (((Turns.fresh Store.empty).after threeInTurn).store.runs.map
        fun row => (row.id, row.mode, row.status)) =
          [(1, "full", "success"), (2, "incremental", "failed"),
            (3, "incremental", "success")] := by
  have steady : ((Turns.fresh Store.empty).readings threeInTurn).Pairwise (· ≤ ·) := by
    decide +kernel
  have plain : ∀ reading ∈ (Turns.fresh Store.empty).readings threeInTurn,
      reading.date.IsPlain := by
    decide +kernel
  exact ⟨rfl, steady, plain,
    runs_follow_in_turn Store.empty rfl threeInTurn steady plain, by decide +kernel⟩

end UsageLedger
