import Mathlib.Data.Set.List
import UsageLedger.Proofs.ByteOrder
import UsageLedger.Proofs.Operations
import UsageLedger.Service.Analytics

/-!
# One history behind all questions for runs

Four questions ask for runs: for the latest ones, for the latest one, for the
state of imports and for the checkpoint.  Each sorts the stored runs for
itself, the checkpoint in an order of its own.  Still all of them tell of one
list, the history, in which every stored run stands once and later starts come
first.

`AnswersFrom` says how each answer follows from the history, and
`runs_are_told_alike` that there is such a history after any calls.
-/

namespace UsageLedger

open UsageLedger.Service
open UsageLedger.Store
open UsageLedger.Text

/-! ## The order of the history -/

/-- A run is listed before one that started earlier by bytes, or at once with a lower number. -/
def ImportRun.ListedBefore (first second : ImportRun) : Prop :=
  bytesOf second.startedAt < bytesOf first.startedAt ∨
    first.startedAt = second.startedAt ∧ second.id < first.id

/-- A run ended before one that ended later by bytes, or at once with a higher number. -/
def ImportRun.EndedBefore (first second : ImportRun) : Prop :=
  ∃ firstEnd secondEnd, first.finishedAt = some firstEnd ∧ second.finishedAt = some secondEnd ∧
    (bytesOf firstEnd < bytesOf secondEnd ∨ firstEnd = secondEnd ∧ first.id < second.id)

namespace Store

theorem StoredRun.ofRun_injective : Function.Injective StoredRun.ofRun := by
  intro first second same
  have read := congrArg StoredRun.read same
  rw [StoredRun.read_ofRun, StoredRun.read_ofRun] at read
  exact Except.ok.inj read

/-- Stored runs sort by their starts, of equal starts the one created last first. -/
theorem sortsBy_startsNoEarlier : SortsBy StoredRun.startsNoEarlier := by
  have latest : SortsBy fun first second : String => decide (second ≤ first) :=
    { trans := by
        simp only [decide_eq_true_eq]
        exact fun first second third firstSecond secondThird =>
          String.le_trans secondThird firstSecond
      total := by
        simp only [Bool.or_eq_true, decide_eq_true_eq]
        exact fun first second => String.le_total second first }
  have decides : Decides fun first second : String => decide (second ≤ first) := by
    intro first second firstSecond secondFirst
    rw [decide_eq_true_eq] at firstSecond secondFirst
    exact String.le_antisymm secondFirst firstSecond
  show SortsBy (tieBroken StoredRun.startedAt (fun first second => decide (second ≤ first))
    fun first second => decide (second.id ≤ first.id))
  exact SortsBy.tieBroken latest decides sortsBy_id

theorem listedBefore_of_startsNoEarlier
    {first second : ImportRun}
    (listed : (StoredRun.ofRun first).startsNoEarlier (StoredRun.ofRun second) = true)
    (distinct : first.id ≠ second.id) :
    first.ListedBefore second := by
  change (if first.startedAt = second.startedAt then decide (second.id ≤ first.id)
    else decide (second.startedAt ≤ first.startedAt)) = true at listed
  split at listed
  · rename_i same
    exact .inr ⟨same, lt_of_le_of_ne (of_decide_eq_true listed) (Ne.symm distinct)⟩
  · rename_i apart
    exact .inl (lt_iff_bytesOf_lt.1 (lt_of_le_of_ne (of_decide_eq_true listed) (Ne.symm apart)))

theorem endedBefore_of_finishesNoEarlier
    {first second : ImportRun}
    {firstEnd secondEnd : String}
    (firstEnded : first.finishedAt = some firstEnd)
    (secondEnded : second.finishedAt = some secondEnd)
    (chosen : (StoredRun.ofRun second).finishesNoEarlier (StoredRun.ofRun first) = true)
    (distinct : first.id ≠ second.id) :
    first.EndedBefore second := by
  refine ⟨firstEnd, secondEnd, firstEnded, secondEnded, ?_⟩
  change (if second.finishedAt = first.finishedAt then decide (first.id ≤ second.id)
    else descending second.finishedAt first.finishedAt) = true at chosen
  rw [firstEnded, secondEnded] at chosen
  split at chosen
  · rename_i same
    exact .inr ⟨(Option.some.inj same).symm, lt_of_le_of_ne (of_decide_eq_true chosen) distinct⟩
  · rename_i apart
    refine .inl (lt_iff_bytesOf_lt.1 (lt_of_le_of_ne (of_decide_eq_true chosen) ?_))
    exact fun same => apart (congrArg some same.symm)

/-! ## The history -/

/-- All stored runs, each of them once, in the order in which they are listed. -/
structure IsHistory (store : Store) (runs : List ImportRun) : Prop where
  stored : (runs.map StoredRun.ofRun).Perm store.runs
  once : (runs.map ImportRun.id).Nodup
  ordered : runs.Pairwise ImportRun.ListedBefore

theorem IsHistory.mem_iff
    {store : Store}
    {runs : List ImportRun}
    (history : store.IsHistory runs)
    {run : ImportRun} :
    run ∈ runs ↔ StoredRun.ofRun run ∈ store.runs := by
  rw [← history.stored.mem_iff, List.mem_map_of_injective StoredRun.ofRun_injective]

/-- The sorted rows of a sound table are those of its history. -/
theorem RunsSound.exists_history
    {store : Store}
    (sound : RunsSound store) :
    ∃ runs, store.runsByStart = runs.map StoredRun.ofRun ∧ store.IsHistory runs := by
  have written : store.runsByStart ∈ Set.range (List.map StoredRun.ofRun) := by
    rw [Set.range_list_map]
    intro row member
    rcases sound.rows row (List.mem_mergeSort.1 member) with ⟨run, same, -⟩
    exact ⟨run, same⟩
  rcases written with ⟨runs, sorted⟩
  have stored : (runs.map StoredRun.ofRun).Perm store.runs := by
    rw [sorted]
    exact List.mergeSort_perm _ _
  have once : (runs.map ImportRun.id).Nodup := by
    have unique := (stored.map StoredRun.id).nodup_iff.2 sound.unique
    rwa [List.map_map] at unique
  refine ⟨runs, sorted.symm, stored, once, ?_⟩
  have inOrder : (runs.map StoredRun.ofRun).Pairwise fun first second =>
      first.startsNoEarlier second = true := by
    rw [sorted]
    exact List.pairwise_mergeSort sortsBy_startsNoEarlier.trans sortsBy_startsNoEarlier.total _
  refine ((List.pairwise_map.1 inOrder).and (List.pairwise_map.1 once)).imp ?_
  rintro first second ⟨listed, distinct⟩
  exact listedBefore_of_startsNoEarlier listed distinct

/-! ## Answers -/

theorem mapM_read_ofRun (runs : List ImportRun) :
    (runs.map StoredRun.ofRun).mapM StoredRun.read = .ok runs := by
  have read : StoredRun.read ∘ StoredRun.ofRun = fun run => pure run :=
    funext StoredRun.read_ofRun
  rw [List.mapM_map, read, List.mapM_pure, List.map_id']
  rfl

section Sorted

variable {store : Store} {runs : List ImportRun}
  (sorted : store.runsByStart = runs.map StoredRun.ofRun)

include sorted

theorem history_eq_take (limit : Nat) : store.history limit = .ok (runs.take limit) := by
  rw [history, sorted, ← List.map_take, mapM_read_ofRun]

theorem latestRun_eq_head : store.latestRun = .ok runs.head? := by
  rw [latestRun, sorted]
  cases runs with
  | nil => rfl
  | cons run rest =>
      rw [List.map_cons, readFirst, StoredRun.read_ofRun]
      rfl

theorem importStatus_eq :
    importStatus store = .ok
      { lastRun := runs.head?
        lastStatus := runs.head?.map ImportRun.status
        counts := ⟨store.metrics.length, store.requests.length⟩ } := by
  rw [importStatus, latestRun_eq_head sorted]
  rfl

theorem importHistory_eq (query : HistoryQuery) :
    importHistory store query =
      if 1 ≤ query.limit ∧ query.limit ≤ largestHistoryLimit then
        .ok (runs.take query.limit)
      else .error (.invalidInput (.limitOutOfRange largestHistoryLimit)) := by
  rw [importHistory, history_eq_take sorted, checkLimit]
  split <;> rfl

end Sorted

/-- The last success among some runs: of those that succeeded, the one all others ended before. -/
def IsLastSuccess (runs : List ImportRun) : Option ImportRun → Prop
  | none => ∀ run ∈ runs, run.status ≠ .success
  | some last =>
      last ∈ runs ∧ last.status = .success ∧
        ∀ run ∈ runs, run.status = .success → run = last ∨ run.EndedBefore last

theorem RunsSound.lastSuccess_eq
    {store : Store}
    (sound : RunsSound store)
    {runs : List ImportRun}
    (history : store.IsHistory runs) :
    ∃ last, store.lastSuccess = .ok last ∧ IsLastSuccess runs last := by
  rcases sound.lastSuccess_cases with ⟨found, absent⟩ | ⟨last, found, stored, succeeded, latest⟩
  · refine ⟨none, found, ?_⟩
    intro run member status
    exact absent _ (history.mem_iff.1 member) ((StoredRun.hasStatus_ofRun run .success).2 status)
  · refine ⟨some last, found, history.mem_iff.2 stored, succeeded, ?_⟩
    intro run member status
    by_cases same : run = last
    · exact .inl same
    · have isRow := history.mem_iff.1 member
      have rowSucceeded := (StoredRun.hasStatus_ofRun run .success).2 status
      have lastSucceeded := (StoredRun.hasStatus_ofRun last .success).2 succeeded
      rcases sound.finishedAt_of_over isRow rowSucceeded.not_running with ⟨runEnd, runEnded⟩
      rcases sound.finishedAt_of_over stored lastSucceeded.not_running with ⟨lastEnd, lastEnded⟩
      refine .inr (endedBefore_of_finishesNoEarlier runEnded lastEnded
        (latest _ isRow rowSucceeded) ?_)
      exact fun sameId => same (StoredRun.ofRun_injective (sound.eq_of_id_eq isRow stored sameId))

/-- The answers to all questions for runs, told from one history. -/
structure AnswersFrom (store : Store) (runs : List ImportRun) : Prop where
  whole : store.IsHistory runs
  /-- A shorter list is the beginning of a longer one. -/
  begins : ∀ few many, few ≤ many →
    ∃ longer, store.history many = .ok longer ∧ store.history few = .ok (longer.take few)
  complete : ∀ limit, store.runs.length ≤ limit → store.history limit = .ok runs
  listed : ∀ query, importHistory store query =
    if 1 ≤ query.limit ∧ query.limit ≤ largestHistoryLimit then .ok (runs.take query.limit)
    else .error (.invalidInput (.limitOutOfRange largestHistoryLimit))
  latest : store.latestRun = .ok runs.head?
  status : importStatus store = .ok
    { lastRun := runs.head?
      lastStatus := runs.head?.map ImportRun.status
      counts := ⟨store.metrics.length, store.requests.length⟩ }
  lastSuccess : ∃ last, store.lastSuccess = .ok last ∧ IsLastSuccess runs last

theorem RunsSound.answersFrom
    {store : Store}
    (sound : RunsSound store) :
    ∃ runs, store.AnswersFrom runs := by
  rcases sound.exists_history with ⟨runs, sorted, history⟩
  have length : runs.length = store.runs.length := by
    rw [← history.stored.length_eq, List.length_map]
  refine ⟨runs, history, ?_, ?_, importHistory_eq sorted, latestRun_eq_head sorted,
    importStatus_eq sorted, sound.lastSuccess_eq history⟩
  · intro few many fewer
    refine ⟨runs.take many, history_eq_take sorted many, ?_⟩
    rw [history_eq_take sorted, List.take_take, Nat.min_eq_left fewer]
  · intro limit large
    rw [history_eq_take sorted, List.take_of_length_le (length.trans_le large)]

/-- Whatever calls led to a store, all its answers about runs are told from one history. -/
theorem runs_are_told_alike (operations : List Operation) :
    ∃ runs, (Store.empty.after operations).AnswersFrom runs :=
  (sound_empty.after operations).1.runs.answersFrom

/--
Runs that start at once are listed by number, and the run that ended last need
not be the latest.
-/
example :
    let store := Store.empty.after
      [.createRun .full none "b" "b", .createRun .full none "a" "a", .createRun .full none "a" "a",
        .completeRun 2 (.success "d"), .completeRun 3 (.success "c"), .completeRun 1 (.success "c")]
    (store.history 3).toOption.map (List.map ImportRun.id) = some [1, 3, 2] ∧
      store.lastSuccess.toOption.map (Option.map ImportRun.id) = some (some 2) := by
  cbv

end Store

end UsageLedger
