import UsageLedger.Proofs.DayAgreement
import UsageLedger.Store.Overwrite

/-!
# Requests grouped by day and model

Metrics between two times have one row for each day and model of a request
that started between them.  Whatever the table holds, an answer counts each
such request once, and its token sums are exact: a column that holds anything
but integers gives no answer.

A column can be overwritten with a negative integer.  It is added up as it is,
and a negative sum is cut to zero when it is read; `negative_sum_is_cut` is a
group whose sum is.  `metricsWithin_groups` says what is answered for any
table, and that nothing is cut where the counts were stored as such.
-/

namespace UsageLedger

open UsageLedger.Service
open UsageLedger.Store

/-! ## Sorting by a key -/

section Sorting

variable
    {α β : Type}
    [LinearOrder β]
    {key : α → β}
    {noLater : α → α → Bool}
    (inOrder : ∀ first second, noLater first second = true → key first ≤ key second)
    (otherwise : ∀ first second, noLater first second = false → key second ≤ key first)

include inOrder otherwise

theorem pairwise_merge_of_key
    {first second : List α}
    (firstSorted : first.Pairwise fun one other => key one ≤ key other)
    (secondSorted : second.Pairwise fun one other => key one ≤ key other) :
    (List.merge first second noLater).Pairwise fun one other => key one ≤ key other := by
  induction first generalizing second with
  | nil => rwa [List.nil_merge]
  | cons row rows firstHypothesis =>
      induction second with
      | nil => rwa [List.merge_right]
      | cons other others secondHypothesis =>
          rcases List.pairwise_cons.1 firstSorted with ⟨least, rowsSorted⟩
          rcases List.pairwise_cons.1 secondSorted with ⟨leastOther, othersSorted⟩
          rw [List.cons_merge_cons]
          split
          · rename_i earlier
            have order := inOrder row other earlier
            refine List.pairwise_cons.2 ⟨?_, firstHypothesis rowsSorted secondSorted⟩
            intro later member
            rcases List.mem_merge.1 member with inRows | inOthers
            · exact least later inRows
            · rcases List.mem_cons.1 inOthers with rfl | inOthers
              · exact order
              · exact order.trans (leastOther later inOthers)
          · rename_i notEarlier
            have order := otherwise row other (Bool.eq_false_iff.2 notEarlier)
            refine List.pairwise_cons.2 ⟨?_, secondHypothesis othersSorted⟩
            intro later member
            rcases List.mem_merge.1 member with inRows | inOthers
            · rcases List.mem_cons.1 inRows with rfl | inRows
              · exact order
              · exact order.trans (least later inRows)
            · exact leastOther later inOthers

/-- A comparison that respects a key sorts by the key, even if it is no order itself. -/
theorem pairwise_mergeSort_of_key :
    ∀ rows : List α,
      (rows.mergeSort noLater).Pairwise fun one other => key one ≤ key other
  | [] => by
      rw [List.mergeSort_nil]
      exact List.Pairwise.nil
  | [row] => by
      rw [List.mergeSort_singleton]
      exact List.pairwise_singleton _ row
  | first :: second :: rest => by
      rw [List.mergeSort]
      exact pairwise_merge_of_key inOrder otherwise
        (pairwise_mergeSort_of_key _) (pairwise_mergeSort_of_key _)
termination_by rows => rows.length
decreasing_by
  all_goals
    simp only [List.MergeSort.Internal.splitInTwo_fst,
      List.MergeSort.Internal.splitInTwo_snd, List.length_take, List.length_drop,
      List.length_cons]
    omega

end Sorting

namespace Store

theorem pairwise_date_costNoLater (rows : List StoredMetric) :
    (rows.mergeSort costNoLater).Pairwise fun first second => first.date ≤ second.date := by
  -- Costs decide between rows of one date only.
  apply pairwise_mergeSort_of_key
  · intro first second noLater
    unfold costNoLater at noLater
    split at noLater
    · rename_i same
      exact same.le
    · exact of_decide_eq_true noLater
  · intro first second later
    unfold costNoLater at later
    split at later
    · rename_i same
      exact same.ge
    · exact (not_le.1 (of_decide_eq_false later)).le

/-! ## Sums of integers -/

/-- The integer in a cell, zero if there is something else in it. -/
def Cell.integerOrZero : Cell → Int
  | .integer value => value
  | _ => 0

/-- A cell with an integer in it. -/
def Cell.IsInteger (cell : Cell) : Prop :=
  ∃ value, cell = .integer value

/-- A sum that has met a double stays one. -/
theorem exists_real_of_finish
    {cells : List Cell}
    {overflowed : Bool}
    {sum compensation : Float}
    {cell : Cell}
    (finished : (cells.foldl RunningSum.add
      (.compensated overflowed sum compensation)).finish = .ok cell) :
    ∃ value, cell = .real value := by
  induction cells generalizing overflowed sum compensation with
  | nil =>
      cases overflowed with
      | true => cases finished
      | false =>
          cases finished
          exact ⟨_, rfl⟩
  | cons first rest hypothesis =>
      cases first <;> exact hypothesis finished

/-- So a sum that is an integer has met integers only, and is exact. -/
theorem integers_of_finish
    {cells : List Cell}
    {total sum : Int}
    (finished : (cells.foldl RunningSum.add (.exact total)).finish = .ok (.integer sum)) :
    (∀ cell ∈ cells, cell.IsInteger) ∧ sum = total + (cells.map Cell.integerOrZero).sum := by
  induction cells generalizing total with
  | nil =>
      cases finished
      exact ⟨by simp, by simp⟩
  | cons cell rest hypothesis =>
      cases cell with
      | integer value =>
          rw [List.foldl_cons, RunningSum.add] at finished
          split at finished
          · rcases hypothesis finished with ⟨integers, exact⟩
            refine ⟨List.forall_mem_cons.2 ⟨⟨value, rfl⟩, integers⟩, ?_⟩
            rw [exact, List.map_cons, List.sum_cons, Cell.integerOrZero]
            omega
          · rcases exists_real_of_finish finished with ⟨real, isReal⟩
            cases isReal
      | real value =>
          rcases exists_real_of_finish finished with ⟨real, isReal⟩
          cases isReal
      | text value =>
          rcases exists_real_of_finish finished with ⟨real, isReal⟩
          cases isReal

/-- The sum of a column, as it is stored. -/
def integerSum (column : StoredRequest → Cell) (rows : List StoredRequest) : Int :=
  (rows.map fun row => (column row).integerOrZero).sum

/-- A sum that can be read as a count is the exact sum, cut at zero. -/
theorem sum_of_readCount
    {column : StoredRequest → Cell}
    {rows : List StoredRequest}
    {cell : Cell}
    {index : Nat}
    {name : String}
    {count : Nat}
    (summed : sumCells (rows.map column) = .ok cell)
    (read : cell.readCount index name = .ok count) :
    (∀ row ∈ rows, (column row).IsInteger) ∧ (count : Int) = max 0 (integerSum column rows) := by
  cases cell with
  | integer sum =>
      cases read
      rcases integers_of_finish summed with ⟨integers, exact⟩
      refine ⟨fun row member => integers _ (List.mem_map_of_mem member), ?_⟩
      rw [List.map_map, zero_add] at exact
      rw [exact, Int.toNat_eq_max, max_comm]
      rfl
  | real value => cases read
  | text value => cases read

/-- A metric that counts some requests, with their exact sums cut at zero. -/
structure CutsSums (rows : List StoredRequest) (metric : DailyMetric) : Prop where
  integers : ∀ column ∈ tokenColumns, ∀ row ∈ rows, (column row).IsInteger
  inputTokens : (metric.inputTokens : Int) = max 0 (integerSum StoredRequest.inputTokens rows)
  outputTokens :
    (metric.outputTokens : Int) = max 0 (integerSum StoredRequest.outputTokens rows)
  totalTokens : (metric.totalTokens : Int) = max 0 (integerSum StoredRequest.totalTokens rows)
  requestCount : metric.requestCount = rows.length

theorem cutsSums_of_read
    {key : String × String}
    {rows : List StoredRequest}
    {row : StoredMetric}
    {metric : DailyMetric}
    (computed : groupMetric key rows = .ok row)
    (read : row.read = .ok metric) :
    CutsSums rows metric := by
  simp only [groupMetric, bind_eq_ok_iff] at computed
  rcases computed with ⟨input, inputSum, output, outputSum, total, totalSum, cost, -, built⟩
  cases built
  simp only [StoredMetric.read, bind_eq_ok_iff] at read
  rcases read with ⟨inputTokens, readInput, outputTokens, readOutput, totalTokens, readTotal,
    requestCount, readRequests, totalCost, -, shown⟩
  cases shown
  cases readRequests
  have inputExact := sum_of_readCount inputSum readInput
  have outputExact := sum_of_readCount outputSum readOutput
  have totalExact := sum_of_readCount totalSum readTotal
  refine ⟨?_, inputExact.2, outputExact.2, totalExact.2, Int.toNat_natCast _⟩
  intro column member
  simp only [tokenColumns, List.mem_cons, List.not_mem_nil, or_false] at member
  rcases member with rfl | rfl | rfl
  · exact inputExact.1
  · exact outputExact.1
  · exact totalExact.1

theorem CutsSums.of_perm
    {first second : List StoredRequest}
    (same : first.Perm second)
    {metric : DailyMetric}
    (cuts : CutsSums first metric) :
    CutsSums second metric := by
  have sums : ∀ column, integerSum column first = integerSum column second :=
    fun column => (same.map _).sum_eq
  exact
    { integers := fun column member row isRow =>
        cuts.integers column member row (same.mem_iff.2 isRow)
      inputTokens := sums _ ▸ cuts.inputTokens
      outputTokens := sums _ ▸ cuts.outputTokens
      totalTokens := sums _ ▸ cuts.totalTokens
      requestCount := cuts.requestCount.trans same.length_eq }

theorem integerSum_of_counts
    {column : StoredRequest → Cell}
    {rows : List StoredRequest}
    (counts : ∀ row ∈ rows, (column row).IsCount) :
    integerSum column rows = tokenSum column rows := by
  unfold integerSum tokenSum
  induction rows with
  | nil => rfl
  | cons row rest hypothesis =>
      rcases List.forall_mem_cons.1 counts with ⟨⟨count, isCount⟩, later⟩
      have here : (column row).integerOrZero = ((column row).count : Int) := by
        rw [isCount]
        rfl
      rw [List.map_cons, List.sum_cons, List.map_cons, List.sum_cons, here, hypothesis later,
        Nat.cast_add]

/-- Where counts are stored as such there is nothing to cut. -/
theorem CutsSums.addsUp
    {rows : List StoredRequest}
    {metric : DailyMetric}
    (cuts : CutsSums rows metric)
    (numeric : ∀ row ∈ rows, row.Numeric) :
    AddsUp rows metric.usage := by
  have exact : ∀ column ∈ tokenColumns,
      max 0 (integerSum column rows) = (tokenSum column rows : Int) := by
    intro column member
    rw [integerSum_of_counts fun row isRow => (numeric row isRow).counts column member,
      max_eq_right (Int.natCast_nonneg _)]
  exact
    { inputTokens := Int.ofNat_inj.1 (cuts.inputTokens.trans (exact _ (by simp [tokenColumns])))
      outputTokens :=
        Int.ofNat_inj.1 (cuts.outputTokens.trans (exact _ (by simp [tokenColumns])))
      totalTokens := Int.ofNat_inj.1 (cuts.totalTokens.trans (exact _ (by simp [tokenColumns])))
      requestCount := cuts.requestCount }

/-! ## Groups -/

theorem exists_of_mem_mapM
    {α β ε : Type}
    {step : α → Except ε β}
    {inputs : List α}
    {outputs : List β}
    (performed : inputs.mapM step = .ok outputs) :
    ∀ output ∈ outputs, ∃ input ∈ inputs, step input = .ok output := by
  have steps := forall₂_of_mapM performed
  clear performed
  induction steps with
  | nil => exact List.forall_mem_nil _
  | cons here _ hypothesis =>
      refine List.forall_mem_cons.2 ⟨⟨_, List.mem_cons_self, here⟩, fun output member => ?_⟩
      rcases hypothesis output member with ⟨origin, inRest, isStep⟩
      exact ⟨origin, List.mem_cons_of_mem _ inRest, isStep⟩

/-- The requests that have what a group needs. -/
def StoredRequest.isGroupable (row : StoredRequest) : Bool :=
  row.model.isSome && row.startedAt.isSome

theorem requestsWithin_groupable (store : Store) (lower upper : String) :
    requestsWithin { store with requests := store.requests.filter StoredRequest.isGroupable }
        lower upper =
      store.requestsWithin lower upper := by
  have same :
      ((store.requests.filter StoredRequest.isGroupable).filter fun row =>
          row.startsWithin lower upper && row.model.isSome) =
        store.requests.filter fun row => row.startsWithin lower upper && row.model.isSome := by
    rw [List.filter_filter]
    refine List.filter_congr fun row _ => ?_
    rw [StoredRequest.startsWithin, StoredRequest.isGroupable]
    cases row.startedAt <;> cases row.model <;> simp
  rw [requestsWithin, requestsWithin, same]

end Store

/-! ## The metrics between two times -/

/-- What metrics between two times say of a table. -/
structure GroupsRequests (store : Store) (lower upper : String) (metrics : List DailyMetric) :
    Prop where
  distinct : (metrics.map fun metric => (metric.date, metric.model)).Nodup
  ordered : metrics.Pairwise fun first second => first.date ≤ second.date
  occurs : ∀ date model,
    (∃ metric ∈ metrics, metric.date = date ∧ metric.model = model) ↔
      ∃ row ∈ store.requests, row.CountsFor lower upper date model
  members : ∀ date model row, row ∈ store.group lower upper (date, model) ↔
    row ∈ store.requests ∧ row.CountsFor lower upper date model
  sums : ∀ metric ∈ metrics,
    CutsSums (store.group lower upper (metric.date, metric.model)) metric
  /-- In a table that was written by the operations on the store no sum is cut. -/
  written : Reachable store → ∀ metric ∈ metrics,
    AddsUp (store.group lower upper (metric.date, metric.model)) metric.usage
  total : (metrics.map DailyMetric.requestCount).sum =
    store.requests.countP fun row => row.startsWithin lower upper && row.model.isSome
  /-- Without the requests that have no model or no start the answer is the same. -/
  groupable :
    metricsWithin { store with requests := store.requests.filter StoredRequest.isGroupable }
      lower upper = .ok metrics

/-- What is shown of one group of records. -/
theorem metricsWithin_of_one_group
    {store : Store}
    {lower upper : String}
    {rows : List StoredRequest}
    {group : StoredMetric}
    {metric : DailyMetric}
    (key : String × String)
    (within : store.requestsWithin lower upper = rows)
    (once : (rows.filterMap StoredRequest.group?).eraseDups = [key])
    (grouped : groupMetric key (inGroup key rows) = .ok group)
    (read : group.read = .ok metric) :
    store.metricsWithin lower upper = .ok [metric] := by
  have keys : groupKeys rows = [key] := by
    rw [groupKeys, once, List.mergeSort_singleton]
  have groups : groupMetrics rows = .ok [group] := by
    rw [groupMetrics, keys, List.mapM_cons, ← inGroup, grouped]
    rfl
  have shown : [group].mapM StoredMetric.read = .ok [metric] := by
    rw [List.mapM_cons, read]
    rfl
  rw [metricsWithin, within, groups]
  exact (congrArg (·.mapM StoredMetric.read) (List.mergeSort_singleton _)).trans shown

section Computed

variable
    {store : Store}
    {lower upper : String}
    {metrics : List DailyMetric}
    (computed : store.metricsWithin lower upper = .ok metrics)

include computed

theorem pairwise_date_metricsWithin :
    metrics.Pairwise fun first second => first.date ≤ second.date := by
  rcases bind_eq_ok_iff.1 computed with ⟨groups, -, read⟩
  have keys := map_of_mapM StoredMetric.key (fun _ _ => key_of_readMetric) read
  have dates : metrics.map DailyMetric.date =
      (groups.mergeSort costNoLater).map StoredMetric.date := by
    have first := congrArg (List.map Prod.fst) keys
    rwa [List.map_map, List.map_map] at first
  have sorted := pairwise_date_costNoLater groups
  rw [← List.pairwise_map, ← dates, List.pairwise_map] at sorted
  exact sorted

theorem occurs_metricsWithin (date model : String) :
    (∃ metric ∈ metrics, metric.date = date ∧ metric.model = model) ↔
      ∃ row ∈ store.requests, row.CountsFor lower upper date model := by
  have keys : (date, model) ∈ (metrics.map fun metric => (metric.date, metric.model)) ↔
      (date, model) ∈ groupKeys (store.requestsWithin lower upper) :=
    (perm_keys_metricsWithin computed).mem_iff
  have same := perm_group store lower upper (date, model)
  rw [mem_groupKeys_iff, Ne, List.eq_nil_iff_forall_not_mem, not_forall, List.mem_map] at keys
  simp only [not_not, same.mem_iff, mem_group_iff_countsFor, Prod.mk.injEq] at keys
  exact keys

theorem cutsSums_metricsWithin :
    ∀ metric ∈ metrics,
      CutsSums (store.group lower upper (metric.date, metric.model)) metric := by
  intro metric member
  rcases bind_eq_ok_iff.1 computed with ⟨groups, grouped, read⟩
  rcases exists_of_mem_mapM read metric member with ⟨row, isRow, isRead⟩
  rcases exists_of_mem_mapM grouped row (List.mem_mergeSort.1 isRow) with ⟨key, -, isGroup⟩
  have sameKey : (metric.date, metric.model) = key :=
    (key_of_readMetric isRead).trans (key_of_groupMetric isGroup)
  rw [sameKey]
  exact (cutsSums_of_read isGroup isRead).of_perm (perm_group store lower upper key)

theorem sum_requestCount_metricsWithin :
    (metrics.map DailyMetric.requestCount).sum =
      store.requests.countP fun row => row.startsWithin lower upper && row.model.isSome := by
  have grouped : ∀ row ∈ store.requestsWithin lower upper, ∃ key, row.group? = some key :=
    fun row member => exists_group_of_mem_requestsWithin member
  have counts : metrics.map DailyMetric.requestCount =
      metrics.map fun metric =>
        (inGroup (metric.date, metric.model) (store.requestsWithin lower upper)).length := by
    refine List.map_congr_left fun metric member => ?_
    rw [(cutsSums_metricsWithin computed metric member).requestCount,
      (perm_group store lower upper _).length_eq]
  have keys := (perm_keys_metricsWithin computed).map fun key =>
    (inGroup key (store.requestsWithin lower upper)).length
  rw [List.map_map] at keys
  calc
    (metrics.map DailyMetric.requestCount).sum
      = ((groupKeys (store.requestsWithin lower upper)).map fun key =>
          (inGroup key (store.requestsWithin lower upper)).length).sum := by
        rw [counts]
        exact keys.sum_eq
    _ = (store.requestsWithin lower upper).length := by
        rw [← List.length_flatMap]
        exact (perm_flatMap_inGroup grouped).length_eq
    _ = _ := by
        rw [requestsWithin, List.length_mergeSort, List.countP_eq_length_filter]

/--
Metrics between two times have one row for each day and model, by date, which
counts the requests of the day and the model and has their exact sums, cut at
zero.
-/
theorem metricsWithin_groups : GroupsRequests store lower upper metrics where
  distinct := (perm_keys_metricsWithin computed).nodup_iff.2
    ((List.mergeSort_perm _ _).nodup_iff.2 (nodup_eraseDups _))
  ordered := pairwise_date_metricsWithin computed
  occurs := occurs_metricsWithin computed
  members _ _ _ := mem_group_iff_countsFor
  sums := cutsSums_metricsWithin computed
  written reachable metric member := by
    refine (cutsSums_metricsWithin computed metric member).addsUp fun row isRow => ?_
    exact numeric_of_reachable reachable row (List.mem_filter.1 isRow).1
  total := sum_requestCount_metricsWithin computed
  groupable := by
    rw [metricsWithin, requestsWithin_groupable]
    exact computed

end Computed

/-- A request like the started one, with three input tokens. -/
def secondRecord (start : String) : RequestRecord :=
  { startedRecord start with id := "b", inputTokens := 3 }

/-- Two requests of one day and model, with tokens. -/
def twoTalks : Store :=
  Store.empty.after
    [.putRequests
      [{ startedRecord "2025-03-01T10:00:00.000Z" with
          inputTokens := 5, outputTokens := 2, totalTokens := 7 },
        secondRecord "2025-03-01T23:00:00.000Z"]]

theorem metricsWithin_groups_two :
    twoTalks.metricsWithin "2025-03-01" "2025-03-02" =
        .ok [⟨"2025-03-01", "gpt-4o", 8, 2, 7, 2, Float.ofInt 0⟩] ∧
      GroupsRequests twoTalks "2025-03-01" "2025-03-02"
        [⟨"2025-03-01", "gpt-4o", 8, 2, 7, 2, Float.ofInt 0⟩] := by
  have computed : twoTalks.metricsWithin "2025-03-01" "2025-03-02" =
      .ok [⟨"2025-03-01", "gpt-4o", 8, 2, 7, 2, Float.ofInt 0⟩] :=
    metricsWithin_of_one_group ("2025-03-01", "gpt-4o")
      (List.mergeSort_of_pairwise (by decide +kernel)) (by decide +kernel) rfl rfl
  exact ⟨computed, metricsWithin_groups computed⟩

/-! ## A negative sum -/

theorem columnName_inputTokens : columnName "input_tokens" = "input_tokens" := by
  decide +kernel

/-- The input tokens of the first of two stored requests are overwritten by any value. -/
theorem overwrite_firstOfTwo (first second : String) (inputTokens : Cell) :
    (Store.empty.after [.putRequests [startedRecord first, secondRecord second]]).overwrite
        requestsTable "input_tokens" "a" (some inputTokens) =
      .ok (1,
        { Store.empty with
          requests :=
            [{ StoredRequest.ofRecord (startedRecord first) with
                inputTokens := inputTokens.forIntegers },
              StoredRequest.ofRecord (secondRecord second)] }) := by
  have column : requireColumn requestColumns "input_tokens" = .ok () := by
    rw [requireColumn, columnName_inputTokens]
    rfl
  rw [overwrite, if_neg (by decide +kernel), if_neg (by decide +kernel), if_pos rfl,
    overwriteRequests, column]
  simp only [StoredRequest.overwrite, columnName_inputTokens]
  rfl

/-- Two requests of a group, one of them with a negative integer as its input tokens. -/
def overwrittenStore : Store :=
  { Store.empty with
    requests :=
      [{ StoredRequest.ofRecord (startedRecord "2025-03-01T10:00:00.000Z") with
          inputTokens := .integer (-5) },
        StoredRequest.ofRecord (secondRecord "2025-03-01T10:00:00.000Z")] }

theorem overwrite_inputTokens :
    (Store.empty.after
        [.putRequests
          [startedRecord "2025-03-01T10:00:00.000Z",
            secondRecord "2025-03-01T10:00:00.000Z"]]).overwrite
        requestsTable "input_tokens" "a" (some (.integer (-5))) =
      .ok (1, overwrittenStore) :=
  overwrite_firstOfTwo _ _ _

theorem metricsWithin_overwrittenStore :
    overwrittenStore.metricsWithin "2025-03-01" "2025-03-02" =
      .ok [⟨"2025-03-01", "gpt-4o", 0, 0, 0, 2, Float.ofInt 0⟩] :=
  metricsWithin_of_one_group ("2025-03-01", "gpt-4o")
    (List.mergeSort_of_pairwise (by decide +kernel)) (by decide +kernel) rfl rfl

/--
No tokens are shown for a group whose input tokens add up to a negative
number, although the requests that are read show three.
-/
theorem negative_sum_is_cut :
    (Store.empty.after
        [.putRequests
          [startedRecord "2025-03-01T10:00:00.000Z",
            secondRecord "2025-03-01T10:00:00.000Z"]]).overwrite
        requestsTable "input_tokens" "a" (some (.integer (-5))) =
      .ok (1, overwrittenStore) ∧
    ∃ metric,
      overwrittenStore.metricsWithin "2025-03-01" "2025-03-02" = .ok [metric] ∧
        metric.inputTokens = 0 ∧
        integerSum StoredRequest.inputTokens
          (overwrittenStore.group "2025-03-01" "2025-03-02" (metric.date, metric.model)) = -2 ∧
        ∃ records, overwrittenStore.requests.mapM StoredRequest.read = .ok records ∧
          (records.map RequestRecord.inputTokens).sum = 3 :=
  ⟨overwrite_inputTokens, _, metricsWithin_overwrittenStore, rfl, by decide +kernel, _, rfl, rfl⟩

end UsageLedger
