import Mathlib.Algebra.BigOperators.Group.List.Basic
import Mathlib.Algebra.Order.Ring.Nat
import UsageLedger.Store.Metrics
import UsageLedger.Usage.Cost

/-!
# Sums over groups of records

Between two times the metrics are computed from the request records: those of
one day and one model form a group, and a group is added up column by column.

A sum of counts is exact as long as it fits a signed integer and fails
otherwise; a sum of costs never fails.  So all groups are added up exactly when
the sums of each of their columns fit (`groupMetrics_of_fits`), and otherwise
the answer is the one failure that a sum can have
(`groupMetrics_of_not_fits`).
-/

namespace UsageLedger.Store

/-! ## Sums of counts and of costs -/

/-- The count in a cell, none if there is something else in it. -/
def Cell.count : Cell → Nat
  | .integer value => value.toNat
  | _ => 0

/-- A cell with a count in it. -/
def Cell.IsCount (cell : Cell) : Prop :=
  ∃ count : Nat, cell = .integer count

/-- A cell with a double in it. -/
def Cell.IsReal (cell : Cell) : Prop :=
  ∃ amount, cell = .real amount

/-- A cell with something else than an integer in it. -/
def Cell.IsInexact (cell : Cell) : Prop :=
  ∀ value, cell ≠ .integer value

/-- A cell with an integer or a double in it. -/
def Cell.IsNumber : Cell → Prop
  | .text _ => False
  | _ => True

/-- The sum of counts as a cell, unless it is more than a cell holds. -/
def checkedSum (total : Nat) : Except StoreError Cell :=
  if total ≤ largestSigned then .ok (.integer total) else .error .integerOverflow

theorem checkedSum_of_fits {total : Nat} (fits : total ≤ largestSigned) :
    checkedSum total = .ok (.integer total) :=
  if_pos fits

theorem checkedSum_of_not_fits {total : Nat} (exceeds : ¬ total ≤ largestSigned) :
    checkedSum total = .error .integerOverflow :=
  if_neg exceeds

theorem fitsInteger_natCast (total : Nat) :
    fitsInteger total = decide (total ≤ largestSigned) := by
  have least : leastSigned ≤ (total : Int) :=
    Int.le_trans (by decide) (Int.natCast_nonneg total)
  unfold fitsInteger
  rw [decide_eq_true least, Bool.true_and]
  exact decide_eq_decide.2 Int.ofNat_le

/-- Whatever counts follow, a sum that has left 64 bits fails. -/
theorem finish_foldl_overflowed
    {cells : List Cell}
    (counts : ∀ cell ∈ cells, cell.IsCount)
    (sum compensation : Float) :
    (cells.foldl RunningSum.add (.compensated true sum compensation)).finish =
      .error .integerOverflow := by
  induction cells generalizing sum compensation with
  | nil => rfl
  | cons cell rest hypothesis =>
      rcases List.forall_mem_cons.1 counts with ⟨⟨count, rfl⟩, later⟩
      exact hypothesis later _ _

theorem finish_foldl_exact
    {cells : List Cell}
    (counts : ∀ cell ∈ cells, cell.IsCount)
    {start : Nat}
    (fits : start ≤ largestSigned) :
    (cells.foldl RunningSum.add (.exact start)).finish =
      checkedSum (start + (cells.map Cell.count).sum) := by
  -- By induction on the cells: as long as the exact sum fits, it is what was added so far.
  induction cells generalizing start with
  | nil => exact (checkedSum_of_fits fits).symm
  | cons cell rest hypothesis =>
      rcases List.forall_mem_cons.1 counts with ⟨⟨count, rfl⟩, later⟩
      have total :
          start + ((Cell.integer count :: rest).map Cell.count).sum =
            start + count + (rest.map Cell.count).sum :=
        (Nat.add_assoc _ _ _).symm
      have next : ((start : Int) + count) = ((start + count : Nat) : Int) :=
        (Int.natCast_add _ _).symm
      rw [List.foldl_cons, RunningSum.add, next, fitsInteger_natCast, total]
      by_cases nextFits : start + count ≤ largestSigned
      · rw [if_pos (decide_eq_true nextFits)]
        exact hypothesis later nextFits
      · rw [if_neg (by simpa using nextFits), checkedSum_of_not_fits (by omega)]
        exact finish_foldl_overflowed later _ _

/-- Counts have an exact sum or none. -/
theorem sumCells_of_counts
    {cells : List Cell}
    (counts : ∀ cell ∈ cells, cell.IsCount) :
    sumCells cells = checkedSum (cells.map Cell.count).sum := by
  have sum := finish_foldl_exact counts (Nat.zero_le largestSigned)
  rw [Nat.zero_add] at sum
  exact sum

/-- A sum that has not left 64 bits in integers. -/
def RunningSum.Sound : RunningSum → Prop
  | .exact _ => True
  | .compensated overflowed _ _ => overflowed = false

theorem RunningSum.Sound.foldl_add
    {sum : RunningSum}
    (sound : sum.Sound)
    {cells : List Cell}
    (inexact : ∀ cell ∈ cells, cell.IsInexact) :
    (cells.foldl RunningSum.add sum).Sound := by
  induction cells generalizing sum with
  | nil => exact sound
  | cons cell rest hypothesis =>
      rcases List.forall_mem_cons.1 inexact with ⟨here, later⟩
      apply hypothesis _ later
      cases cell with
      | integer value => exact absurd rfl (here value)
      | real value => cases sum <;> rfl
      | text value => cases sum <;> rfl

theorem RunningSum.Sound.finish {sum : RunningSum} (sound : sum.Sound) :
    ∃ cell, sum.finish = .ok cell ∧ cell.IsNumber := by
  cases sum with
  | exact total => exact ⟨_, rfl, trivial⟩
  | compensated overflowed sum compensation =>
      cases sound
      exact ⟨_, rfl, trivial⟩

/-- Doubles always have a sum, which is a number; a text among them counts as a double. -/
theorem sumCells_of_inexact
    {cells : List Cell}
    (inexact : ∀ cell ∈ cells, cell.IsInexact) :
    ∃ cell, sumCells cells = .ok cell ∧ cell.IsNumber := by
  have start : (RunningSum.exact 0).Sound := trivial
  exact (start.foldl_add inexact).finish

theorem Cell.IsNumber.readReal_numberOrZero
    {cell : Cell}
    (number : cell.IsNumber)
    (index : Nat)
    (column : String) :
    ∃ amount, cell.numberOrZero.readReal index column = .ok amount := by
  cases cell with
  | integer value => exact ⟨_, rfl⟩
  | real value =>
      show ∃ amount,
        (if value.isNaN then Cell.integer 0 else .real value).readReal index column =
          .ok amount
      split
      · exact ⟨_, rfl⟩
      · exact ⟨_, rfl⟩
  | text value => exact number.elim

/-! ## Steps that may fail -/

section Steps

variable {α β ε : Type} {step : α → Except ε β} {inputs : List α}

/-- Steps that all succeed give one output for each input. -/
theorem mapM_of_succeeds
    {holds : α → β → Prop}
    (succeeds : ∀ input ∈ inputs, ∃ output, step input = .ok output ∧ holds input output) :
    ∃ outputs, inputs.mapM step = .ok outputs ∧
      (∀ input ∈ inputs, ∃ output ∈ outputs, holds input output) ∧
      ∀ output ∈ outputs, ∃ input ∈ inputs, holds input output := by
  induction inputs with
  | nil => exact ⟨[], rfl, by simp, by simp⟩
  | cons input rest hypothesis =>
      rcases List.forall_mem_cons.1 succeeds with ⟨⟨output, performed, known⟩, later⟩
      rcases hypothesis later with ⟨outputs, others, covered, covering⟩
      refine ⟨output :: outputs, ?_, ?_, ?_⟩
      · rw [List.mapM_cons, performed, others]
        rfl
      · rw [List.forall_mem_cons]
        constructor
        · exact ⟨output, List.mem_cons_self, known⟩
        · intro other member
          rcases covered other member with ⟨result, isResult, related⟩
          exact ⟨result, List.mem_cons_of_mem _ isResult, related⟩
      · rw [List.forall_mem_cons]
        constructor
        · exact ⟨input, List.mem_cons_self, known⟩
        · intro result isResult
          rcases covering result isResult with ⟨other, member, related⟩
          exact ⟨other, List.mem_cons_of_mem _ member, related⟩

/-- Steps with one possible failure, one of which fails, fail with it. -/
theorem mapM_of_fails
    {failure : ε}
    (either : ∀ input ∈ inputs,
      (∃ output, step input = .ok output) ∨ step input = .error failure)
    (fails : ∃ input ∈ inputs, step input = .error failure) :
    inputs.mapM step = .error failure := by
  induction inputs with
  | nil => simp at fails
  | cons input rest hypothesis =>
      rcases List.forall_mem_cons.1 either with ⟨⟨output, performed⟩ | failed, later⟩
      · rcases fails with ⟨culprit, member, failed⟩
        rcases List.mem_cons.1 member with rfl | inRest
        · rw [performed] at failed
          cases failed
        · rw [List.mapM_cons, performed, hypothesis later ⟨culprit, inRest, failed⟩]
          rfl
      · rw [List.mapM_cons, failed]
        rfl

end Steps

/-! ## One group -/

/-- The columns of counts that are added up. -/
def tokenColumns : List (StoredRequest → Cell) :=
  [StoredRequest.inputTokens, StoredRequest.outputTokens, StoredRequest.totalTokens]

/-- The sum of a column over some records, however large. -/
def tokenSum (column : StoredRequest → Cell) (rows : List StoredRequest) : Nat :=
  (rows.map fun row => (column row).count).sum

/-- The sums of the columns fit signed integers. -/
def SumsFit (rows : List StoredRequest) : Prop :=
  ∀ column ∈ tokenColumns, tokenSum column rows ≤ largestSigned

/-- A record with counts as its counts and no integer as its cost. -/
structure StoredRequest.Numeric (row : StoredRequest) : Prop where
  counts : ∀ column ∈ tokenColumns, (column row).IsCount
  cost : ∀ cell, row.cost = some cell → cell.IsInexact

/-- An entry that adds up some records exactly. -/
structure AddsUp (rows : List StoredRequest) (entry : ModelUsage) : Prop where
  inputTokens : entry.inputTokens = tokenSum StoredRequest.inputTokens rows
  outputTokens : entry.outputTokens = tokenSum StoredRequest.outputTokens rows
  totalTokens : entry.totalTokens = tokenSum StoredRequest.totalTokens rows
  requestCount : entry.requestCount = rows.length

/-- The row of a group whose sums fit. -/
def groupRow (key : String × String) (rows : List StoredRequest) (cost : Cell) :
    StoredMetric where
  date := key.1
  model := key.2
  inputTokens := .integer (tokenSum StoredRequest.inputTokens rows)
  outputTokens := .integer (tokenSum StoredRequest.outputTokens rows)
  totalTokens := .integer (tokenSum StoredRequest.totalTokens rows)
  requestCount := .integer rows.length
  totalCost := cost.numberOrZero

/-- A row that is read as the metric of some records on a day and of a model. -/
def ReadsAs (key : String × String) (rows : List StoredRequest) (row : StoredMetric) : Prop :=
  ∃ metric, row.read = .ok metric ∧ (metric.date, metric.model) = key ∧
    AddsUp rows metric.usage

theorem sumsFit_iff {rows : List StoredRequest} :
    SumsFit rows ↔
      tokenSum StoredRequest.inputTokens rows ≤ largestSigned ∧
        tokenSum StoredRequest.outputTokens rows ≤ largestSigned ∧
        tokenSum StoredRequest.totalTokens rows ≤ largestSigned := by
  simp [SumsFit, tokenColumns]

theorem readsAs_groupRow
    (key : String × String)
    (rows : List StoredRequest)
    {cost : Cell}
    (number : cost.IsNumber) :
    ReadsAs key rows (groupRow key rows cost) := by
  rcases number.readReal_numberOrZero 6 "total_cost" with ⟨amount, readCost⟩
  have read :
      (groupRow key rows cost).read =
        .ok
          { date := key.1
            model := key.2
            inputTokens := tokenSum StoredRequest.inputTokens rows
            outputTokens := tokenSum StoredRequest.outputTokens rows
            totalTokens := tokenSum StoredRequest.totalTokens rows
            requestCount := rows.length
            totalCost := amount } := by
    show (cost.numberOrZero.readReal 6 "total_cost").bind _ = _
    rw [readCost]
    rfl
  exact ⟨_, read, rfl, rfl, rfl, rfl, rfl⟩

section Permuted

variable {first second : List StoredRequest} (same : first.Perm second)

include same

theorem tokenSum_of_perm (column : StoredRequest → Cell) :
    tokenSum column first = tokenSum column second :=
  (same.map _).sum_eq

theorem sumsFit_of_perm : SumsFit first ↔ SumsFit second := by
  simp only [SumsFit, tokenSum_of_perm same]

theorem addsUp_of_perm {entry : ModelUsage} (addsUp : AddsUp first entry) :
    AddsUp second entry where
  inputTokens := addsUp.inputTokens.trans (tokenSum_of_perm same _)
  outputTokens := addsUp.outputTokens.trans (tokenSum_of_perm same _)
  totalTokens := addsUp.totalTokens.trans (tokenSum_of_perm same _)
  requestCount := addsUp.requestCount.trans same.length_eq

end Permuted

theorem numeric_ofRecord (record : RequestRecord) :
    (StoredRequest.ofRecord record).Numeric where
  counts column member := by
    simp only [tokenColumns, List.mem_cons, List.not_mem_nil, or_false] at member
    rcases member with rfl | rfl | rfl <;> exact ⟨_, rfl⟩
  cost cell given := by
    rcases Option.map_eq_some_iff.1 given with ⟨amount, -, rfl⟩
    exact fun value => nofun

section Group

variable
    {rows : List StoredRequest}
    (numeric : ∀ row ∈ rows, row.Numeric)

include numeric

theorem sumCells_tokens {column : StoredRequest → Cell} (member : column ∈ tokenColumns) :
    sumCells (rows.map column) = checkedSum (tokenSum column rows) := by
  have counts : ∀ cell ∈ rows.map column, cell.IsCount := by
    rw [List.forall_mem_map]
    intro row isRow
    exact (numeric row isRow).counts column member
  rw [sumCells_of_counts counts, List.map_map]
  rfl

theorem sumCells_inputTokens :
    sumCells (rows.map StoredRequest.inputTokens) =
      checkedSum (tokenSum StoredRequest.inputTokens rows) :=
  sumCells_tokens numeric (by simp [tokenColumns])

theorem sumCells_outputTokens :
    sumCells (rows.map StoredRequest.outputTokens) =
      checkedSum (tokenSum StoredRequest.outputTokens rows) :=
  sumCells_tokens numeric (by simp [tokenColumns])

theorem sumCells_totalTokens :
    sumCells (rows.map StoredRequest.totalTokens) =
      checkedSum (tokenSum StoredRequest.totalTokens rows) :=
  sumCells_tokens numeric (by simp [tokenColumns])

theorem sumCells_costs :
    ∃ cell, sumCells (rows.filterMap StoredRequest.cost) = .ok cell ∧ cell.IsNumber := by
  apply sumCells_of_inexact
  intro cell member
  rcases List.mem_filterMap.1 member with ⟨row, isRow, given⟩
  exact (numeric row isRow).cost cell given

/-- A group is added up if its sums fit, and fails otherwise. -/
theorem groupMetric_of_fits (fits : SumsFit rows) (key : String × String) :
    ∃ row, groupMetric key rows = .ok row ∧ ReadsAs key rows row := by
  rcases sumCells_costs numeric with ⟨cost, costs, number⟩
  rcases sumsFit_iff.1 fits with ⟨input, output, total⟩
  refine ⟨groupRow key rows cost, ?_, readsAs_groupRow key rows number⟩
  rw [groupMetric, sumCells_inputTokens numeric, sumCells_outputTokens numeric,
    sumCells_totalTokens numeric, checkedSum_of_fits input, checkedSum_of_fits output,
    checkedSum_of_fits total, costs]
  rfl

theorem groupMetric_of_not_fits (exceeds : ¬ SumsFit rows) (key : String × String) :
    groupMetric key rows = .error .integerOverflow := by
  rw [groupMetric, sumCells_inputTokens numeric, sumCells_outputTokens numeric,
    sumCells_totalTokens numeric]
  -- The columns are added up in turn, and the first that does not fit ends it.
  by_cases input : tokenSum StoredRequest.inputTokens rows ≤ largestSigned
  · rw [checkedSum_of_fits input]
    by_cases output : tokenSum StoredRequest.outputTokens rows ≤ largestSigned
    · rw [checkedSum_of_fits output, checkedSum_of_not_fits]
      · rfl
      · intro total
        exact exceeds (sumsFit_iff.2 ⟨input, output, total⟩)
    · rw [checkedSum_of_not_fits output]
      rfl
  · rw [checkedSum_of_not_fits input]
    rfl

end Group

/-! ## All groups -/

/-- The records of a day and a model. -/
def inGroup (key : String × String) (rows : List StoredRequest) : List StoredRequest :=
  rows.filter fun row => row.group? == some key

theorem mem_groupKeys_iff {rows : List StoredRequest} {key : String × String} :
    key ∈ groupKeys rows ↔ inGroup key rows ≠ [] := by
  rw [groupKeys, List.mem_mergeSort, List.mem_eraseDups, List.mem_filterMap, inGroup,
    Ne, List.filter_eq_nil_iff]
  simp

theorem sumsFit_nil : SumsFit [] :=
  fun _ _ => Nat.zero_le _

section Groups

variable
    {rows : List StoredRequest}
    (numeric : ∀ row ∈ rows, row.Numeric)

include numeric

theorem numeric_inGroup (key : String × String) :
    ∀ row ∈ inGroup key rows, row.Numeric := by
  intro row member
  exact numeric row (List.mem_filter.1 member).1

/-- Where all sums fit, each group has a row. -/
theorem groupMetrics_of_fits (fits : ∀ key, SumsFit (inGroup key rows)) :
    ∃ groups, groupMetrics rows = .ok groups ∧
      (∀ key ∈ groupKeys rows, ∃ row ∈ groups, ReadsAs key (inGroup key rows) row) ∧
      ∀ row ∈ groups, ∃ key ∈ groupKeys rows, ReadsAs key (inGroup key rows) row := by
  apply mapM_of_succeeds
  intro key member
  exact groupMetric_of_fits (numeric_inGroup numeric key) (fits key) key

/-- One sum that does not fit is enough to fail, whatever the other groups are. -/
theorem groupMetrics_of_not_fits
    {culprit : String × String}
    (exceeds : ¬ SumsFit (inGroup culprit rows)) :
    groupMetrics rows = .error .integerOverflow := by
  apply mapM_of_fails
  · intro key member
    by_cases fits : SumsFit (inGroup key rows)
    · rcases groupMetric_of_fits (numeric_inGroup numeric key) fits key with
        ⟨row, computed, -⟩
      exact Or.inl ⟨row, computed⟩
    · exact Or.inr (groupMetric_of_not_fits (numeric_inGroup numeric key) fits key)
  · refine ⟨culprit, ?_, groupMetric_of_not_fits (numeric_inGroup numeric culprit) exceeds _⟩
    rw [mem_groupKeys_iff]
    intro empty
    rw [empty] at exceeds
    exact exceeds sumsFit_nil

end Groups

/-! ## The metrics between two times -/

section Within

variable
    {store : Store}
    {lower upper : String}
    (numeric : ∀ row ∈ store.requestsWithin lower upper, row.Numeric)

include numeric

/-- Where all sums fit, each group has a metric, and each metric adds up its group. -/
theorem metricsWithin_of_fits
    (fits : ∀ key, SumsFit (inGroup key (store.requestsWithin lower upper))) :
    ∃ metrics, store.metricsWithin lower upper = .ok metrics ∧
      (∀ key ∈ groupKeys (store.requestsWithin lower upper),
        ∃ metric ∈ metrics, (metric.date, metric.model) = key) ∧
      ∀ metric ∈ metrics,
        AddsUp (inGroup (metric.date, metric.model) (store.requestsWithin lower upper))
          metric.usage := by
  rcases groupMetrics_of_fits numeric fits with ⟨groups, computed, covered, covering⟩
  have reads :
      ∀ row ∈ groups.mergeSort costNoLater, ∃ metric, row.read = .ok metric ∧
        (row.read = .ok metric ∧
          AddsUp (inGroup (metric.date, metric.model) (store.requestsWithin lower upper))
            metric.usage) := by
    intro row member
    rcases covering row (List.mem_mergeSort.1 member) with
      ⟨key, -, metric, read, rfl, addsUp⟩
    exact ⟨metric, read, read, addsUp⟩
  rcases mapM_of_succeeds reads with ⟨metrics, readAll, ofRow, ofMetric⟩
  refine ⟨metrics, ?_, ?_, ?_⟩
  · rw [metricsWithin, computed]
    exact readAll
  · intro key member
    rcases covered key member with ⟨row, isGroup, metric, read, sameKey, -⟩
    rcases ofRow row (List.mem_mergeSort.2 isGroup) with ⟨shown, isMetric, readToo, -⟩
    -- A row is read in one way only, so what is shown of it has its key.
    rw [read] at readToo
    cases readToo
    exact ⟨metric, isMetric, sameKey⟩
  · intro metric isMetric
    rcases ofMetric metric isMetric with ⟨row, -, -, addsUp⟩
    exact addsUp

theorem metricsWithin_of_not_fits
    {culprit : String × String}
    (exceeds : ¬ SumsFit (inGroup culprit (store.requestsWithin lower upper))) :
    store.metricsWithin lower upper = .error .integerOverflow := by
  rw [metricsWithin, groupMetrics_of_not_fits numeric exceeds]
  rfl

end Within

end UsageLedger.Store
