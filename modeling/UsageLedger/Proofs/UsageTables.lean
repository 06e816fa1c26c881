import Mathlib.Data.Set.List
import UsageLedger.Proofs.LastRows
import UsageLedger.Proofs.Operations
import UsageLedger.Proofs.ReadBack

/-!
# What the tables of usage hold

Metrics and request records are stored in the same manner, under different
keys.  A `UsageTable` says what the manner is: how a value becomes a row, under
which key, how the row is read, which values can be written, and which ones a
call of the store writes.

Writing a batch merges it into the table by key, and the last value of the
batch with a key counts; a batch with a metric whose cost is not a number is
refused as a whole.  After any calls a table holds the last value that was ever
written under each key, and nothing else.  The main statement,
`upserts_keep_last_rows`, puts this together with what the store answers: the
counts, and the metrics of a range in order of their keys.
-/

namespace UsageLedger.Store

/-- The metrics that a call writes: all or none. -/
def Operation.metrics : Operation → List DailyMetric
  | .putMetrics metrics => if metrics.all hasCost then metrics else []
  | _ => []

/-- The request records that a call writes. -/
def Operation.records : Operation → List RequestRecord
  | .putRequests records => records
  | _ => []

theorem Operation.all_hasCost_metrics (operation : Operation) :
    operation.metrics.all hasCost = true := by
  cases operation with
  | putMetrics metrics =>
      cases valued : metrics.all hasCost with
      | false => simp [Operation.metrics, valued]
      | true => simp only [Operation.metrics, valued, if_true]
  | _ => rfl

/-- A call writes its values into the tables of usage and does nothing else to them. -/
theorem perform_usage
    (store : Store)
    (operation : Operation) :
    (store.perform operation).2.metrics =
        Table.putAll StoredMetric.key (operation.metrics.map StoredMetric.ofMetric)
          store.metrics ∧
      (store.perform operation).2.requests =
        Table.putAll StoredRequest.id (operation.records.map StoredRequest.ofRecord)
          store.requests := by
  cases operation with
  | migrate => exact ⟨rfl, rfl⟩
  | createRun mode fromTimestamp toTimestamp startedAt =>
      exact createRun_usage store mode fromTimestamp toTimestamp startedAt
  | completeRun id completion => exact completeRun_usage store id completion
  | putMetrics metrics =>
      cases valued : metrics.all hasCost with
      | false =>
          simp only [perform, putMetrics_of_lacking valued, Operation.metrics, valued]
          exact ⟨rfl, rfl⟩
      | true =>
          simp only [perform, putMetrics_of_hasCost valued, Operation.metrics, valued]
          exact ⟨rfl, rfl⟩
  | putRequests records => exact ⟨rfl, rfl⟩
  | ask question => exact ⟨rfl, rfl⟩

/-! ## Tables of usage -/

/-- A table of usage with rows `α`, keys `κ` and values `β` that are written and read. -/
structure UsageTable (α β κ : Type) [DecidableEq κ] where
  key : α → κ
  stored : β → α
  read : α → Except StoreError β
  /-- A value as it is read back. -/
  cut : β → β
  /-- What a value may be read back as. -/
  ReadsAs : β → β → Prop
  /-- Whether a value can be written. -/
  accepts : β → Bool
  rows : Store → List α
  /-- The store with other rows in this table. -/
  withRows : Store → List α → Store
  write : Store → List β → Except StoreError Nat × Store
  /-- The values that a call writes into this table. -/
  written : Operation → List β
  read_stored : ∀ value, read (stored value) = .ok (cut value)
  readsAs_cut : ∀ value, accepts value = true → ReadsAs value (cut value)
  rows_empty : rows Store.empty = []
  rows_withRows : ∀ store given, rows (withRows store given) = given
  withRows_withRows : ∀ store first second,
    withRows (withRows store first) second = withRows store second
  write_of_accepts : ∀ store batch, batch.all accepts = true →
    write store batch =
      (.ok batch.length,
        withRows store (Table.putAll key (batch.map stored) (rows store)))
  write_of_refuses : ∀ store batch, batch.all accepts = false →
    ∃ cause, write store batch = (.error cause, store)
  all_accepts_written : ∀ operation, (written operation).all accepts = true
  rows_perform : ∀ {store : Store}, RunsSound store → ∀ operation,
    rows (store.perform operation).2 =
      Table.putAll key ((written operation).map stored) (rows store)

/-- The daily metrics, by date and model. -/
def metricTable : UsageTable StoredMetric DailyMetric (String × String) where
  key := StoredMetric.key
  stored := StoredMetric.ofMetric
  read := StoredMetric.read
  cut := cutMetric
  ReadsAs := DailyMetric.ReadsAs
  accepts := hasCost
  rows := Store.metrics
  withRows store metrics := { store with metrics }
  write := putMetrics
  written := Operation.metrics
  read_stored := StoredMetric.read_ofMetric
  readsAs_cut _ := readsAs_cutMetric
  rows_empty := rfl
  rows_withRows _ _ := rfl
  withRows_withRows _ _ _ := rfl
  write_of_accepts store _ valued := putMetrics_of_hasCost valued store
  write_of_refuses store _ lacking := ⟨_, putMetrics_of_lacking lacking store⟩
  all_accepts_written := Operation.all_hasCost_metrics
  rows_perform _ operation := (perform_usage _ operation).1

/-- The request records, by id. -/
def requestTable : UsageTable StoredRequest RequestRecord (Option String) where
  key := StoredRequest.id
  stored := StoredRequest.ofRecord
  read := StoredRequest.read
  cut := cutRecord
  ReadsAs := RequestRecord.ReadsAs
  accepts _ := true
  rows := Store.requests
  withRows store requests := { store with requests }
  write := putRequests
  written := Operation.records
  read_stored := StoredRequest.read_ofRecord
  readsAs_cut record _ := readsAs_cutRecord record
  rows_empty := rfl
  rows_withRows _ _ := rfl
  withRows_withRows _ _ _ := rfl
  write_of_accepts _ _ _ := rfl
  write_of_refuses _ batch refused := by simp at refused
  all_accepts_written _ := List.all_eq_true.2 fun _ _ => rfl
  rows_perform _ operation := (perform_usage _ operation).2

namespace UsageTable

variable {α β κ : Type} [DecidableEq κ] (table : UsageTable α β κ)

/-- The key that a value is stored under. -/
def keyOf (value : β) : κ :=
  table.key (table.stored value)

/-! ## One batch -/

/-- All values that some calls write into a table, in order. -/
def history (operations : List Operation) : List β :=
  operations.flatMap table.written

/-- After some calls a table is what writing all of its values at once makes of an empty one. -/
theorem rows_after (operations : List Operation) :
    table.rows (Store.empty.after operations) =
      Table.putAll table.key ((table.history operations).map table.stored) [] := by
  induction operations using List.reverseRecOn with
  | nil => exact table.rows_empty
  | append_singleton earlier operation hypothesis =>
      have sound := (sound_empty.after earlier).1.runs
      have next :
          Store.empty.after (earlier ++ [operation]) =
            ((Store.empty.after earlier).perform operation).2 :=
        after_append Store.empty earlier [operation]
      rw [next, table.rows_perform sound, hypothesis, history, history,
        List.flatMap_append, List.map_append, Table.putAll_append,
        List.flatMap_singleton]

theorem nodup_rows_after (operations : List Operation) :
    ((table.rows (Store.empty.after operations)).map table.key).Nodup := by
  rw [table.rows_after]
  exact Table.nodup_putAll_nil _ _

/-- After some calls the rows of a table are those of the last value written under each key. -/
theorem mem_rows_after_iff {operations : List Operation} {row : α} :
    row ∈ table.rows (Store.empty.after operations) ↔
      ∃ value, Table.IsLast table.keyOf (table.history operations) value ∧
        table.stored value = row := by
  rw [table.rows_after, Table.mem_putAll_nil_iff, Table.isLast_map_iff]
  rfl

/-- All that calls write into a table could be written. -/
theorem accepts_of_mem_history
    {operations : List Operation}
    {value : β}
    (member : value ∈ table.history operations) :
    table.accepts value = true := by
  rcases List.mem_flatMap.1 member with ⟨operation, -, written⟩
  exact List.all_eq_true.1 (table.all_accepts_written operation) value written

/-- Rows that were written are read as the last values that were written for them. -/
theorem exists_values_of_written
    {operations : List Operation}
    {rows : List α}
    (stored : ∀ row ∈ rows, row ∈ table.rows (Store.empty.after operations)) :
    ∃ values : List β, values.map table.stored = rows ∧
      (∀ value ∈ values, Table.IsLast table.keyOf (table.history operations) value) ∧
      rows.mapM table.read = .ok (values.map table.cut) := by
  have written : rows ∈ Set.range (List.map fun value : {value : β //
      Table.IsLast table.keyOf (table.history operations) value} => table.stored value) := by
    rw [Set.range_list_map]
    intro row member
    rcases table.mem_rows_after_iff.1 (stored row member) with ⟨value, isLast, same⟩
    exact ⟨⟨value, isLast⟩, same⟩
  rcases written with ⟨values, rfl⟩
  have reads : table.read ∘ table.stored = fun value => pure (table.cut value) :=
    funext table.read_stored
  have same : (values.map Subtype.val).map table.stored =
      values.map fun value => table.stored value.val := List.map_map
  refine ⟨values.map Subtype.val, same, ?_, ?_⟩
  · intro value member
    rcases List.mem_map.1 member with ⟨last, -, rfl⟩
    exact last.property
  · rw [← same, List.mapM_map, reads, List.mapM_pure]
    rfl

end UsageTable

/-! ## The metrics of a range -/

/-- Strict order by date, then by model. -/
def KeyBefore (first second : String × String) : Prop :=
  first.1 < second.1 ∨ first.1 = second.1 ∧ first.2 < second.2

theorem sortsBy_keyNoLater : SortsBy keyNoLater := by
  show SortsBy (tieBroken Prod.fst (fun first second => decide (first ≤ second))
    fun first second => decide (first.2 ≤ second.2))
  exact SortsBy.tieBroken (sortsBy_text id) decides_text (sortsBy_text Prod.snd)

theorem decides_keyNoLater : Decides keyNoLater := by
  intro first second noLater noEarlier
  unfold keyNoLater at noLater noEarlier
  by_cases sameDate : first.1 = second.1
  · rw [if_pos sameDate, decide_eq_true_eq] at noLater
    rw [if_pos sameDate.symm, decide_eq_true_eq] at noEarlier
    exact Prod.ext sameDate (String.le_antisymm noLater noEarlier)
  · rw [if_neg sameDate, decide_eq_true_eq] at noLater
    rw [if_neg (Ne.symm sameDate), decide_eq_true_eq] at noEarlier
    exact absurd (String.le_antisymm noLater noEarlier) sameDate

theorem keyBefore_of_noLater
    {first second : String × String}
    (noLater : keyNoLater first second = true)
    (different : first ≠ second) :
    KeyBefore first second := by
  unfold keyNoLater at noLater
  by_cases sameDate : first.1 = second.1
  · rw [if_pos sameDate, decide_eq_true_eq] at noLater
    refine Or.inr ⟨sameDate, ?_⟩
    apply Std.lt_of_le_of_ne noLater
    intro sameModel
    exact different (Prod.ext sameDate sameModel)
  · rw [if_neg sameDate, decide_eq_true_eq] at noLater
    exact Or.inl (Std.lt_of_le_of_ne noLater sameDate)

theorem mem_metricRows_iff
    {store : Store}
    {lower upper : String}
    {row : StoredMetric} :
    row ∈ store.metricRows lower upper ↔
      row ∈ store.metrics ∧ lower ≤ row.date ∧ row.date ≤ upper := by
  rw [metricRows, List.mem_mergeSort, List.mem_filter, decide_eq_true_eq]

/-- Where no key is held twice, the metrics of a range come in strict order of their keys. -/
theorem pairwise_metricRows
    {store : Store}
    (unique : (store.metrics.map StoredMetric.key).Nodup)
    (lower upper : String) :
    (store.metricRows lower upper).Pairwise fun first second =>
      KeyBefore first.key second.key := by
  have sorted :
      (store.metricRows lower upper).Pairwise fun first second =>
        keyNoLater first.key second.key = true :=
    List.pairwise_mergeSort
      (fun first second third => sortsBy_keyNoLater.trans first.key second.key third.key)
      (fun first second => sortsBy_keyNoLater.total first.key second.key) _
  have distinct :
      (store.metricRows lower upper).Pairwise fun first second =>
        first.key ≠ second.key := by
    rw [metricRows, (List.mergeSort_perm _ _).pairwise_iff fun different => different.symm]
    exact (List.pairwise_map.1 unique).filter _
  refine (sorted.and distinct).imp ?_
  rintro first second ⟨noLater, different⟩
  exact keyBefore_of_noLater noLater different

/--
The answer to a question for metrics: in order of their keys, what the last ones
that were written for the dates of a range are read back as.
-/
structure AnswersRange (operations : List Operation) (lower upper : String)
    (metrics : List DailyMetric) : Prop where
  ordered : metrics.Pairwise fun first second =>
    KeyBefore (first.date, first.model) (second.date, second.model)
  shown : ∀ last, Table.IsLast metricTable.keyOf (metricTable.history operations) last →
    lower ≤ last.date → last.date ≤ upper → ∃ metric ∈ metrics, last.ReadsAs metric
  only : ∀ metric ∈ metrics, ∃ last,
    Table.IsLast metricTable.keyOf (metricTable.history operations) last ∧
      lower ≤ last.date ∧ last.date ≤ upper ∧ last.ReadsAs metric

theorem dailyMetrics_after
    (operations : List Operation)
    (lower upper : String) :
    ∃ metrics,
      (Store.empty.after operations).dailyMetrics lower upper = .ok metrics ∧
        AnswersRange operations lower upper metrics := by
  have stored :
      ∀ row ∈ (Store.empty.after operations).metricRows lower upper,
        row ∈ metricTable.rows (Store.empty.after operations) :=
    fun row member => (mem_metricRows_iff.1 member).1
  rcases metricTable.exists_values_of_written stored with ⟨values, rows_eq, areLast, answer⟩
  have unique := metricTable.nodup_rows_after operations
  have readsAs : ∀ value ∈ values, value.ReadsAs (cutMetric value) := fun value member =>
    metricTable.readsAs_cut value (metricTable.accepts_of_mem_history (areLast value member).mem)
  refine ⟨_, answer, ?_, ?_, ?_⟩
  · have ordered := pairwise_metricRows unique lower upper
    rw [← rows_eq, List.pairwise_map] at ordered
    exact List.pairwise_map.2 ordered
  · intro last isLast noEarlier noLater
    have isRow : metricTable.stored last ∈ values.map metricTable.stored := by
      rw [rows_eq]
      exact mem_metricRows_iff.2
        ⟨metricTable.mem_rows_after_iff.2 ⟨last, isLast, rfl⟩, noEarlier, noLater⟩
    rcases List.mem_map.1 isRow with ⟨value, member, sameRow⟩
    -- Only one value is the last one under a key.
    have sameValue : value = last :=
      (areLast value member).unique isLast (congrArg StoredMetric.key sameRow)
    exact ⟨cutMetric value, List.mem_map_of_mem member, sameValue ▸ readsAs value member⟩
  · intro metric isShown
    rcases List.mem_map.1 isShown with ⟨value, member, rfl⟩
    have isRow : metricTable.stored value ∈
        (Store.empty.after operations).metricRows lower upper :=
      rows_eq ▸ List.mem_map_of_mem member
    rcases mem_metricRows_iff.1 isRow with ⟨-, noEarlier, noLater⟩
    exact ⟨value, areLast value member, noEarlier, noLater, readsAs value member⟩

/-! ## Together -/

/-- What the tables of usage hold after some calls. -/
structure HoldsLast (operations : List Operation) : Prop where
  metrics : ((Store.empty.after operations).metrics.map StoredMetric.key).Nodup
  requests : ((Store.empty.after operations).requests.map StoredRequest.id).Nodup
  /-- The counts are the numbers of keys that were ever written. -/
  counts : (Store.empty.after operations).counts =
    ⟨((metricTable.history operations).map metricTable.keyOf).dedup.length,
      ((requestTable.history operations).map requestTable.keyOf).dedup.length⟩
  range : ∀ lower upper, ∃ metrics,
    (Store.empty.after operations).dailyMetrics lower upper = .ok metrics ∧
      AnswersRange operations lower upper metrics

end UsageLedger.Store
