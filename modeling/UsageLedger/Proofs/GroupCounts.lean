import Mathlib.Data.List.Forall2
import Mathlib.Data.List.Nodup
import UsageLedger.Proofs.RequestPages
import UsageLedger.Proofs.TokenSums

/-!
# Counting requests by their groups

Distinct keys that cover some rows part them into groups: one after another the
groups are the rows in another order.  The metrics between two times are one
for each day and model, and the buckets of a summary are one for each date; so
a summary counts every request of a model that started in its range, and
counts it once.
-/

namespace UsageLedger

open UsageLedger.Service
open UsageLedger.Store

/-! ## Parting rows by keys -/

section Parting

variable {α κ : Type} [BEq κ] [LawfulBEq κ]

theorem nodup_eraseDups (keys : List κ) : keys.eraseDups.Nodup := by
  -- By induction on the length: the later keys are the ones left without the first.
  induction length : keys.length using Nat.strong_induction_on generalizing keys with
  | _ bound hypothesis =>
      cases keys with
      | nil => exact List.nodup_nil
      | cons key rest =>
          rw [List.eraseDups_cons, List.nodup_cons, List.mem_eraseDups]
          constructor
          · simp
          · apply hypothesis _ _ _ rfl
            have shorter := List.length_filter_le (fun other => !other == key) rest
            rw [← length, List.length_cons]
            omega

/-- Rows by distinct keys that cover them, one key after another, are the rows in another order. -/
theorem perm_flatMap_filter
    (key : α → κ)
    {keys : List κ}
    (distinct : keys.Nodup)
    {rows : List α}
    (covers : ∀ row ∈ rows, key row ∈ keys) :
    (keys.flatMap fun wanted => rows.filter fun row => key row == wanted).Perm rows := by
  induction keys generalizing rows with
  | nil =>
      have none : rows = [] := List.eq_nil_iff_forall_not_mem.2 fun row member =>
        List.not_mem_nil (covers row member)
      rw [none]
      exact List.Perm.refl _
  | cons wanted rest hypothesis =>
      rcases List.nodup_cons.1 distinct with ⟨fresh, distinctRest⟩
      have others : ∀ other ∈ rest,
          (rows.filter fun row => key row == other) =
            (rows.filter fun row => !key row == wanted).filter fun row =>
              key row == other := by
        intro other member
        rw [List.filter_filter]
        refine List.filter_congr fun row _ => ?_
        by_cases same : key row = other
        · have different : other ≠ wanted := fun equal => fresh (equal ▸ member)
          simp [same, different]
        · simp [same]
      rw [List.flatMap_cons, List.flatMap_congr others]
      refine (List.Perm.append_left _ (hypothesis distinctRest ?_)).trans
        (List.filter_append_perm _ rows)
      intro row member
      rcases List.mem_filter.1 member with ⟨isRow, notWanted⟩
      rcases List.mem_cons.1 (covers row isRow) with same | later
      · simp [same] at notWanted
      · exact later

end Parting

/-! ## One metric for each group -/

namespace Store

theorem forall₂_of_mapM
    {α β ε : Type}
    {step : α → Except ε β}
    {inputs : List α}
    {outputs : List β}
    (performed : inputs.mapM step = .ok outputs) :
    List.Forall₂ (fun input output => step input = .ok output) inputs outputs := by
  induction inputs generalizing outputs with
  | nil =>
      cases performed
      exact .nil
  | cons input rest hypothesis =>
      rw [List.mapM_cons] at performed
      rcases bind_eq_ok_iff.1 performed with ⟨output, first, later⟩
      rcases bind_eq_ok_iff.1 later with ⟨others, remaining, built⟩
      cases built
      exact .cons first (hypothesis remaining)

/-- Steps that keep a key keep the keys of a list. -/
theorem map_of_mapM
    {α β κ ε : Type}
    {step : α → Except ε β}
    (before : α → κ)
    {after : β → κ}
    (keeps : ∀ input output, step input = .ok output → after output = before input)
    {inputs : List α}
    {outputs : List β}
    (performed : inputs.mapM step = .ok outputs) :
    outputs.map after = inputs.map before := by
  have steps := forall₂_of_mapM performed
  clear performed
  induction steps with
  | nil => rfl
  | cons first _ hypothesis =>
      rw [List.map_cons, List.map_cons, keeps _ _ first, hypothesis]

theorem key_of_groupMetric
    {key : String × String}
    {rows : List StoredRequest}
    {row : StoredMetric}
    (computed : groupMetric key rows = .ok row) :
    row.key = key := by
  simp only [groupMetric, bind_eq_ok_iff] at computed
  rcases computed with ⟨_, -, _, -, _, -, _, -, built⟩
  cases built
  rfl

theorem key_of_readMetric
    {row : StoredMetric}
    {metric : DailyMetric}
    (read : row.read = .ok metric) :
    (metric.date, metric.model) = row.key := by
  simp only [StoredMetric.read, bind_eq_ok_iff] at read
  rcases read with ⟨_, -, _, -, _, -, _, -, _, -, built⟩
  cases built
  rfl

/-- The metrics between two times have the groups as their keys, each once. -/
theorem perm_keys_metricsWithin
    {store : Store}
    {lower upper : String}
    {metrics : List DailyMetric}
    (computed : store.metricsWithin lower upper = .ok metrics) :
    (metrics.map fun metric => (metric.date, metric.model)).Perm
      (groupKeys (store.requestsWithin lower upper)) := by
  rcases bind_eq_ok_iff.1 computed with ⟨groups, grouped, read⟩
  have keys : groups.map StoredMetric.key = groupKeys (store.requestsWithin lower upper) := by
    rw [map_of_mapM id (fun _ _ => key_of_groupMetric) grouped, List.map_id]
  rw [map_of_mapM StoredMetric.key (fun _ _ => key_of_readMetric) read, ← keys]
  exact (List.mergeSort_perm _ _).map _

/-- Whether a record is of a model. -/
def StoredRequest.isOf (model : String) (row : StoredRequest) : Bool :=
  row.model == some model

theorem model_of_mem_inGroup
    {key : String × String}
    {rows : List StoredRequest}
    {row : StoredRequest}
    (member : row ∈ inGroup key rows) :
    row.model = some key.2 :=
  (StoredRequest.group?_eq_some_iff.1 (eq_of_beq (List.mem_filter.1 member).2)).1

/-- A group counts for its own model only. -/
theorem countP_inGroup
    (key : String × String)
    (rows : List StoredRequest)
    (model : String) :
    (inGroup key rows).countP (StoredRequest.isOf model) =
      if key.2 == model then (inGroup key rows).length else 0 := by
  by_cases same : key.2 = model
  · rw [if_pos (beq_iff_eq.2 same), List.countP_eq_length]
    intro row member
    rw [StoredRequest.isOf, model_of_mem_inGroup member, same, beq_self_eq_true]
  · rw [if_neg (by simpa using same), List.countP_eq_zero]
    intro row member isOf
    rw [StoredRequest.isOf, model_of_mem_inGroup member, beq_iff_eq] at isOf
    exact same (Option.some.inj isOf)

theorem nodup_groupKeys (rows : List StoredRequest) : (groupKeys rows).Nodup :=
  (List.mergeSort_perm _ _).nodup_iff.2 (nodup_eraseDups _)

/-- The groups part the records that have one. -/
theorem perm_flatMap_inGroup
    {rows : List StoredRequest}
    (grouped : ∀ row ∈ rows, ∃ key, row.group? = some key) :
    ((groupKeys rows).flatMap fun key => inGroup key rows).Perm rows := by
  have distinct : ((groupKeys rows).map some).Nodup :=
    (nodup_groupKeys rows).map (Option.some_injective _)
  have covers : ∀ row ∈ rows, row.group? ∈ (groupKeys rows).map some := by
    intro row member
    rcases grouped row member with ⟨key, hasKey⟩
    rw [hasKey]
    apply List.mem_map_of_mem
    rw [groupKeys, List.mem_mergeSort, List.mem_eraseDups]
    exact List.mem_filterMap.2 ⟨row, member, hasKey⟩
  have parted := perm_flatMap_filter StoredRequest.group? distinct covers
  rw [List.flatMap_map] at parted
  exact parted

theorem exists_group_of_mem_requestsWithin
    {store : Store}
    {lower upper : String}
    {row : StoredRequest}
    (member : row ∈ store.requestsWithin lower upper) :
    ∃ key, row.group? = some key := by
  rw [requestsWithin, List.mem_mergeSort, List.mem_filter, Bool.and_eq_true] at member
  rcases member with ⟨-, within, hasModel⟩
  rcases Option.isSome_iff_exists.1 hasModel with ⟨model, given⟩
  rcases StoredRequest.startsWithin_iff.1 within with ⟨start, starts, -⟩
  exact ⟨_, StoredRequest.group?_eq_some_iff.2 ⟨given, start, starts, rfl⟩⟩

/-- The records of a model between two times, in the order in which they are stored. -/
theorem countP_requestsWithin (store : Store) (lower upper model : String) :
    (store.requestsWithin lower upper).countP (StoredRequest.isOf model) =
      store.requests.countP fun row =>
        row.startsWithin lower upper && row.isOf model := by
  rw [requestsWithin, (List.mergeSort_perm _ _).countP_eq, List.countP_filter]
  refine List.countP_congr fun row _ => ?_
  simp only [StoredRequest.isOf, Bool.and_eq_true, beq_iff_eq]
  constructor
  · rintro ⟨isOf, within, -⟩
    exact ⟨within, isOf⟩
  · rintro ⟨within, isOf⟩
    exact ⟨isOf, within, by rw [isOf]; rfl⟩

end Store

/-! ## Summaries -/

/-- The requests of a model that all buckets of a summary count. -/
def CostSummary.requestsOf (summary : CostSummary) (model : String) : Nat :=
  (((summary.daily.flatMap DailyCost.usage).filter fun entry => entry.model == model).map
    ModelUsage.requestCount).sum

/-- The entries of all buckets with their dates. -/
def CostSummary.dated (summary : CostSummary) : List (String × ModelUsage) :=
  summary.daily.flatMap fun bucket => bucket.usage.map fun entry => (bucket.date, entry)

theorem nodup_metricDates (metrics : List DailyMetric) : (metricDates metrics).Nodup :=
  (List.mergeSort_perm _ _).nodup_iff.2 (nodup_eraseDups _)

/-- The dated entries of the buckets are those of the metrics in another order. -/
theorem perm_dated_ofMetrics (metrics : List DailyMetric) :
    (CostSummary.ofMetrics metrics).dated.Perm
      (metrics.map fun metric => (metric.date, metric.usage)) := by
  have parted := perm_flatMap_filter DailyMetric.date (nodup_metricDates metrics)
    fun metric member => mem_metricDates_iff.2 ⟨metric, member, rfl⟩
  have dated : ∀ date,
      ((metrics.filter fun metric => metric.date == date).map DailyMetric.usage).map
          (fun entry => (date, entry)) =
        (metrics.filter fun metric => metric.date == date).map fun metric =>
          (metric.date, metric.usage) := by
    intro date
    rw [List.map_map]
    refine List.map_congr_left fun metric member => ?_
    rw [Function.comp_apply, eq_of_beq (List.mem_filter.1 member).2]
  have buckets :
      (CostSummary.ofMetrics metrics).dated =
        ((metricDates metrics).flatMap fun date =>
          metrics.filter fun metric => metric.date == date).map fun metric =>
            (metric.date, metric.usage) := by
    rw [CostSummary.dated, CostSummary.ofMetrics, List.flatMap_map, List.map_flatMap]
    exact List.flatMap_congr fun date _ => dated date
  rw [buckets]
  exact parted.map _

/-- The entries of all buckets are those of the metrics in another order. -/
theorem perm_usage_ofMetrics (metrics : List DailyMetric) :
    ((CostSummary.ofMetrics metrics).daily.flatMap DailyCost.usage).Perm
      (metrics.map DailyMetric.usage) := by
  have entries := (perm_dated_ofMetrics metrics).map Prod.snd
  rw [CostSummary.dated, List.map_flatMap, List.map_map] at entries
  simpa only [List.map_map, Function.comp_def, List.map_id'] using entries

theorem requestsOf_ofMetrics
    {metrics : List DailyMetric}
    {rows : List StoredRequest}
    (adds : ∀ metric ∈ metrics,
      AddsUp (inGroup (metric.date, metric.model) rows) metric.usage)
    (model : String) :
    (CostSummary.ofMetrics metrics).requestsOf model =
      (metrics.map fun metric =>
        (inGroup (metric.date, metric.model) rows).countP (StoredRequest.isOf model)).sum := by
  rw [CostSummary.requestsOf, (((perm_usage_ofMetrics metrics).filter _).map _).sum_eq]
  induction metrics with
  | nil => rfl
  | cons metric rest hypothesis =>
      rcases List.forall_mem_cons.1 adds with ⟨first, later⟩
      have count : metric.usage.requestCount =
          (inGroup (metric.date, metric.model) rows).length := first.requestCount
      rw [List.map_cons, List.map_cons, List.sum_cons, ← hypothesis later, countP_inGroup]
      by_cases same : metric.model = model
      · have sameUsage : metric.usage.model = model := same
        simp [same, sameUsage, count]
      · have otherUsage : metric.usage.model ≠ model := same
        simp [same, otherUsage]

/-- A summary of the metrics between two times counts each request of a model once. -/
theorem requestsOf_metricsWithin
    {store : Store}
    {lower upper : String}
    {metrics : List DailyMetric}
    (computed : store.metricsWithin lower upper = .ok metrics)
    (adds : ∀ metric ∈ metrics,
      AddsUp (inGroup (metric.date, metric.model) (store.requestsWithin lower upper))
        metric.usage)
    (model : String) :
    (CostSummary.ofMetrics metrics).requestsOf model =
      store.requests.countP fun row => row.startsWithin lower upper && row.isOf model := by
  have grouped : ∀ row ∈ store.requestsWithin lower upper, ∃ key, row.group? = some key :=
    fun row member => exists_group_of_mem_requestsWithin member
  have parted := perm_flatMap_inGroup grouped
  have keys := (perm_keys_metricsWithin computed).map fun key =>
    (inGroup key (store.requestsWithin lower upper)).countP (StoredRequest.isOf model)
  rw [List.map_map] at keys
  rw [requestsOf_ofMetrics adds, ← countP_requestsWithin, ← parted.countP_eq,
    List.countP_flatMap]
  exact keys.sum_eq

/-- Costs whose sums fit are answered, with every request of a model counted once. -/
theorem costs_count_requests
    {store : Store}
    (reachable : Reachable store)
    {query : CostQuery}
    {lower upper : String}
    (accepted : costRange query.lower query.upper = .ok (.timestamps lower upper))
    (fits : ∀ key, SumsFit (store.group lower upper key)) :
    ∃ summary, costs store query = .ok summary ∧
      ∀ model, summary.requestsOf model =
        store.requests.countP fun row => row.startsWithin lower upper && row.isOf model := by
  have numeric : ∀ row ∈ store.requestsWithin lower upper, row.Numeric := by
    intro row member
    rw [requestsWithin, List.mem_mergeSort] at member
    exact numeric_of_reachable reachable row (List.mem_filter.1 member).1
  have groupsFit : ∀ key, SumsFit (inGroup key (store.requestsWithin lower upper)) :=
    fun key => (sumsFit_of_perm (perm_group store lower upper key)).2 (fits key)
  rcases metricsWithin_of_fits numeric groupsFit with ⟨metrics, computed, -, sums⟩
  refine ⟨CostSummary.ofMetrics metrics, ?_, requestsOf_metricsWithin computed sums⟩
  rw [costs_of_range _ accepted, rangeMetrics, computed]
  rfl

end UsageLedger
