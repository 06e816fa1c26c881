import UsageLedger.Proofs.DailySummaries
import UsageLedger.Proofs.HandledStores

/-!
# Costs of adjacent ranges

Two bounds with a time of day select the requests from the text of the one up
to the text of the other.  The text of an instant follows its order, so a third
bound between them parts these requests in two, however they were written and
whatever texts their starts are: a request that started at the bound is in the
second part, and no other is at stake.

What a summary shows of a day and a model is a count and sums over a group of
requests, so `costs_of_adjacent_ranges` has those of two adjacent ranges add up
to those of the whole.  The exception is a column of counts with a negative
integer in it: sums are cut at zero, and the sum of two cut sums need not be
the cut sum, as `cut_sums_do_not_add_up` shows.
-/

namespace UsageLedger

open UsageLedger.Calendar
open UsageLedger.Service
open UsageLedger.Store
open UsageLedger.Text

/-! ## Bounds with a time of day -/

theorem Calendar.Instant.le_trans
    {first second third : Instant}
    (earlier : first ≤ second)
    (later : second ≤ third) :
    first ≤ third := by
  rw [Instant.le_iff] at *
  omega

/-- A bound with a time of day, in any spelling of an instant with a plain year. -/
structure IsTimeBound (text : String) (instant : Instant) : Prop where
  mark : hasTimeMark (trim text) = true
  denotes : instantOfText? (trim text) = some instant
  plain : instant.date.IsPlain

theorem costRange_of_bounds
    {lower upper : String}
    {first last : Instant}
    (isLower : IsTimeBound lower first)
    (isUpper : IsTimeBound upper last)
    (order : first ≤ last) :
    costRange lower upper = .ok (.timestamps first.text last.text) := by
  have marks : (hasTimeMark (trim lower) && hasTimeMark (trim upper)) = true := by
    rw [isLower.mark, isUpper.mark, Bool.and_self]
  simp only [costRange, if_pos marks, timestampRange, instantBound, isLower.denotes,
    isUpper.denotes]
  exact if_pos order

theorem IsTimeBound.text_le
    {lower upper : String}
    {first last : Instant}
    (isLower : IsTimeBound lower first)
    (isUpper : IsTimeBound upper last)
    (order : first ≤ last) :
    first.text ≤ last.text :=
  Instant.text_le_text isLower.plain isUpper.plain order

/-! ## Groups of adjacent ranges -/

/-- A group between two times is its part before a time between them and its part from it on. -/
theorem perm_group_append
    (store : Store)
    {lower middle upper : String}
    (first : lower ≤ middle)
    (second : middle ≤ upper)
    (key : String × String) :
    (store.group lower middle key ++ store.group middle upper key).Perm
      (store.group lower upper key) := by
  have parts := List.filter_append_perm (fun row => row.startsWithin lower middle)
    (store.group lower upper key)
  have early : (store.group lower upper key).filter (fun row => row.startsWithin lower middle) =
      store.group lower middle key := by
    rw [Store.group, Store.group, List.filter_filter]
    refine List.filter_congr fun row _ => ?_
    cases starts : row.startedAt with
    | none => simp [StoredRequest.startsWithin, starts]
    | some start =>
        by_cases before : start < middle
        · simp [StoredRequest.startsWithin, starts, before, lt_of_lt_of_le before second]
        · simp [StoredRequest.startsWithin, starts, before]
  have late : (store.group lower upper key).filter
        (fun row => !row.startsWithin lower middle) =
      store.group middle upper key := by
    rw [Store.group, Store.group, List.filter_filter]
    refine List.filter_congr fun row _ => ?_
    cases starts : row.startedAt with
    | none => simp [StoredRequest.startsWithin, starts]
    | some start =>
        by_cases before : start < middle
        · have notAfter : ¬ middle ≤ start := not_le.2 before
          by_cases noEarlier : lower ≤ start
          · simp [StoredRequest.startsWithin, starts, before, notAfter, noEarlier]
          · simp [StoredRequest.startsWithin, starts, notAfter, noEarlier]
        · have fromMiddle : middle ≤ start := not_lt.1 before
          simp [StoredRequest.startsWithin, starts, before, fromMiddle, first.trans fromMiddle]
  rwa [early, late] at parts

section Permuted

variable
    {first second whole : List StoredRequest}
    (parts : (first ++ second).Perm whole)

include parts

theorem length_of_parts : whole.length = first.length + second.length := by
  rw [← parts.length_eq, List.length_append]

theorem integerSum_of_parts (column : StoredRequest → Cell) :
    integerSum column whole = integerSum column first + integerSum column second := by
  have sum := (parts.map fun row => (column row).integerOrZero).sum_eq
  rw [List.map_append, List.sum_append] at sum
  exact sum.symm

theorem tokenSum_of_parts (column : StoredRequest → Cell) :
    tokenSum column whole = tokenSum column first + tokenSum column second := by
  have sum := (parts.map fun row => (column row).count).sum_eq
  rw [List.map_append, List.sum_append] at sum
  exact sum.symm

theorem sumsFit_of_parts (fits : SumsFit whole) : SumsFit first ∧ SumsFit second := by
  constructor
  · intro column member
    have sum := fits column member
    rw [tokenSum_of_parts parts] at sum
    omega
  · intro column member
    have sum := fits column member
    rw [tokenSum_of_parts parts] at sum
    omega

end Permuted

/-! ## What a summary shows of a day and a model -/

/-- The entries of a model under a date. -/
def CostSummary.entriesOf (summary : CostSummary) (date model : String) : List ModelUsage :=
  (summary.dated.filter fun dated => (dated.1, dated.2.model) == (date, model)).map Prod.snd

/-- A number that a summary shows for a model on a date, zero without an entry. -/
def CostSummary.tally (summary : CostSummary) (field : ModelUsage → Nat)
    (date model : String) : Nat :=
  ((summary.entriesOf date model).map field).sum

/-- A sum of an entry together with the column it adds up. -/
structure TokenField where
  shown : ModelUsage → Nat
  column : StoredRequest → Cell

def tokenFields : List TokenField :=
  [⟨ModelUsage.inputTokens, StoredRequest.inputTokens⟩,
    ⟨ModelUsage.outputTokens, StoredRequest.outputTokens⟩,
    ⟨ModelUsage.totalTokens, StoredRequest.totalTokens⟩]

/-- A summary that shows the groups of a range, their sums cut at zero. -/
structure TalliesGroups (store : Store) (lower upper : String) (summary : CostSummary) :
    Prop where
  single : ∀ date model, (summary.entriesOf date model).length ≤ 1
  requestCount : ∀ date model,
    summary.tally ModelUsage.requestCount date model =
      (store.group lower upper (date, model)).length
  tokens : ∀ field ∈ tokenFields, ∀ date model,
    (summary.tally field.shown date model : Int) =
      max 0 (integerSum field.column (store.group lower upper (date, model)))

theorem column_mem_of_tokenFields {field : TokenField} (member : field ∈ tokenFields) :
    field.column ∈ tokenColumns :=
  List.mem_map_of_mem member

theorem perm_entriesOf_ofMetrics (metrics : List DailyMetric) (date model : String) :
    ((CostSummary.ofMetrics metrics).entriesOf date model).Perm
      ((metrics.filter fun metric => (metric.date, metric.model) == (date, model)).map
        DailyMetric.usage) := by
  have chosen := ((perm_dated_ofMetrics metrics).filter fun dated =>
    (dated.1, dated.2.model) == (date, model)).map Prod.snd
  rw [List.filter_map, List.map_map] at chosen
  exact chosen

/-- Of metrics with distinct keys at most one has a key. -/
theorem length_filter_key_le_one
    {metrics : List DailyMetric}
    (distinct : (metrics.map fun metric => (metric.date, metric.model)).Nodup)
    (key : String × String) :
    (metrics.filter fun metric => (metric.date, metric.model) == key).length ≤ 1 := by
  have once := List.nodup_iff_count_le_one.1 distinct key
  rw [List.count, List.countP_map, List.countP_eq_length_filter] at once
  exact once

theorem Store.CutsSums.shown
    {rows : List StoredRequest}
    {metric : DailyMetric}
    (cuts : CutsSums rows metric)
    {field : TokenField}
    (member : field ∈ tokenFields) :
    (field.shown metric.usage : Int) = max 0 (integerSum field.column rows) := by
  simp only [tokenFields, List.mem_cons, List.not_mem_nil, or_false] at member
  rcases member with rfl | rfl | rfl
  · exact cuts.inputTokens
  · exact cuts.outputTokens
  · exact cuts.totalTokens

section Computed

variable
    {store : Store}
    {lower upper : String}
    {metrics : List DailyMetric}
    (computed : store.metricsWithin lower upper = .ok metrics)

include computed

/-- A group has one entry, of its one metric, and without an entry there is no request in it. -/
theorem group_cases (date model : String) :
    (∃ metric, CutsSums (store.group lower upper (date, model)) metric ∧
        (CostSummary.ofMetrics metrics).entriesOf date model = [metric.usage]) ∨
      (store.group lower upper (date, model) = [] ∧
        (CostSummary.ofMetrics metrics).entriesOf date model = []) := by
  have distinct : (metrics.map fun metric => (metric.date, metric.model)).Nodup :=
    (perm_keys_metricsWithin computed).nodup_iff.2 (nodup_groupKeys _)
  have entries := perm_entriesOf_ofMetrics metrics date model
  have few := length_filter_key_le_one distinct (date, model)
  rcases chosen : metrics.filter fun metric => (metric.date, metric.model) == (date, model) with
    - | ⟨metric, - | ⟨other, rest⟩⟩
  · right
    rw [chosen] at entries
    refine ⟨List.eq_nil_iff_forall_not_mem.2 fun row member => ?_, entries.eq_nil⟩
    rcases (occurs_metricsWithin computed date model).2
        ⟨row, mem_group_iff_countsFor.1 member⟩ with ⟨metric, isMetric, rfl, rfl⟩
    exact List.filter_eq_nil_iff.1 chosen metric isMetric (beq_self_eq_true _)
  · left
    have isMetric : metric ∈ metrics.filter fun metric =>
        (metric.date, metric.model) == (date, model) := by
      rw [chosen]
      exact List.mem_singleton_self metric
    rcases List.mem_filter.1 isMetric with ⟨inMetrics, sameKey⟩
    rw [chosen] at entries
    refine ⟨metric, ?_, List.perm_singleton.1 entries⟩
    rw [← eq_of_beq sameKey]
    exact cutsSums_metricsWithin computed metric inMetrics
  · rw [chosen] at few
    simp at few

theorem talliesGroups_of_computed :
    TalliesGroups store lower upper (CostSummary.ofMetrics metrics) := by
  refine ⟨?_, ?_, ?_⟩
  · intro date model
    rcases group_cases computed date model with ⟨metric, -, entries⟩ | ⟨-, entries⟩
    · rw [entries, List.length_singleton]
    · rw [entries]
      exact Nat.zero_le 1
  · intro date model
    rcases group_cases computed date model with ⟨metric, cuts, entries⟩ | ⟨empty, entries⟩
    · rw [CostSummary.tally, entries, ← cuts.requestCount]
      exact List.sum_singleton
    · rw [CostSummary.tally, entries, empty]
      rfl
  · intro field member date model
    rcases group_cases computed date model with ⟨metric, cuts, entries⟩ | ⟨empty, entries⟩
    · rw [CostSummary.tally, entries, ← cuts.shown member, List.map_singleton,
        List.sum_singleton]
    · rw [CostSummary.tally, entries, empty]
      rfl

end Computed

/-! ## Sums that can be taken -/

/-- No integer in a column of counts is negative. -/
def Store.NoNegativeCounts (store : Store) : Prop :=
  ∀ row ∈ store.requests, ∀ column ∈ tokenColumns, ∀ value,
    column row = .integer value → 0 ≤ value

/-- Groups that can be added up. -/
def Store.Summable (store : Store) (lower upper : String) : Prop :=
  ∀ key, (∀ row ∈ store.group lower upper key, row.Numeric) ∧
    SumsFit (store.group lower upper key)

theorem exists_mem_group_of_mem_requestsWithin
    {store : Store}
    {lower upper : String}
    {row : StoredRequest}
    (member : row ∈ store.requestsWithin lower upper) :
    ∃ key, row ∈ store.group lower upper key := by
  rcases exists_group_of_mem_requestsWithin member with ⟨key, hasKey⟩
  refine ⟨key, (perm_group store lower upper key).mem_iff.1 ?_⟩
  exact List.mem_filter.2 ⟨member, beq_iff_eq.2 hasKey⟩

namespace Store

theorem Summable.exists_metrics
    {store : Store}
    {lower upper : String}
    (summable : store.Summable lower upper) :
    ∃ metrics, store.metricsWithin lower upper = .ok metrics := by
  have numeric : ∀ row ∈ store.requestsWithin lower upper, row.Numeric := by
    intro row member
    rcases exists_mem_group_of_mem_requestsWithin member with ⟨key, inGroup⟩
    exact (summable key).1 row inGroup
  have fits : ∀ key, SumsFit (inGroup key (store.requestsWithin lower upper)) :=
    fun key => (sumsFit_of_perm (perm_group store lower upper key)).2 (summable key).2
  rcases metricsWithin_of_fits numeric fits with ⟨metrics, computed, -⟩
  exact ⟨metrics, computed⟩

/-- Counts that were added up could be. -/
theorem summable_of_computed
    {store : Store}
    (inexact : InexactCosts store.requests)
    (counts : store.NoNegativeCounts)
    {lower upper : String}
    {metrics : List DailyMetric}
    (computed : store.metricsWithin lower upper = .ok metrics) :
    store.Summable lower upper := by
  have numeric : ∀ key, ∀ row ∈ store.group lower upper key, row.Numeric := by
    rintro ⟨date, model⟩ row member
    rcases mem_group_iff_countsFor.1 member with ⟨stored, countsFor⟩
    rcases (occurs_metricsWithin computed date model).2 ⟨row, stored, countsFor⟩ with
      ⟨metric, isMetric, rfl, rfl⟩
    refine ⟨?_, inexact row stored⟩
    intro column isColumn
    rcases (cutsSums_metricsWithin computed metric isMetric).integers column isColumn row
        member with ⟨value, isInteger⟩
    have natural : ((value.toNat : Nat) : Int) = value :=
      Int.toNat_of_nonneg (counts row stored column isColumn value isInteger)
    exact ⟨value.toNat, by rw [isInteger, natural]⟩
  intro key
  refine ⟨numeric key, ?_⟩
  -- A sum that does not fit would have been a failure.
  by_contra exceeds
  have numericRows : ∀ row ∈ store.requestsWithin lower upper, row.Numeric := by
    intro row member
    rcases exists_mem_group_of_mem_requestsWithin member with ⟨key, inGroup⟩
    exact numeric key row inGroup
  rw [← sumsFit_of_perm (perm_group store lower upper key)] at exceeds
  rw [metricsWithin_of_not_fits numericRows exceeds] at computed
  cases computed

theorem Summable.parts
    {store : Store}
    {lower middle upper : String}
    (summable : store.Summable lower upper)
    (first : lower ≤ middle)
    (second : middle ≤ upper) :
    store.Summable lower middle ∧ store.Summable middle upper := by
  have parts := perm_group_append store first second
  constructor
  · intro key
    refine ⟨fun row member => (summable key).1 row ?_,
      (sumsFit_of_parts (parts key) (summable key).2).1⟩
    exact (parts key).mem_iff.1 (List.mem_append_left _ member)
  · intro key
    refine ⟨fun row member => (summable key).1 row ?_,
      (sumsFit_of_parts (parts key) (summable key).2).2⟩
    exact (parts key).mem_iff.1 (List.mem_append_right _ member)

end Store

theorem costs_of_timestamps_eq_ok_iff
    {store : Store}
    {start stop lower upper : String}
    (accepted : costRange start stop = .ok (.timestamps lower upper))
    {summary : CostSummary} :
    costs store ⟨start, stop⟩ = .ok summary ↔
      ∃ metrics, store.metricsWithin lower upper = .ok metrics ∧
        CostSummary.ofMetrics metrics = summary := by
  have range : costRange (CostQuery.mk start stop).lower (CostQuery.mk start stop).upper =
      .ok (.timestamps lower upper) := accepted
  rw [costs_of_timestamps store range]
  cases store.metricsWithin lower upper with
  | error cause => cases cause <;> simp [fromStore, Except.map]
  | ok metrics => simp [fromStore, Except.map]

theorem talliesGroups_of_answered
    {store : Store}
    {start stop lower upper : String}
    (accepted : costRange start stop = .ok (.timestamps lower upper))
    {summary : CostSummary}
    (answered : costs store ⟨start, stop⟩ = .ok summary) :
    TalliesGroups store lower upper summary := by
  rcases (costs_of_timestamps_eq_ok_iff accepted).1 answered with ⟨metrics, computed, rfl⟩
  exact talliesGroups_of_computed computed

/-! ## Adjacent ranges -/

/-- A summary whose numbers are the sums of those of two others. -/
structure CostSummary.AddsUp (whole early late : CostSummary) : Prop where
  requestCount : ∀ date model,
    whole.tally ModelUsage.requestCount date model =
      early.tally ModelUsage.requestCount date model +
        late.tally ModelUsage.requestCount date model
  tokens : ∀ field ∈ tokenFields, ∀ date model,
    whole.tally field.shown date model =
      early.tally field.shown date model + late.tally field.shown date model

/-- What the costs of a range have to do with those of two parts of it. -/
structure PartsAddUp (store : Store) (first split last : Instant)
    (early late : Except ServiceError CostSummary) (whole : CostSummary) : Prop where
  /-- Without a negative count both parts are answered, and nothing is lost or shown twice. -/
  answered : store.NoNegativeCounts →
    ∃ one other, early = .ok one ∧ late = .ok other ∧ whole.AddsUp one other
  single : ∀ date model, (whole.entriesOf date model).length ≤ 1
  /-- Whatever the counts are, parts that are answered count each request once. -/
  requestCount : ∀ one other, early = .ok one → late = .ok other → ∀ date model,
    whole.tally ModelUsage.requestCount date model =
      one.tally ModelUsage.requestCount date model +
        other.tally ModelUsage.requestCount date model
  /-- The sums over the two parts of a group add up before each is cut at zero. -/
  signed : ∀ one other, early = .ok one → late = .ok other →
    ∀ field ∈ tokenFields, ∀ date model, ∃ oneSum otherSum : Int,
      oneSum = integerSum field.column (store.group first.text split.text (date, model)) ∧
        otherSum = integerSum field.column (store.group split.text last.text (date, model)) ∧
        (one.tally field.shown date model : Int) = max 0 oneSum ∧
        (other.tally field.shown date model : Int) = max 0 otherSum ∧
        (whole.tally field.shown date model : Int) = max 0 (oneSum + otherSum)
  /-- A table that was written by the operations on the store has no negative count. -/
  written : Reachable store → store.NoNegativeCounts

theorem noNegativeCounts_of_counts
    {store : Store}
    (counts : ∀ row ∈ store.requests, ∀ column ∈ tokenColumns, (column row).IsCount) :
    store.NoNegativeCounts := by
  intro row member column isColumn value isInteger
  rcases counts row member column isColumn with ⟨count, isCount⟩
  rw [isCount] at isInteger
  cases isInteger
  exact Int.natCast_nonneg count

theorem noNegativeCounts_of_reachable
    {store : Store}
    (reachable : Reachable store) :
    store.NoNegativeCounts :=
  noNegativeCounts_of_counts fun row member => (numeric_of_reachable reachable row member).counts

theorem requestCount_of_parts
    {store : Store}
    {lower middle upper : String}
    (first : lower ≤ middle)
    (second : middle ≤ upper)
    {whole early late : CostSummary}
    (ofWhole : TalliesGroups store lower upper whole)
    (ofEarly : TalliesGroups store lower middle early)
    (ofLate : TalliesGroups store middle upper late)
    (date model : String) :
    whole.tally ModelUsage.requestCount date model =
      early.tally ModelUsage.requestCount date model +
        late.tally ModelUsage.requestCount date model := by
  rw [ofWhole.requestCount, ofEarly.requestCount, ofLate.requestCount]
  exact length_of_parts (perm_group_append store first second (date, model))

/-- Sums of counts are not cut, so they add up as they are shown. -/
theorem addsUp_of_summable
    {store : Store}
    {lower middle upper : String}
    (first : lower ≤ middle)
    (second : middle ≤ upper)
    (summable : store.Summable lower upper)
    {whole early late : CostSummary}
    (ofWhole : TalliesGroups store lower upper whole)
    (ofEarly : TalliesGroups store lower middle early)
    (ofLate : TalliesGroups store middle upper late) :
    whole.AddsUp early late where
  requestCount := requestCount_of_parts first second ofWhole ofEarly ofLate
  tokens field member date model := by
    have uncut : ∀ {low high : String}, store.Summable low high →
        max 0 (integerSum field.column (store.group low high (date, model))) =
          integerSum field.column (store.group low high (date, model)) := by
      intro low high summable
      rw [integerSum_of_counts fun row isRow =>
        ((summable (date, model)).1 row isRow).counts _ (column_mem_of_tokenFields member)]
      exact max_eq_right (Int.natCast_nonneg _)
    rcases summable.parts first second with ⟨summableEarly, summableLate⟩
    have wholeSum := ofWhole.tokens field member date model
    have earlySum := ofEarly.tokens field member date model
    have lateSum := ofLate.tokens field member date model
    rw [uncut summable,
      integerSum_of_parts (perm_group_append store first second (date, model))] at wholeSum
    rw [uncut summableEarly] at earlySum
    rw [uncut summableLate] at lateSum
    omega

/--
If the costs between two times are answered, then so are those of two adjacent
ranges that make them up, and what is shown of a day and a model adds up.
-/
theorem costs_of_adjacent_ranges
    {store : Store}
    (inexact : InexactCosts store.requests)
    {start middle stop : String}
    {first split last : Instant}
    (isStart : IsTimeBound start first)
    (isMiddle : IsTimeBound middle split)
    (isStop : IsTimeBound stop last)
    (startFirst : first ≤ split)
    (stopLast : split ≤ last)
    {whole : CostSummary}
    (answered : costs store ⟨start, stop⟩ = .ok whole) :
    PartsAddUp store first split last (costs store ⟨start, middle⟩) (costs store ⟨middle, stop⟩)
      whole := by
  have lower := isStart.text_le isMiddle startFirst
  have upper := isMiddle.text_le isStop stopLast
  have wholeRange := costRange_of_bounds isStart isStop (Instant.le_trans startFirst stopLast)
  have earlyRange := costRange_of_bounds isStart isMiddle startFirst
  have lateRange := costRange_of_bounds isMiddle isStop stopLast
  have ofWhole := talliesGroups_of_answered wholeRange answered
  have ofParts : ∀ one other, costs store ⟨start, middle⟩ = .ok one →
      costs store ⟨middle, stop⟩ = .ok other →
      TalliesGroups store first.text split.text one ∧
        TalliesGroups store split.text last.text other := by
    intro one other early late
    exact ⟨talliesGroups_of_answered earlyRange early, talliesGroups_of_answered lateRange late⟩
  refine ⟨?_, ofWhole.single, ?_, ?_, noNegativeCounts_of_reachable⟩
  · intro counts
    rcases (costs_of_timestamps_eq_ok_iff wholeRange).1 answered with ⟨metrics, computed, -⟩
    have summable := summable_of_computed inexact counts computed
    rcases summable.parts lower upper with ⟨summableEarly, summableLate⟩
    rcases summableEarly.exists_metrics with ⟨earlyMetrics, earlyComputed⟩
    rcases summableLate.exists_metrics with ⟨lateMetrics, lateComputed⟩
    have early : costs store ⟨start, middle⟩ = .ok (CostSummary.ofMetrics earlyMetrics) :=
      (costs_of_timestamps_eq_ok_iff earlyRange).2 ⟨_, earlyComputed, rfl⟩
    have late : costs store ⟨middle, stop⟩ = .ok (CostSummary.ofMetrics lateMetrics) :=
      (costs_of_timestamps_eq_ok_iff lateRange).2 ⟨_, lateComputed, rfl⟩
    rcases ofParts _ _ early late with ⟨ofEarly, ofLate⟩
    exact ⟨_, _, early, late, addsUp_of_summable lower upper summable ofWhole ofEarly ofLate⟩
  · intro one other early late date model
    rcases ofParts one other early late with ⟨ofEarly, ofLate⟩
    exact requestCount_of_parts lower upper ofWhole ofEarly ofLate date model
  · intro one other early late field member date model
    rcases ofParts one other early late with ⟨ofEarly, ofLate⟩
    refine ⟨_, _, rfl, rfl, ofEarly.tokens field member date model,
      ofLate.tokens field member date model, ?_⟩
    rw [ofWhole.tokens field member date model,
      integerSum_of_parts (perm_group_append store lower upper (date, model))]

/-! ## A split store -/

/-- Two requests of a day, of which the first has some value as its input tokens. -/
def splitStore (inputTokens : Cell) : Store :=
  { Store.empty with
    requests :=
      [{ StoredRequest.ofRecord (startedRecord "2025-03-01T10:00:00.000Z") with inputTokens },
        StoredRequest.ofRecord (secondRecord "2025-03-01T12:00:00.000Z")] }

theorem overwrite_splitStore (inputTokens : Cell) :
    (Store.empty.perform
        (.putRequests
          [startedRecord "2025-03-01T10:00:00.000Z",
            secondRecord "2025-03-01T12:00:00.000Z"])).2.overwrite
        requestsTable "input_tokens" "a" (some inputTokens) =
      .ok (1, splitStore inputTokens.forIntegers) :=
  overwrite_firstOfTwo _ _ _

theorem handled_splitStore (inputTokens : Cell) :
    Handled (splitStore inputTokens.forIntegers) :=
  (Handled.empty.perform _).overwrite (overwrite_splitStore inputTokens)

theorem isTimeBound_start :
    IsTimeBound " 2025-03-01T02:00:00+02:00" (.ofClock firstOfMarch .midnight 0) := by
  refine ⟨?_, ?_, ?_⟩ <;> decide +kernel

/-- A time of day between the starts of the two requests. -/
def betweenStarts : ClockTime :=
  { ClockTime.midnight with hour := 11, hour_lt := by decide }

theorem isTimeBound_middle :
    IsTimeBound "2025-3-1T11:00" (.ofClock firstOfMarch betweenStarts 0) := by
  refine ⟨?_, ?_, ?_⟩ <;> decide +kernel

theorem isTimeBound_stop :
    IsTimeBound "2025-03-02T00:00:00Z" (.ofClock firstOfMarch.next .midnight 0) := by
  refine ⟨?_, ?_, ?_⟩ <;> decide +kernel

theorem counts_splitStore :
    ∀ row ∈ (splitStore (.integer 4)).requests, ∀ column ∈ tokenColumns,
      (column row).IsCount := by
  simp only [splitStore, tokenColumns, List.forall_mem_cons, List.not_mem_nil, false_imp_iff,
    implies_true, and_true]
  exact ⟨⟨⟨4, rfl⟩, ⟨_, rfl⟩, ⟨_, rfl⟩⟩, ⟨_, rfl⟩, ⟨_, rfl⟩, ⟨_, rfl⟩⟩

theorem summable_splitStore (lower upper : String) :
    (splitStore (.integer 4)).Summable lower upper := by
  have inexact := inexactCosts_of_handled (handled_splitStore (.integer 4))
  have fits : SumsFit (splitStore (.integer 4)).requests :=
    sumsFit_iff.2 ⟨by decide +kernel, by decide +kernel, by decide +kernel⟩
  intro key
  constructor
  · intro row member
    have stored := (List.mem_filter.1 member).1
    exact ⟨counts_splitStore row stored, inexact row stored⟩
  · exact (sumsFit_of_parts (List.filter_append_perm _ _) fits).1

theorem costs_of_adjacent_ranges_split :
    (InexactCosts (splitStore (.integer 4)).requests ∧
        IsTimeBound " 2025-03-01T02:00:00+02:00" (.ofClock firstOfMarch .midnight 0) ∧
        IsTimeBound "2025-3-1T11:00" (.ofClock firstOfMarch betweenStarts 0) ∧
        IsTimeBound "2025-03-02T00:00:00Z" (.ofClock firstOfMarch.next .midnight 0)) ∧
      (splitStore (.integer 4)).NoNegativeCounts ∧
      ∃ whole,
        costs (splitStore (.integer 4))
            ⟨" 2025-03-01T02:00:00+02:00", "2025-03-02T00:00:00Z"⟩ = .ok whole ∧
          PartsAddUp (splitStore (.integer 4)) (.ofClock firstOfMarch .midnight 0)
            (.ofClock firstOfMarch betweenStarts 0) (.ofClock firstOfMarch.next .midnight 0)
            (costs (splitStore (.integer 4)) ⟨" 2025-03-01T02:00:00+02:00", "2025-3-1T11:00"⟩)
            (costs (splitStore (.integer 4)) ⟨"2025-3-1T11:00", "2025-03-02T00:00:00Z"⟩)
            whole := by
  have inexact := inexactCosts_of_handled (handled_splitStore (.integer 4))
  rcases (summable_splitStore _ _).exists_metrics with ⟨metrics, computed⟩
  have answered : costs (splitStore (.integer 4))
      ⟨" 2025-03-01T02:00:00+02:00", "2025-03-02T00:00:00Z"⟩ =
        .ok (CostSummary.ofMetrics metrics) :=
    (costs_of_timestamps_eq_ok_iff
      (costRange_of_bounds isTimeBound_start isTimeBound_stop (by decide +kernel))).2
      ⟨metrics, computed, rfl⟩
  exact ⟨⟨inexact, isTimeBound_start, isTimeBound_middle, isTimeBound_stop⟩,
    noNegativeCounts_of_counts counts_splitStore, _, answered,
    costs_of_adjacent_ranges inexact isTimeBound_start isTimeBound_middle isTimeBound_stop
      (by decide +kernel) (by decide +kernel) answered⟩

/-! ## A negative count -/

theorem tally_ofMetrics_singleton (metric : DailyMetric) (field : ModelUsage → Nat) :
    (CostSummary.ofMetrics [metric]).tally field metric.date metric.model =
      field metric.usage := by
  have entries := perm_entriesOf_ofMetrics [metric] metric.date metric.model
  rw [List.filter_singleton, beq_self_eq_true, Bool.cond_true, List.map_singleton,
    List.perm_singleton] at entries
  rw [CostSummary.tally, entries]
  exact List.sum_singleton

theorem text_start :
    (Instant.ofClock firstOfMarch .midnight 0).text = "2025-03-01T00:00:00.000Z" := by
  decide +kernel

theorem text_middle :
    (Instant.ofClock firstOfMarch betweenStarts 0).text = "2025-03-01T11:00:00.000Z" := by
  decide +kernel

theorem text_stop :
    (Instant.ofClock firstOfMarch.next .midnight 0).text = "2025-03-02T00:00:00.000Z" := by
  decide +kernel

/-- Two adjacent ranges show no input tokens and three, and the whole shows none. -/
theorem cut_sums_do_not_add_up :
    (Store.empty.perform
        (.putRequests
          [startedRecord "2025-03-01T10:00:00.000Z",
            secondRecord "2025-03-01T12:00:00.000Z"])).2.overwrite
        requestsTable "input_tokens" "a" (some (.integer (-5))) =
      .ok (1, splitStore (.integer (-5))) ∧
    ∃ early late whole,
      costs (splitStore (.integer (-5))) ⟨" 2025-03-01T02:00:00+02:00", "2025-3-1T11:00"⟩ =
          .ok early ∧
        costs (splitStore (.integer (-5))) ⟨"2025-3-1T11:00", "2025-03-02T00:00:00Z"⟩ =
          .ok late ∧
        costs (splitStore (.integer (-5)))
            ⟨" 2025-03-01T02:00:00+02:00", "2025-03-02T00:00:00Z"⟩ = .ok whole ∧
        early.tally ModelUsage.inputTokens "2025-03-01" "gpt-4o" = 0 ∧
        late.tally ModelUsage.inputTokens "2025-03-01" "gpt-4o" = 3 ∧
        whole.tally ModelUsage.inputTokens "2025-03-01" "gpt-4o" = 0 := by
  have early : (splitStore (.integer (-5))).metricsWithin "2025-03-01T00:00:00.000Z"
      "2025-03-01T11:00:00.000Z" = .ok [⟨"2025-03-01", "gpt-4o", 0, 0, 0, 1, Float.ofInt 0⟩] :=
    metricsWithin_of_one_group ("2025-03-01", "gpt-4o")
      (List.mergeSort_of_pairwise (by decide +kernel)) (by decide +kernel) rfl rfl
  have late : (splitStore (.integer (-5))).metricsWithin "2025-03-01T11:00:00.000Z"
      "2025-03-02T00:00:00.000Z" = .ok [⟨"2025-03-01", "gpt-4o", 3, 0, 0, 1, Float.ofInt 0⟩] :=
    metricsWithin_of_one_group ("2025-03-01", "gpt-4o")
      (List.mergeSort_of_pairwise (by decide +kernel)) (by decide +kernel) rfl rfl
  have whole : (splitStore (.integer (-5))).metricsWithin "2025-03-01T00:00:00.000Z"
      "2025-03-02T00:00:00.000Z" = .ok [⟨"2025-03-01", "gpt-4o", 0, 0, 0, 2, Float.ofInt 0⟩] :=
    metricsWithin_of_one_group ("2025-03-01", "gpt-4o")
      (List.mergeSort_of_pairwise (by decide +kernel)) (by decide +kernel) rfl rfl
  rw [← text_start, ← text_middle] at early
  rw [← text_middle, ← text_stop] at late
  rw [← text_start, ← text_stop] at whole
  have earlyRange := costRange_of_bounds isTimeBound_start isTimeBound_middle (by decide +kernel)
  have lateRange := costRange_of_bounds isTimeBound_middle isTimeBound_stop (by decide +kernel)
  have wholeRange := costRange_of_bounds isTimeBound_start isTimeBound_stop (by decide +kernel)
  exact ⟨overwrite_splitStore _, _, _, _,
    (costs_of_timestamps_eq_ok_iff earlyRange).2 ⟨_, early, rfl⟩,
    (costs_of_timestamps_eq_ok_iff lateRange).2 ⟨_, late, rfl⟩,
    (costs_of_timestamps_eq_ok_iff wholeRange).2 ⟨_, whole, rfl⟩,
    tally_ofMetrics_singleton _ _, tally_ofMetrics_singleton _ _, tally_ofMetrics_singleton _ _⟩

end UsageLedger
