import UsageLedger.Proofs.DailySummaries
import UsageLedger.Proofs.ResolvedRanges

/-!
# Ranges of dates with a later end

Two bounds without times are compared as dates and select rows by their texts.
What a summary shows of a date hangs on the rows of that date alone, so between
two ranges with the same lower bound a day is shown alike or not at all, and it
is shown as long as its text is no later than the text of the upper bound.

Texts of dates come in order up to the year 9999.  Past it a date is written
with a sign in front and comes before all the others, so a range with an upper
bound there, though it is wider, shows none of them: `wider_ranges_keep_days`
has both, and `last_day_is_lost` an instance.
-/

namespace UsageLedger

open UsageLedger.Calendar
open UsageLedger.Service
open UsageLedger.Store
open UsageLedger.Text

/-! ## Texts of dates with and without a sign -/

namespace Calendar

theorem Date.year_le_of_le {first second : Date} (order : first ≤ second) :
    first.year ≤ second.year := by
  have isLE : first.isLE second = true := order
  simp only [Date.isLE, Bool.or_eq_true, Bool.and_eq_true, decide_eq_true_eq,
    beq_iff_eq] at isLE
  omega

theorem Date.text_lt_of_heads
    {first second : Date}
    {head head' : Char}
    {rest rest' : List Char}
    (firstChars : first.chars = head :: rest)
    (secondChars : second.chars = head' :: rest')
    (before : head < head') :
    first.text < second.text := by
  rw [Date.text, Date.text, String.lt_iff_toList_lt, String.toList_ofList,
    String.toList_ofList, firstChars, secondChars]
  exact List.Lex.rel before

theorem signs_lt_of_isDigit {character : Char} (digit : isDigit character = true) :
    '+' < character ∧ '-' < character := by
  rw [isDigit, Bool.and_eq_true, decide_eq_true_eq] at digit
  exact ⟨lt_of_lt_of_le (by decide) digit.1, lt_of_lt_of_le (by decide) digit.1⟩

/-- A date with a sign is written before every date of the years 0 to 9999. -/
theorem Date.text_lt_of_not_isPlain
    {first second : Date}
    (signed : ¬ first.IsPlain)
    (plain : second.IsPlain) :
    first.text < second.text := by
  rcases second.chars_cases with ⟨negative, -⟩ | ⟨large, -⟩ | ⟨-, digit, _, isOne, secondChars⟩
  · exact absurd plain.1 (not_le.2 negative)
  · exact absurd plain.2 (not_le.2 large)
  · rcases signs_lt_of_isDigit isOne with ⟨plus, minus⟩
    rcases first.chars_cases with ⟨-, _, firstChars⟩ | ⟨-, _, firstChars⟩ | ⟨isPlain, -⟩
    · exact Date.text_lt_of_heads firstChars secondChars minus
    · exact Date.text_lt_of_heads firstChars secondChars plus
    · exact absurd isPlain signed

/-- Up to the year 9999 a later date has a later text. -/
theorem Date.text_le_text_of_plain
    {first second : Date}
    (plain : second.IsPlain)
    (order : first ≤ second) :
    first.text ≤ second.text := by
  by_cases firstPlain : first.IsPlain
  · exact Date.text_le_text firstPlain plain order
  · exact (Date.text_lt_of_not_isPlain firstPlain plain).le

end Calendar

/-! ## Days in two ranges -/

namespace Store

/-- The rows of a date are the same, in the same order, in every range around it. -/
theorem filter_metricRows_of_date
    {store : Store}
    (unique : (store.metrics.map StoredMetric.key).Nodup)
    {lower near far date : String}
    (noEarlier : lower ≤ date)
    (noLater : date ≤ near)
    (noLaterToo : date ≤ far) :
    ((store.metricRows lower near).filter fun row => row.date == date) =
      (store.metricRows lower far).filter fun row => row.date == date := by
  refine List.Perm.eq_of_pairwise (fun _ _ _ _ less more => absurd more less.not_gt)
    (pairwise_model_metricRows unique lower near date)
    (pairwise_model_metricRows unique lower far date) ?_
  exact (perm_metricRows_of_date store noEarlier noLater).trans
    (perm_metricRows_of_date store noEarlier noLaterToo).symm

theorem rightUnique_read :
    Relator.RightUnique fun (row : StoredMetric) metric => row.read = .ok metric := by
  intro row metric metric' one other
  rw [one] at other
  cases other
  rfl

end Store

section TwoRanges

variable
    {store : Store}
    {lower near far : String}
    {small large : List DailyMetric}
    (unique : (store.metrics.map StoredMetric.key).Nodup)
    (readSmall : store.dailyMetrics lower near = .ok small)
    (readLarge : store.dailyMetrics lower far = .ok large)

include unique readSmall readLarge

/-- A bucket of one range is in another with the same lower bound if its date is. -/
theorem mem_daily_iff
    {bucket : DailyCost}
    (member : bucket ∈ (CostSummary.ofMetrics small).daily) :
    bucket ∈ (CostSummary.ofMetrics large).daily ↔ bucket.date ≤ far := by
  have shows := showsRows_of_read unique readLarge
  rcases ((showsRows_of_read unique readSmall).dates bucket.date).1 ⟨bucket, member, rfl⟩ with
    ⟨noEarlier, noLater, isStored⟩
  constructor
  · intro memberToo
    exact ((shows.dates bucket.date).1 ⟨bucket, memberToo, rfl⟩).2.1
  · intro noLaterToo
    rcases (shows.dates bucket.date).2 ⟨noEarlier, noLaterToo, isStored⟩ with
      ⟨other, isOther, sameDate⟩
    have ofSmall := forall₂_of_date readSmall bucket.date
    rw [filter_metricRows_of_date unique noEarlier noLater noLaterToo] at ofSmall
    have sameMetrics := List.right_unique_forall₂' rightUnique_read ofSmall
      (forall₂_of_date readLarge bucket.date)
    have one := (bucketsOf_ofMetrics small).bucket bucket member
    have two := (bucketsOf_ofMetrics large).bucket other isOther
    rw [sameDate, ← sameMetrics, one] at two
    rwa [two]

end TwoRanges

/-- Two accepted ranges of dates with one lower bound, the second with a later upper bound. -/
structure Widens (narrow wide : CostQuery) (first middle last : Date) : Prop where
  isNarrow : costRange narrow.lower narrow.upper = .ok (.dates first.text middle.text)
  isWide : costRange wide.lower wide.upper = .ok (.dates first.text last.text)
  order : middle ≤ last

/-- What becomes of the days of a range in a wider one. -/
structure KeepsDays (store : Store) (last : Date)
    (narrow wide : Except ServiceError CostSummary) : Prop where
  answered : (∀ row ∈ store.metrics, row.HoldsNumbers) →
    (∀ date, store.requestsOf date ≤ largest64) →
    ∃ small large, narrow = .ok small ∧ wide = .ok large
  /-- A day is shown unchanged, or it is after the upper bound as a text. -/
  shown : ∀ small large, narrow = .ok small → wide = .ok large →
    ∀ bucket ∈ small.daily, bucket ∈ large.daily ↔ bucket.date ≤ last.text
  /-- Up to the year 9999 no day is lost. -/
  kept : last.IsPlain → ∀ small large, narrow = .ok small → wide = .ok large →
    small.daily ⊆ large.daily
  /-- Past it each day of the years before is. -/
  lost : ∀ small large, narrow = .ok small → wide = .ok large →
    ∀ bucket ∈ small.daily, ∀ day : Date, day.IsPlain → bucket.date = day.text →
      (bucket ∈ large.daily ↔ last.year ≤ 9999)

theorem exists_metrics_of_costs
    {store : Store}
    {query : CostQuery}
    {lower upper : String}
    {summary : CostSummary}
    (accepted : costRange query.lower query.upper = .ok (.dates lower upper))
    (answer : costs store query = .ok summary) :
    ∃ metrics, store.dailyMetrics lower upper = .ok metrics ∧
      CostSummary.ofMetrics metrics = summary := by
  cases read : store.dailyMetrics lower upper with
  | error cause =>
      rw [costs_of_range store accepted, rangeMetrics, read] at answer
      cases cause <;> cases answer
  | ok metrics =>
      rw [costs_of_dates accepted read] at answer
      split at answer
      · cases answer
        exact ⟨metrics, rfl, rfl⟩
      · cases answer

section Widened

variable
    {store : Store}
    {narrow wide : CostQuery}
    {first middle last : Date}
    {small large : CostSummary}
    {bucket : DailyCost}
    (unique : (store.metrics.map StoredMetric.key).Nodup)
    (widens : Widens narrow wide first middle last)
    (isSmall : costs store narrow = .ok small)

include unique widens isSmall

theorem date_le_of_narrow (member : bucket ∈ small.daily) : bucket.date ≤ middle.text := by
  rcases exists_metrics_of_costs widens.isNarrow isSmall with ⟨metrics, read, rfl⟩
  exact (((showsRows_of_read unique read).dates bucket.date).1 ⟨bucket, member, rfl⟩).2.1

theorem mem_wider_iff
    (isLarge : costs store wide = .ok large)
    (member : bucket ∈ small.daily) :
    bucket ∈ large.daily ↔ bucket.date ≤ last.text := by
  rcases exists_metrics_of_costs widens.isNarrow isSmall with ⟨_, readSmall, rfl⟩
  rcases exists_metrics_of_costs widens.isWide isLarge with ⟨_, readLarge, rfl⟩
  exact mem_daily_iff unique readSmall readLarge member

/-- A day with four digits in its year is within the upper bound exactly if the bound has. -/
theorem date_le_iff_of_plain
    {day : Date}
    (plain : day.IsPlain)
    (member : bucket ∈ small.daily)
    (date : bucket.date = day.text) :
    bucket.date ≤ last.text ↔ last.year ≤ 9999 := by
  have within := date_le_of_narrow unique widens isSmall member
  rw [date] at within ⊢
  constructor
  · intro noLater
    by_contra large
    have signed : ¬ last.IsPlain := fun plain => large plain.2
    exact not_lt.2 noLater (Date.text_lt_of_not_isPlain signed plain)
  · intro small
    have middlePlain : middle.IsPlain := by
      by_contra signed
      exact not_lt.2 within (Date.text_lt_of_not_isPlain signed plain)
    have lastPlain : last.IsPlain :=
      ⟨middlePlain.1.trans (Date.year_le_of_le widens.order), small⟩
    exact within.trans (Date.text_le_text_of_plain lastPlain widens.order)

end Widened

/--
A range of dates with a later upper bound shows each day of the narrower range
unchanged if that bound is in the years 0 to 9999.  With an upper bound after
the year 9999 it shows none of the days of these years.
-/
theorem wider_ranges_keep_days
    {store : Store}
    (unique : (store.metrics.map StoredMetric.key).Nodup)
    {narrow wide : CostQuery}
    {first middle last : Date}
    (widens : Widens narrow wide first middle last) :
    KeepsDays store last (costs store narrow) (costs store wide) where
  answered numbers fit := by
    rcases (answersDates_of_range unique widens.isNarrow).answered
      (fun row stored _ _ => numbers row stored) (fun date _ _ => fit date) with
      ⟨small, isSmall, -⟩
    rcases (answersDates_of_range unique widens.isWide).answered
      (fun row stored _ _ => numbers row stored) (fun date _ _ => fit date) with
      ⟨large, isLarge, -⟩
    exact ⟨small, large, isSmall, isLarge⟩
  shown _ _ isSmall isLarge _ member := mem_wider_iff unique widens isSmall isLarge member
  kept plain _ _ isSmall isLarge _ member :=
    (mem_wider_iff unique widens isSmall isLarge member).2
      ((date_le_of_narrow unique widens isSmall member).trans
        (Date.text_le_text_of_plain plain widens.order))
  lost _ _ isSmall isLarge _ member _ plain date :=
    (mem_wider_iff unique widens isSmall isLarge member).trans
      (date_le_iff_of_plain unique widens isSmall plain member date)

/-! ## The last day of the year 9999 -/

def lastPlainDay : Date :=
  ⟨9999, 12, 31, by decide, by decide, by decide, by decide⟩

def firstSignedDay : Date :=
  lastPlainDay.next

/-- A table with one metric, of the last day of the year 9999. -/
def lastDayStore : Store :=
  Store.empty.after [.putMetrics [{ fullMetric "a" with date := "9999-12-31" }]]

def onLastDay : CostQuery := ⟨"9999-12-31", "9999-12-31"⟩

def fromLastDay : CostQuery := ⟨"9999-12-31", "+10000-01-01"⟩

theorem widens_lastDay : Widens onLastDay fromLastDay lastPlainDay lastPlainDay firstSignedDay where
  isNarrow := by decide +kernel
  isWide := by decide +kernel
  order := by decide +kernel

theorem wider_ranges_keep_days_lastDay :
    ((lastDayStore.metrics.map StoredMetric.key).Nodup ∧
        Widens onLastDay fromLastDay lastPlainDay lastPlainDay firstSignedDay) ∧
      KeepsDays lastDayStore firstSignedDay (costs lastDayStore onLastDay)
        (costs lastDayStore fromLastDay) := by
  have unique : (lastDayStore.metrics.map StoredMetric.key).Nodup := by decide
  exact ⟨⟨unique, widens_lastDay⟩, wider_ranges_keep_days unique widens_lastDay⟩

/-- The last day of the year 9999 is shown alone, and with the day after it it is not. -/
theorem last_day_is_lost :
    Widens onLastDay fromLastDay lastPlainDay lastPlainDay firstSignedDay ∧
      ∃ bucket,
        costs lastDayStore onLastDay = .ok ⟨[bucket]⟩ ∧
          costs lastDayStore fromLastDay = .ok ⟨[]⟩ := by
  have isNarrow : costRange onLastDay.lower onLastDay.upper =
      .ok (.dates "9999-12-31" "9999-12-31") := by
    decide +kernel
  have isWide : costRange fromLastDay.lower fromLastDay.upper =
      .ok (.dates "9999-12-31" "+10000-01-01") := by
    decide +kernel
  have onDay : lastDayStore.metricRows "9999-12-31" "9999-12-31" = lastDayStore.metrics := by
    have inRange : (lastDayStore.metrics.filter fun row =>
        "9999-12-31" ≤ row.date ∧ row.date ≤ "9999-12-31") = lastDayStore.metrics := rfl
    rw [metricRows, inRange]
    exact List.mergeSort_singleton _
  have fromDay : lastDayStore.metricRows "9999-12-31" "+10000-01-01" = [] := by
    have inRange : (lastDayStore.metrics.filter fun row =>
        "9999-12-31" ≤ row.date ∧ row.date ≤ "+10000-01-01") = [] := rfl
    rw [metricRows, inRange, List.mergeSort_nil]
  refine ⟨widens_lastDay, DailyCost.ofMetrics "9999-12-31"
    [cutMetric { fullMetric "a" with date := "9999-12-31" }], ?_, ?_⟩
  · have read : lastDayStore.dailyMetrics "9999-12-31" "9999-12-31" =
        .ok [cutMetric { fullMetric "a" with date := "9999-12-31" }] := by
      rw [dailyMetrics, onDay]
      rfl
    rw [costs_of_dates isNarrow read, ofMetrics_singleton]
    rfl
  · have none : CostSummary.ofMetrics [] = ⟨[]⟩ :=
      congrArg CostSummary.mk ((bucketsOf_ofMetrics []).unique bucketsOf_nil)
    have read : lastDayStore.dailyMetrics "9999-12-31" "+10000-01-01" = .ok [] := by
      rw [dailyMetrics, fromDay]
      rfl
    rw [costs_of_dates isWide read, none]
    rfl

end UsageLedger
