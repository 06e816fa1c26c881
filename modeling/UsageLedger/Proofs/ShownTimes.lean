import UsageLedger.Proofs.DayAgreement

/-!
# Costs between instants

Costs between two instants compare the texts of starts with the texts of the
instants.  A text begins with the time its clock shows, in whatever offset;
so a request counts at the time that its start shows, on the date that it is
written with.

`costs_follow_shown_times` says which requests are counted, for any starts in
RFC 3339; with universal time they are those that started between the
instants.  `offset_start_is_not_counted` is a start in another offset that is
between two instants and not counted.
-/

namespace UsageLedger

open UsageLedger.Calendar
open UsageLedger.Service
open UsageLedger.Store
open UsageLedger.Text

/-! ## Times as their clocks show them -/

namespace Calendar.WrittenTime

/-- What the clock of a written time shows, as an instant of universal time. -/
def shown (written : WrittenTime) : Instant :=
  Instant.ofClock written.date written.clock 0

theorem date_shown (written : WrittenTime) : written.shown.date = written.date :=
  Instant.date_ofClock written.date written.clock

/-- Only in universal time a clock shows the instant. -/
theorem shown_eq_instant_iff {written : WrittenTime} :
    written.shown = written.instant ↔ written.minutesAhead = 0 := by
  constructor
  · intro same
    have seconds := congrArg Instant.second same
    simp only [shown, instant, Instant.ofClock] at seconds
    omega
  · intro universal
    rw [shown, instant, universal]

theorem nano_of_three {written : WrittenTime} (three : written.places.length = 3) :
    written.clock.nano = naturalOf written.places * 1000000 := by
  have taken : written.places.take 9 = written.places :=
    List.take_of_length_le (by omega)
  rw [← written.nano_eq]
  simp only [nanosOfPlaces, taken, three]

variable {written : WrittenTime} (upper : written.separator = 'T')

include upper

theorem chars_eq_wholeChars :
    written.chars =
      written.shown.wholeChars ++ (placesChars written.places ++ written.offset) := by
  rw [shown, Instant.wholeChars_ofClock, chars, timeChars, upper]
  simp only [List.append_assoc, List.cons_append]

/-- Three places and `Z` are how an instant itself is written. -/
theorem chars_eq_chars_shown
    (offset : written.offset = ['Z'])
    (three : written.places.length = 3) :
    written.chars = written.shown.chars := by
  have milli : written.shown.shownMilli = naturalOf written.places := by
    rw [shown, Instant.shownMilli_ofClock, nano_of_three three]
    omega
  have some : written.places ≠ [] := by
    intro none
    rw [none] at three
    cases three
  rw [chars_eq_wholeChars upper, Instant.chars_eq, milli,
    (padded_naturalOf written.digits three).2, placesChars_of_ne_nil some, offset]

/--
Whether the text of a time is in the order of what its clock shows, beside an
instant: in another second, or written as precisely as the instant is.
-/
def IsToldFrom (written : WrittenTime) (bound : Instant) : Prop :=
  written.shown.second ≠ bound.second ∨
    written.offset = ['Z'] ∧ written.places.length = 3

theorem text_lt_text_iff
    {bound : Instant}
    (plain : bound.date.IsPlain)
    (told : written.IsToldFrom bound) :
    written.text < bound.text ↔ written.shown.BeforeMilli bound := by
  have shownPlain : written.shown.date.IsPlain := by
    rw [date_shown]
    exact written.plain
  rw [text, Instant.text, String.lt_iff_toList_lt, String.toList_ofList, String.toList_ofList]
  rcases told with apart | ⟨offset, three⟩
  · rw [chars_eq_wholeChars upper, Instant.chars_eq,
      Instant.wholeChars_append_lt_iff shownPlain plain]
    simp only [apart, false_and, or_false, Instant.BeforeMilli]
  · rw [chars_eq_chars_shown upper offset three, Instant.chars_lt_iff shownPlain plain]

omit upper

/--
Whether the text of a time is less than that of an instant by its date: on an
earlier one, or on the same one and followed by a space.
-/
def IsDatedBefore (written : WrittenTime) (bound : Instant) : Prop :=
  written.date.dayNumber < bound.date.dayNumber ∨
    written.date.dayNumber = bound.date.dayNumber ∧ written.separator = ' '

/-- Without `T` the time of day does not matter. -/
theorem text_lt_text_iff_of_ne
    (other : written.separator ≠ 'T')
    {bound : Instant}
    (plain : bound.date.IsPlain) :
    written.text < bound.text ↔ written.IsDatedBefore bound := by
  have space : written.separator < 'T' ↔ written.separator = ' ' := by
    rcases written.separator_cases with same | same | same <;> rw [same] <;> decide
  rw [text, chars, Instant.text, Instant.chars, String.lt_iff_toList_lt, String.toList_ofList,
    String.toList_ofList, timeChars]
  simp only [List.append_assoc, List.cons_append,
    Date.chars_append_lt_iff written.plain plain, List.cons_lt_cons_iff, space, other,
    false_and, or_false, IsDatedBefore]

end Calendar.WrittenTime

/-! ## Groups of written times -/

theorem startsBetween_text_iff (lower upper : String) (written : WrittenTime) :
    startsBetween lower upper written.text = true ↔
      ¬ written.text < lower ∧ written.text < upper := by
  rw [startsBetween, Bool.and_eq_true, decide_eq_true_eq, decide_eq_true_eq, not_lt]

theorem mem_group_iff
    {store : Store}
    {row : StoredRequest}
    (member : row ∈ store.requests)
    {written : WrittenTime}
    (starts : row.startedAt = some written.text)
    (lower upper date model : String) :
    row ∈ store.group lower upper (date, model) ↔
      row.model = some model ∧ date = written.date.text ∧
        startsBetween lower upper written.text = true := by
  have day : dayOf written.text = written.date.text :=
    dayOf_textThen written.plain written.timeChars
  rw [mem_group_iff_countsFor, and_iff_right member, startsBetween, Bool.and_eq_true,
    decide_eq_true_eq, decide_eq_true_eq]
  constructor
  · rintro ⟨isModel, start, given, rfl, within⟩
    cases starts.symm.trans given
    exact ⟨isModel, day, within⟩
  · rintro ⟨isModel, rfl, within⟩
    exact ⟨isModel, _, starts, day, within⟩

/-- Whether an instant is from one up to another, all cut to milliseconds. -/
structure Calendar.Instant.IsBetween (first last started : Instant) : Prop where
  fromFirst : ¬ started.BeforeMilli first
  beforeLast : started.BeforeMilli last

theorem startsBetween_shown_iff
    {written : WrittenTime}
    (upper : written.separator = 'T')
    {first last : Instant}
    (firstPlain : first.date.IsPlain)
    (lastPlain : last.date.IsPlain)
    (toldFirst : written.IsToldFrom first)
    (toldLast : written.IsToldFrom last) :
    startsBetween first.text last.text written.text = true ↔
      Instant.IsBetween first last written.shown := by
  rw [startsBetween_text_iff, WrittenTime.text_lt_text_iff upper firstPlain toldFirst,
    WrittenTime.text_lt_text_iff upper lastPlain toldLast]
  exact ⟨fun both => ⟨both.1, both.2⟩, fun between => ⟨between.1, between.2⟩⟩

/-! ## Costs -/

/-- What costs between two instants count. -/
structure CountsShown (store : Store) (first last : Instant) (summary : CostSummary) :
    Prop where
  /-- Every start is the text of a written time, and read as its instant. -/
  written : ∀ row ∈ store.requests, ∀ start, row.startedAt = some start →
    ∃ written : WrittenTime, written.text = start ∧
      instantOfRfc3339? start = some written.instant
  /-- The entries add up the groups of the range, and every group has an entry. -/
  groups : ShowsGroups store first.text last.text summary
  /-- All entries of a model together count each of its requests once. -/
  once : ∀ model, summary.requestsOf model =
    store.countStarts model (startsBetween first.text last.text)
  /-- A request is in the group of its written date if its text is between the bounds. -/
  asText : ∀ row ∈ store.requests, ∀ written : WrittenTime,
    row.startedAt = some written.text → ∀ date model,
      (row ∈ store.group first.text last.text (date, model) ↔
        row.model = some model ∧ date = written.date.text ∧
          startsBetween first.text last.text written.text = true)
  /-- After `T`, a text is between the bounds if what its clock shows is. -/
  asShown : ∀ written : WrittenTime, written.separator = 'T' →
    written.IsToldFrom first → written.IsToldFrom last →
      (startsBetween first.text last.text written.text = true ↔
        Instant.IsBetween first last written.shown)
  /-- Without `T` its date and the character after it decide. -/
  asDated : ∀ written : WrittenTime, written.separator ≠ 'T' →
    (startsBetween first.text last.text written.text = true ↔
      ¬ written.IsDatedBefore first ∧ written.IsDatedBefore last)
  /-- In universal time a request counts where it started between the instants, on that date. -/
  universal : ∀ row ∈ store.requests, ∀ written : WrittenTime,
    row.startedAt = some written.text → written.separator = 'T' →
      written.minutesAhead = 0 → written.IsToldFrom first → written.IsToldFrom last →
        ∀ date model,
          (row ∈ store.group first.text last.text (date, model) ↔
            row.model = some model ∧ date = written.instant.date.text ∧
              Instant.IsBetween first last written.instant)

theorem answered_iff_fits
    {store : Store}
    (reachable : Reachable store)
    {query : CostQuery}
    {lower upper : String}
    (accepted : costRange query.lower query.upper = .ok (.timestamps lower upper)) :
    (∃ summary, costs store query = .ok summary) ↔
      ∀ key, SumsFit (store.group lower upper key) := by
  have answers := answersTimes_of_reachable reachable accepted
  constructor
  · rintro ⟨summary, answered⟩ key
    by_contra exceeds
    have failed := answers.overflows key exceeds
    rw [answered] at failed
    cases failed
  · intro fits
    rcases answers.summed fits with ⟨summary, answered, -⟩
    exact ⟨summary, answered⟩

/--
For any starts in RFC 3339, costs between two instants are answered if all
sums fit.  They count the requests of a model whose texts are between the
texts of the instants: a request counts at the time that its start shows, on
the date it is written with, and in universal time that is when it started.
-/
theorem costs_follow_shown_times
    {store : Store}
    (reachable : Reachable store)
    (starts : ∀ row ∈ store.requests, ∀ start, row.startedAt = some start →
      (instantOfRfc3339? start).isSome)
    {query : CostQuery}
    {first last : Instant}
    (firstPlain : first.date.IsPlain)
    (lastPlain : last.date.IsPlain)
    (accepted : costRange query.lower query.upper =
      .ok (.timestamps first.text last.text)) :
    ((∃ summary, costs store query = .ok summary) ↔
        ∀ key, SumsFit (store.group first.text last.text key)) ∧
      ∀ summary, costs store query = .ok summary →
        CountsShown store first last summary := by
  refine ⟨answered_iff_fits reachable accepted, ?_⟩
  intro summary answered
  have fits := (answered_iff_fits reachable accepted).1 ⟨summary, answered⟩
  have shows := (answersTimes_of_reachable reachable accepted).summed fits
  have counts := costs_count_requests reachable accepted fits
  simp only [answered, Except.ok.injEq, exists_eq_left'] at shows counts
  refine
    { written := ?_
      groups := shows
      once := ?_
      asText := ?_
      asShown := ?_
      asDated := ?_
      universal := ?_ }
  · intro row member start given
    rcases exists_written_of_isSome (starts row member start given) with ⟨written, rfl⟩
    exact ⟨written, rfl, instantOfRfc3339?_text written⟩
  · intro model
    rw [counts, countP_startsWithin]
  · intro row member written given date model
    exact mem_group_iff member given _ _ date model
  · intro written upper toldFirst toldLast
    exact startsBetween_shown_iff upper firstPlain lastPlain toldFirst toldLast
  · intro written other
    rw [startsBetween_text_iff, WrittenTime.text_lt_text_iff_of_ne other firstPlain,
      WrittenTime.text_lt_text_iff_of_ne other lastPlain]
  · intro row member written given upper zero toldFirst toldLast date model
    have same := WrittenTime.shown_eq_instant_iff.2 zero
    rw [mem_group_iff member given,
      startsBetween_shown_iff upper firstPlain lastPlain toldFirst toldLast,
      ← WrittenTime.date_shown, same]

/-! ## A request in another offset -/

theorem costs_follow_shown_times_started :
    Reachable (startedStore "2025-03-01T23:30:00-05:00") ∧
      (∀ row ∈ (startedStore "2025-03-01T23:30:00-05:00").requests, ∀ start,
        row.startedAt = some start → (instantOfRfc3339? start).isSome) ∧
      ∃ first last summary,
        first.date.IsPlain ∧ last.date.IsPlain ∧
          costRange (dayCosts firstOfMarch).lower (dayCosts firstOfMarch).upper =
            .ok (.timestamps first.text last.text) ∧
          costs (startedStore "2025-03-01T23:30:00-05:00") (dayCosts firstOfMarch) =
            .ok summary ∧
          CountsShown (startedStore "2025-03-01T23:30:00-05:00") first last summary := by
  have reachable := reachable_startedStore "2025-03-01T23:30:00-05:00"
  have starts := isSome_of_mem_startedStore "2025-03-01T23:30:00-05:00" (by decide)
  have plain : firstOfMarch.IsPlain := by decide
  have nextPlain : firstOfMarch.next.IsPlain := by decide +kernel
  have firstPlain : (Instant.ofClock firstOfMarch .midnight 0).date.IsPlain := by
    rw [Instant.date_ofClock]
    exact plain
  have lastPlain : (Instant.ofClock firstOfMarch.next .midnight 0).date.IsPlain := by
    rw [Instant.date_ofClock]
    exact nextPlain
  have accepted := costRange_dayCosts plain nextPlain
  rw [← Instant.text_midnight, ← Instant.text_midnight] at accepted
  rcases costs_dayCosts reachable plain nextPlain fun key => sumsFit_startedStore _ _ _ key with
    ⟨summary, answered, -⟩
  exact ⟨reachable, starts, _, _, summary, firstPlain, lastPlain, accepted, answered,
    (costs_follow_shown_times reachable starts firstPlain lastPlain accepted).2 summary
      answered⟩

/-- A request that started between two instants, in another offset, is not counted between them. -/
theorem offset_start_is_not_counted :
    Reachable (startedStore "2025-03-01T23:30:00-05:00") ∧
      (startedStore "2025-03-01T23:30:00-05:00").requests =
        [StoredRequest.ofRecord (startedRecord "2025-03-01T23:30:00-05:00")] ∧
      ∃ first started last summary,
        instantOfText? "2025-03-02T00:00:00Z" = some first ∧
          instantOfRfc3339? "2025-03-01T23:30:00-05:00" = some started ∧
          instantOfText? "2025-03-03T00:00:00Z" = some last ∧
          Instant.IsBetween first last started ∧
          costs (startedStore "2025-03-01T23:30:00-05:00")
            ⟨"2025-03-02T00:00:00Z", "2025-03-03T00:00:00Z"⟩ = .ok summary ∧
          summary.requestsOf "gpt-4o" = 0 := by
  have reachable := reachable_startedStore "2025-03-01T23:30:00-05:00"
  have plain : firstOfMarch.next.IsPlain := by decide +kernel
  have nextPlain : firstOfMarch.next.next.IsPlain := by decide +kernel
  rcases costs_dayCosts reachable plain nextPlain fun key => sumsFit_startedStore _ _ _ key with
    ⟨summary, answered, counts⟩
  have range : dayCosts firstOfMarch.next =
      ⟨"2025-03-02T00:00:00Z", "2025-03-03T00:00:00Z"⟩ := by
    decide +kernel
  rw [range] at answered
  refine ⟨reachable, rfl, Instant.ofClock firstOfMarch.next .midnight 0,
    Instant.ofClock firstOfMarch.next
      ⟨4, 30, 0, 0, by decide, by decide, by decide, by decide⟩ 0,
    Instant.ofClock firstOfMarch.next.next .midnight 0, summary, by decide +kernel,
    by decide +kernel, by decide +kernel, ⟨by decide +kernel, by decide +kernel⟩,
    answered, ?_⟩
  rw [counts]
  decide +kernel

end UsageLedger
