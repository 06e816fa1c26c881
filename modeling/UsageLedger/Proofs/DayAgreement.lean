import UsageLedger.Proofs.DayEnds
import UsageLedger.Proofs.GroupCounts

/-!
# A day in listings and in costs

A listing of one day and the costs from the start of the day to the start of
the next one should show the same requests.  `listing_and_costs_of_day` says
what each of the two counts, for any starts in RFC 3339: the listing all
requests of the day but the late ones, the costs all but the early ones and
those that are early for the next day.  `late_start_is_not_listed` is a day on
which they differ.
-/

namespace UsageLedger

open UsageLedger.Calendar
open UsageLedger.Service
open UsageLedger.Store
open UsageLedger.Text

/-! ## Counting starts -/

/-- Whether a record is of a model and has a start of some kind. -/
def Store.StoredRequest.isStarted (model : String) (kind : String → Bool)
    (row : StoredRequest) : Bool :=
  row.isOf model && holds kind row.startedAt

/-- How many records of a model have a start of some kind. -/
def Store.countStarts (store : Store) (model : String) (kind : String → Bool) : Nat :=
  store.requests.countP (StoredRequest.isStarted model kind)

theorem countP_add_countP
    {α : Type}
    {rows : List α}
    {first second third fourth : α → Bool}
    (balanced : ∀ row ∈ rows,
      (first row).toNat + (second row).toNat = (third row).toNat + (fourth row).toNat) :
    rows.countP first + rows.countP second = rows.countP third + rows.countP fourth := by
  induction rows with
  | nil => rfl
  | cons row rest hypothesis =>
      rcases List.forall_mem_cons.1 balanced with ⟨here, later⟩
      have remaining := hypothesis later
      simp only [toNat_eq_ite] at here
      simp only [List.countP_cons]
      omega

/-- The records of a model between two times are those with starts between them. -/
theorem countP_startsWithin (store : Store) (lower upper model : String) :
    (store.requests.countP fun row => row.startsWithin lower upper && row.isOf model) =
      store.countStarts model (startsBetween lower upper) := by
  refine List.countP_congr fun row _ => ?_
  rw [Bool.and_comm, StoredRequest.isStarted, StoredRequest.startsWithin]
  cases row.startedAt <;> rfl

theorem countStarts_add
    (store : Store)
    (first second third fourth : String → Bool)
    (balanced : ∀ row ∈ store.requests, ∀ start, row.startedAt = some start →
      (first start).toNat + (second start).toNat =
        (third start).toNat + (fourth start).toNat)
    (model : String) :
    store.countStarts model first + store.countStarts model second =
      store.countStarts model third + store.countStarts model fourth := by
  apply countP_add_countP
  intro row member
  simp only [StoredRequest.isStarted]
  cases row.isOf model with
  | false => rfl
  | true =>
      cases starts : row.startedAt with
      | none => rfl
      | some start => exact balanced row member start starts

/-! ## One day -/

/-- The requests of a model on a day. -/
def dayQuery (day : Date) (model : String) (page limit : Nat) : RequestQuery :=
  ⟨page, limit, some model, some day.text, some day.text⟩

/-- The costs of a day. -/
def dayCosts (day : Date) : CostQuery :=
  ⟨day.midnight, day.next.midnight⟩

theorem requestFilter_dayQuery
    {day : Date}
    (plain : day.IsPlain)
    {model : String}
    (nonempty : model ≠ "")
    (trimmed : trim model = model)
    (page limit : Nat) :
    requestFilter (dayQuery day model page limit) =
      .ok ⟨some model, some day.text, some (day.text ++ endOfDay)⟩ := by
  have named : modelFilter (some model) = some model := by
    simp [modelFilter, trimmed, nonempty]
  simp only [requestFilter, dayQuery, filterBound, requestBound_text plain, dayBound, named]
  rfl

theorem accepts_dayQuery (day : Date) (model : String) (row : StoredRequest) :
    RequestFilter.accepts ⟨some model, some day.text, some (day.text ++ endOfDay)⟩ row =
      row.isStarted model (listedOn day) := by
  simp only [RequestFilter.accepts, RequestFilter.allows, StoredRequest.isStarted,
    StoredRequest.isOf, Bool.and_assoc]
  cases row.startedAt <;> simp [holds, listedOn]

/-- A listing of a day counts the requests that are between its bounds. -/
theorem requests_dayQuery
    {store : Store}
    (reachable : Reachable store)
    {day : Date}
    (plain : day.IsPlain)
    {model : String}
    (nonempty : model ≠ "")
    (trimmed : trim model = model)
    {page limit : Nat}
    (pages : 1 ≤ page ∧ page ≤ largest32)
    (limits : 1 ≤ limit ∧ limit ≤ largestPageLimit) :
    ∃ shown, requests store (dayQuery day model page limit) = .ok shown ∧
      shown.position.totalItems = store.countStarts model (listedOn day) := by
  rcases reachable.readable.exists_value with ⟨value, reads⟩
  refine ⟨_, requests_of_reads (requestFilter_dayQuery plain nonempty trimmed page limit)
    limits.1 limits.2 reads pages.1 pages.2, ?_⟩
  simp only [pageOf, positionIn, List.length_map, listing, List.length_mergeSort,
    ← List.countP_eq_length_filter, Store.countStarts]
  exact List.countP_congr fun row _ => by rw [accepts_dayQuery]

theorem costRange_dayCosts
    {day : Date}
    (plain : day.IsPlain)
    (nextPlain : day.next.IsPlain) :
    costRange (dayCosts day).lower (dayCosts day).upper =
      .ok (.timestamps (day.text ++ startOfDay) (day.next.text ++ startOfDay)) := by
  refine costRange_midnight plain nextPlain ?_
  rw [Date.dayNumber_next]
  omega

/-- The costs of a day count the requests that are between its midnights. -/
theorem costs_dayCosts
    {store : Store}
    (reachable : Reachable store)
    {day : Date}
    (plain : day.IsPlain)
    (nextPlain : day.next.IsPlain)
    (fits : ∀ key, SumsFit
      (store.group (day.text ++ startOfDay) (day.next.text ++ startOfDay) key)) :
    ∃ summary, costs store (dayCosts day) = .ok summary ∧
      ∀ model, summary.requestsOf model = store.countStarts model (countedOn day) := by
  have accepted := costRange_dayCosts plain nextPlain
  rcases costs_count_requests reachable accepted fits with ⟨summary, answered, counts⟩
  refine ⟨summary, answered, ?_⟩
  intro model
  rw [counts, countP_startsWithin]
  rfl

/-- What a listing of a day and the costs of the day count of a model. -/
structure DayCounts (store : Store) (day : Date) (model : String)
    (totalItems requestCount : Nat) : Prop where
  listed : totalItems + store.countStarts model (startsLate day) =
    store.countStarts model (startsOn day)
  counted : requestCount + store.countStarts model (startsEarly day) =
    store.countStarts model (startsOn day) + store.countStarts model (startsEarly day.next)
  /-- They count the same where all starts are written with `T` and three places. -/
  agree : (∀ row ∈ store.requests, row.model = some model →
    ∀ start, row.startedAt = some start → ∃ written : WrittenTime,
      written.text = start ∧ written.IsUtc ∧ written.separator = 'T' ∧
        written.places.length = 3) →
    totalItems = requestCount

theorem countStarts_eq_zero
    {store : Store}
    {model : String}
    {kind : String → Bool}
    (none : ∀ row ∈ store.requests, row.model = some model →
      ∀ start, row.startedAt = some start → kind start = false) :
    store.countStarts model kind = 0 := by
  rw [Store.countStarts, List.countP_eq_zero]
  intro row member isStarted
  simp only [StoredRequest.isStarted, StoredRequest.isOf, Bool.and_eq_true, beq_iff_eq]
    at isStarted
  rcases isStarted with ⟨isOf, holdsKind⟩
  cases starts : row.startedAt with
  | none =>
      rw [starts] at holdsKind
      cases holdsKind
  | some start =>
      rw [starts] at holdsKind
      exact Bool.false_ne_true ((none row member isOf start starts).symm.trans holdsKind)

/-- A time with `T` and three places is neither early nor late. -/
theorem not_early_and_not_late
    {day : Date}
    (plain : day.IsPlain)
    {written : WrittenTime}
    (utc : written.IsUtc)
    (upper : written.separator = 'T')
    (three : written.places.length = 3) :
    startsEarly day written.text = false ∧ startsLate day written.text = false := by
  constructor
  · rw [Bool.eq_false_iff]
    intro early
    have same := Date.dayNumber_injective
      ((startsEarly_iff plain written.plain written.timeChars).1 early).1
    rw [← same, WrittenTime.startsEarly_text_iff utc] at early
    rcases early with space | ⟨-, -, -, -, place, more, places⟩
    · cases upper.symm.trans space
    · rw [places] at three
      simp at three
  · rw [Bool.eq_false_iff]
    intro late
    have same := Date.dayNumber_injective
      ((startsLate_iff plain written.plain written.timeChars).1 late).1
    rw [← same, WrittenTime.startsLate_text_iff utc] at late
    rcases late with lower | ⟨-, -, -, -, none | one | two⟩
    · cases upper.symm.trans lower
    · rw [none] at three
      cases three
    · rw [one] at three
      cases three
    · rw [two] at three
      cases three

/-- Where all starts of a model are written with `T` and three places, none is early or late. -/
theorem countStarts_early_and_late
    {store : Store}
    {model : String}
    (milli : ∀ row ∈ store.requests, row.model = some model →
      ∀ start, row.startedAt = some start → ∃ written : WrittenTime,
        written.text = start ∧ written.IsUtc ∧ written.separator = 'T' ∧
          written.places.length = 3)
    {day : Date}
    (plain : day.IsPlain) :
    store.countStarts model (startsEarly day) = 0 ∧
      store.countStarts model (startsLate day) = 0 := by
  constructor
  · apply countStarts_eq_zero
    intro row member isOf start given
    rcases milli row member isOf start given with ⟨written, rfl, utc, upper, three⟩
    exact (not_early_and_not_late plain utc upper three).1
  · apply countStarts_eq_zero
    intro row member isOf start given
    rcases milli row member isOf start given with ⟨written, rfl, utc, upper, three⟩
    exact (not_early_and_not_late plain utc upper three).2

theorem dayCounts_of_rfc3339
    {store : Store}
    (starts : ∀ row ∈ store.requests, ∀ start, row.startedAt = some start →
      (instantOfRfc3339? start).isSome)
    {day : Date}
    (plain : day.IsPlain)
    (nextPlain : day.next.IsPlain)
    (model : String) :
    DayCounts store day model (store.countStarts model (listedOn day))
      (store.countStarts model (countedOn day)) := by
  have written : ∀ row ∈ store.requests, ∀ start, row.startedAt = some start →
      ∃ written : WrittenTime, written.text = start :=
    fun row member start given => exists_written_of_isSome (starts row member start given)
  have listed : store.countStarts model (listedOn day) +
      store.countStarts model (startsLate day) = store.countStarts model (startsOn day) := by
    have balanced := countStarts_add store (listedOn day) (startsLate day) (startsOn day)
      (fun _ => false)
      (fun row member start given => by
        rcases written row member start given with ⟨written, rfl⟩
        exact listedOn_add_late plain written.plain written.timeChars) model
    rw [balanced, countStarts_eq_zero fun _ _ _ _ _ => rfl]
    rfl
  have counted := countStarts_add store (countedOn day) (startsEarly day) (startsOn day)
    (startsEarly day.next)
    (fun row member start given => by
      rcases written row member start given with ⟨written, rfl⟩
      exact countedOn_add_early plain written.plain written.timeChars nextPlain) model
  refine ⟨listed, counted, ?_⟩
  intro milli
  have today := countStarts_early_and_late milli plain
  have tomorrow := countStarts_early_and_late milli nextPlain
  omega

/--
For any starts in RFC 3339, a listing of a day and the costs of the day are
answered.  The listing counts all requests of a model that are written with
the day but the late ones, the costs count all but the early ones and those
that are early for the next day.
-/
theorem listing_and_costs_of_day
    {store : Store}
    (reachable : Reachable store)
    (starts : ∀ row ∈ store.requests, ∀ start, row.startedAt = some start →
      (instantOfRfc3339? start).isSome)
    {day : Date}
    (lower : 0 ≤ day.year)
    (upper : day.year ≤ 9998)
    (fits : ∀ key, SumsFit
      (store.group (day.text ++ startOfDay) (day.next.text ++ startOfDay) key))
    {model : String}
    (nonempty : model ≠ "")
    (trimmed : trim model = model)
    {page limit : Nat}
    (pages : 1 ≤ page ∧ page ≤ largest32)
    (limits : 1 ≤ limit ∧ limit ≤ largestPageLimit) :
    ∃ shown summary,
      requests store (dayQuery day model page limit) = .ok shown ∧
        costs store (dayCosts day) = .ok summary ∧
        DayCounts store day model shown.position.totalItems (summary.requestsOf model) ∧
        ∀ written : WrittenTime, written.IsUtc →
          (startsEarly written.date written.text = true ↔ written.IsEarly) ∧
            (startsLate written.date written.text = true ↔ written.IsLate) := by
  have plain : day.IsPlain := ⟨lower, by omega⟩
  have nextPlain := Date.isPlain_next lower upper
  rcases requests_dayQuery reachable plain nonempty trimmed pages limits with
    ⟨shown, listed, total⟩
  rcases costs_dayCosts reachable plain nextPlain fits with ⟨summary, answered, counts⟩
  refine ⟨shown, summary, listed, answered, ?_, ?_⟩
  · rw [total, counts]
    exact dayCounts_of_rfc3339 starts plain nextPlain model
  · intro written utc
    exact ⟨WrittenTime.startsEarly_text_iff utc, WrittenTime.startsLate_text_iff utc⟩

/-! ## A request in the last second -/

/-- A request of a model with a start. -/
def startedRecord (start : String) : RequestRecord where
  id := "a"
  traceId := none
  name := none
  model := some "gpt-4o"
  startedAt := some start
  finishedAt := none
  inputTokens := 0
  outputTokens := 0
  totalTokens := 0
  cost := none
  latencyMs := none

/-- A store with one request. -/
def startedStore (start : String) : Store :=
  Store.empty.after [.putRequests [startedRecord start]]

def firstOfMarch : Date :=
  ⟨2025, 3, 1, by decide, by decide, by decide, by decide⟩

theorem requests_startedStore (start : String) :
    (startedStore start).requests = [StoredRequest.ofRecord (startedRecord start)] := rfl

theorem reachable_startedStore (start : String) : Reachable (startedStore start) :=
  ⟨_, rfl⟩

theorem isSome_of_mem_startedStore
    (start : String)
    (read : (instantOfRfc3339? start).isSome) :
    ∀ row ∈ (startedStore start).requests, ∀ given, row.startedAt = some given →
      (instantOfRfc3339? given).isSome := by
  intro row member given starts
  rw [requests_startedStore, List.mem_singleton] at member
  subst member
  cases starts
  exact read

/-- The sums over one request without tokens fit. -/
theorem sumsFit_startedStore (start lower upper : String) (key : String × String) :
    SumsFit ((startedStore start).group lower upper key) := by
  rw [Store.group, requests_startedStore, List.filter_cons]
  split
  · rw [List.filter_nil, sumsFit_iff]
    exact ⟨Nat.zero_le _, Nat.zero_le _, Nat.zero_le _⟩
  · exact sumsFit_nil

theorem listing_and_costs_of_day_started :
    Reachable (startedStore "2025-03-01T23:59:59Z") ∧
      (∀ row ∈ (startedStore "2025-03-01T23:59:59Z").requests, ∀ start,
        row.startedAt = some start → (instantOfRfc3339? start).isSome) ∧
      firstOfMarch.text = "2025-03-01" ∧
      ∃ shown summary,
        requests (startedStore "2025-03-01T23:59:59Z")
            (dayQuery firstOfMarch "gpt-4o" 1 50) = .ok shown ∧
          costs (startedStore "2025-03-01T23:59:59Z") (dayCosts firstOfMarch) =
            .ok summary ∧
          DayCounts (startedStore "2025-03-01T23:59:59Z") firstOfMarch "gpt-4o"
            shown.position.totalItems (summary.requestsOf "gpt-4o") := by
  have reachable := reachable_startedStore "2025-03-01T23:59:59Z"
  have starts := isSome_of_mem_startedStore "2025-03-01T23:59:59Z" (by decide)
  rcases @listing_and_costs_of_day _ reachable starts firstOfMarch (by decide) (by decide)
      (fun key => sumsFit_startedStore _ _ _ key) "gpt-4o" (by decide) (by decide +kernel)
      1 50 ⟨by decide, by decide⟩ ⟨by decide, by decide⟩ with
    ⟨shown, summary, listed, answered, counts, -⟩
  exact ⟨reachable, starts, by decide +kernel, shown, summary, listed, answered, counts⟩

/-- A request in the last second of a day is in its costs and not in its listing. -/
theorem late_start_is_not_listed :
    Reachable (startedStore "2025-03-01T23:59:59Z") ∧
      (startedStore "2025-03-01T23:59:59Z").requests =
        [StoredRequest.ofRecord (startedRecord "2025-03-01T23:59:59Z")] ∧
      (instantOfRfc3339? "2025-03-01T23:59:59Z").isSome ∧
      ∃ shown summary,
        requests (startedStore "2025-03-01T23:59:59Z")
            ⟨1, 50, some "gpt-4o", some "2025-03-01", some "2025-03-01"⟩ = .ok shown ∧
          costs (startedStore "2025-03-01T23:59:59Z")
            ⟨"2025-03-01T00:00:00Z", "2025-03-02T00:00:00Z"⟩ = .ok summary ∧
          shown.position.totalItems = 0 ∧ summary.requestsOf "gpt-4o" = 1 := by
  have reachable := reachable_startedStore "2025-03-01T23:59:59Z"
  have plain : firstOfMarch.IsPlain := by decide
  have nextPlain : firstOfMarch.next.IsPlain := by decide +kernel
  rcases @requests_dayQuery _ reachable firstOfMarch plain "gpt-4o" (by decide)
      (by decide +kernel) 1 50 ⟨by decide, by decide⟩ ⟨by decide, by decide⟩ with
    ⟨shown, listed, total⟩
  rcases costs_dayCosts reachable plain nextPlain fun key => sumsFit_startedStore _ _ _ key with
    ⟨summary, answered, counts⟩
  have query : dayQuery firstOfMarch "gpt-4o" 1 50 =
      ⟨1, 50, some "gpt-4o", some "2025-03-01", some "2025-03-01"⟩ := by decide +kernel
  have range : dayCosts firstOfMarch = ⟨"2025-03-01T00:00:00Z", "2025-03-02T00:00:00Z"⟩ := by
    decide +kernel
  rw [query] at listed
  rw [range] at answered
  refine ⟨reachable, rfl, by decide, shown, summary, listed, answered, ?_, ?_⟩
  · rw [total]
    decide +kernel
  · rw [counts]
    decide +kernel

end UsageLedger
