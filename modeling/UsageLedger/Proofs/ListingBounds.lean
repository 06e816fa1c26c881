import UsageLedger.Proofs.ShownTimes

/-!
# Bounds of listings in time

The bounds of a listing are compared with starts as texts, and stand for
moments: an instant for itself, cut to milliseconds, and a bare date for the
midnight it begins with or for its last millisecond.

`listing_follows_moments` says that the texts decide as the moments do, where
starts are written as instants are: after `T`, with three places and `Z`.  A
bare date is then the beginning of every start of its day and of none before.
-/

namespace UsageLedger

open UsageLedger.Calendar
open UsageLedger.Service
open UsageLedger.Store
open UsageLedger.Text

/-! ## Instants cut to milliseconds -/

namespace Calendar

/-- The last millisecond of a day. -/
def ClockTime.lastMilli : ClockTime :=
  ⟨23, 59, 59, 999000000, by decide, by decide, by decide, by decide⟩

/-- An instant without what it is past its millisecond. -/
def Instant.cutToMilli (instant : Instant) : Instant where
  second := instant.second
  nano := instant.nano / 1000000 * 1000000
  nano_lt := Nat.lt_of_le_of_lt (Nat.div_mul_le_self _ _) instant.nano_lt
  leap_last leap := instant.leap_last (Nat.le_trans leap (Nat.div_mul_le_self _ _))

theorem Instant.cutToMilli_lastMilli (date : Date) :
    (Instant.ofClock date .lastMilli 0).cutToMilli = Instant.ofClock date .lastMilli 0 :=
  Instant.ext rfl (by simp [Instant.cutToMilli, Instant.ofClock, ClockTime.lastMilli])

theorem Instant.cutToMilli_le_iff {first second : Instant} :
    first.cutToMilli ≤ second ↔ ¬ second.BeforeMilli first := by
  simp only [Instant.le_iff, Instant.cutToMilli, Instant.BeforeMilli, Instant.milliOfSecond]
  omega

/-- What comes before a cut instant must be cut itself. -/
theorem Instant.le_cutToMilli_iff
    {first second : Instant}
    (whole : 1000000 ∣ first.nano) :
    first ≤ second.cutToMilli ↔ ¬ second.BeforeMilli first := by
  simp only [Instant.le_iff, Instant.cutToMilli, Instant.BeforeMilli, Instant.milliOfSecond]
  omega

theorem Instant.text_lastMilli (date : Date) :
    (Instant.ofClock date .lastMilli 0).text = date.text ++ endOfDay := by
  have rest : endOfDay.toList =
      'T' :: padded 2 23 ++ ':' :: padded 2 59 ++ ':' :: padded 2 59 ++
        '.' :: padded 3 999 ++ ['Z'] := by
    decide
  rw [Instant.text_ofClock, Date.text_append, rest]
  rfl

/-- A day begins at its midnight. -/
theorem Instant.midnight_le_iff {date : Date} {instant : Instant} :
    Instant.ofClock date .midnight 0 ≤ instant ↔ date.dayNumber ≤ instant.date.dayNumber := by
  have nano : (Instant.ofClock date .midnight 0).nano = 0 := by
    simp [Instant.ofClock, ClockTime.midnight]
  rw [Instant.le_iff, Instant.second_midnight, nano, Instant.date,
    Date.dayNumber_ofDayNumber]
  unfold secondsPerDay
  omega

/-! ## Starts as instants are written -/

/-- A time that is written as an instant is: after `T`, with three places and `Z`. -/
structure WrittenTime.IsCanonical (written : WrittenTime) : Prop where
  mark : written.separator = 'T'
  three : written.places.length = 3
  universal : written.offset = ['Z']

namespace WrittenTime.IsCanonical

variable {written : WrittenTime} (canonical : written.IsCanonical)

include canonical

theorem shown_eq : written.shown = written.instant := by
  have reads := written.offset_reads
  rw [canonical.universal] at reads
  have zero : some ((0 : Int), ([] : List Char)) = some (written.minutesAhead, []) := reads
  rw [shown_eq_instant_iff]
  exact (congrArg Prod.fst (Option.some.inj zero)).symm

theorem date_instant : written.instant.date = written.date := by
  rw [← canonical.shown_eq, date_shown]

theorem text_eq : written.text = written.instant.text := by
  rw [WrittenTime.text, chars_eq_chars_shown canonical.mark canonical.universal canonical.three,
    canonical.shown_eq, Instant.text]

theorem whole_milli : 1000000 ∣ written.instant.nano := by
  have nano := nano_of_three canonical.three
  show 1000000 ∣ written.clock.nano + if written.clock.second = 60 then nanosPerSecond else 0
  unfold nanosPerSecond
  split <;> omega

end WrittenTime.IsCanonical
end Calendar

/-! ## Moments of bounds -/

namespace Service

/-- Whether a value is on the side of a bound that is asked for. -/
def BoundSide.Allows {α : Type} [LE α] (side : BoundSide) (bound value : α) : Prop :=
  match side with
  | .lower => bound ≤ value
  | .upper => value ≤ bound

/-- The moment that a bare date stands for. -/
def BoundSide.moment (side : BoundSide) (date : Date) : Instant :=
  match side with
  | .lower => .ofClock date .midnight 0
  | .upper => .ofClock date .lastMilli 0

/-- The moment that a bound stands for, if it can be read. -/
def boundMoment? (side : BoundSide) (text : String) : Option Instant :=
  if hasTimeMark (trim text) then (instantOfText? (trim text)).map Instant.cutToMilli
  else (dateOfText? (trim text)).map side.moment

/-- A bound as it is compared with starts, with the moment it stands for. -/
inductive IsBound (side : BoundSide) : String → Instant → Prop where
  | instant (instant : Instant) : IsBound side instant.text instant.cutToMilli
  | day (date : Date) : IsBound side (dayBound side date) (side.moment date)

theorem isBound_of_requestBound
    {side : BoundSide}
    {text bound : String}
    (accepted : requestBound side text = .ok bound) :
    ∃ moment, boundMoment? side text = some moment ∧ IsBound side bound moment := by
  simp only [requestBound] at accepted
  rw [boundMoment?]
  split at accepted
  · rename_i marked
    rw [if_pos marked]
    cases read : instantOfText? (trim text) with
    | none =>
        rw [instantBound, read] at accepted
        cases accepted
    | some instant =>
        rw [instantBound, read] at accepted
        cases accepted
        exact ⟨_, rfl, .instant instant⟩
  · rename_i unmarked
    rw [if_neg unmarked]
    cases read : dateOfText? (trim text) with
    | none =>
        rw [read] at accepted
        cases accepted
    | some date =>
        rw [read] at accepted
        cases accepted
        exact ⟨_, rfl, .day date⟩

section Canonical

variable {written : WrittenTime} (canonical : written.IsCanonical)

include canonical

theorem allows_instant_iff
    (side : BoundSide)
    {instant : Instant}
    (plain : instant.date.IsPlain) :
    side.Allows instant.text written.text ↔
      side.Allows instant.cutToMilli written.instant := by
  have startPlain : written.instant.date.IsPlain := by
    rw [canonical.date_instant]
    exact written.plain
  rw [canonical.text_eq]
  cases side with
  | lower =>
      show instant.text ≤ written.instant.text ↔ instant.cutToMilli ≤ written.instant
      rw [← not_lt, Instant.text_lt_text_iff startPlain plain, Instant.cutToMilli_le_iff]
  | upper =>
      show written.instant.text ≤ instant.text ↔ written.instant ≤ instant.cutToMilli
      rw [← not_lt, Instant.text_lt_text_iff plain startPlain,
        Instant.le_cutToMilli_iff canonical.whole_milli]

theorem allows_day_iff
    (side : BoundSide)
    {date : Date}
    (plain : date.IsPlain) :
    side.Allows (dayBound side date) written.text ↔
      side.Allows (side.moment date) written.instant := by
  cases side with
  | lower =>
      -- The date alone is less than every text that begins with it.
      show date.text ≤ written.text ↔ Instant.ofClock date .midnight 0 ≤ written.instant
      have begins : written.text = written.date.textThen written.timeChars := rfl
      rw [← not_lt, begins, date.text_eq_textThen,
        Date.textThen_lt_iff written.plain plain, Instant.midnight_le_iff,
        canonical.date_instant, ← Int.not_lt]
      simp
  | upper =>
      have lastPlain : (Instant.ofClock date .lastMilli 0).date.IsPlain := by
        rw [Instant.date_ofClock]
        exact plain
      have last := allows_instant_iff canonical .upper lastPlain
      rwa [Instant.cutToMilli_lastMilli, Instant.text_lastMilli] at last

/-- Texts decide about canonical starts as the moments do. -/
theorem IsBound.allows_iff
    {side : BoundSide}
    {bound : String}
    {moment : Instant}
    (isBound : IsBound side bound moment)
    (plain : moment.date.IsPlain) :
    side.Allows bound written.text ↔ side.Allows moment written.instant := by
  cases isBound with
  | instant instant => exact allows_instant_iff canonical side plain
  | day date =>
      refine allows_day_iff canonical side ?_
      cases side with
      | lower => exact Instant.date_ofClock date .midnight ▸ plain
      | upper => exact Instant.date_ofClock date .lastMilli ▸ plain

end Canonical
end Service

/-! ## Queries -/

/-- What a query gives as a bound. -/
def RequestQuery.bound (query : RequestQuery) : BoundSide → Option String
  | .lower => query.lower
  | .upper => query.upper

def Store.RequestFilter.bound (filter : RequestFilter) : BoundSide → Option String
  | .lower => filter.lower
  | .upper => filter.upper

/-- The moment that a bound of a query stands for, if it is given and can be read. -/
def RequestQuery.moment? (query : RequestQuery) (side : BoundSide) : Option Instant :=
  (query.bound side).bind (boundMoment? side)

/-- Whether the model of a request is asked for. -/
def RequestQuery.AsksForModel (query : RequestQuery) (model : Option String) : Prop :=
  ∀ name, modelFilter query.model = some name → model = some name

/-- Whether a start is asked for: it is at the moments or between them; none needs no bounds. -/
def RequestQuery.AsksForStart (query : RequestQuery) : Option String → Prop
  | none => ∀ side, query.bound side = none
  | some start => ∃ instant, instantOfRfc3339? start = some instant ∧
      ∀ side moment, query.moment? side = some moment → side.Allows moment instant

/-- A bound of a query, the text it is compared as, and its moment. -/
inductive Resolves (side : BoundSide) :
    Option String → Option String → Option Instant → Prop where
  | missing : Resolves side none none none
  | given {text bound : String} {moment : Instant} (isBound : IsBound side bound moment) :
      Resolves side (some text) (some bound) (some moment)

theorem resolves_of_filterBound
    {side : BoundSide}
    {given bound : Option String}
    (accepted : filterBound side given = .ok bound) :
    Resolves side given bound (given.bind (boundMoment? side)) := by
  cases given with
  | none =>
      cases accepted
      exact .missing
  | some text =>
      rw [filterBound] at accepted
      cases resolved : requestBound side text with
      | error problem =>
          rw [resolved] at accepted
          cases accepted
      | ok resolvedBound =>
          rw [resolved] at accepted
          cases accepted
          rcases isBound_of_requestBound resolved with ⟨moment, read, isBound⟩
          rw [Option.bind_some, read]
          exact .given isBound

section Accepted

variable
    {query : RequestQuery}
    {filter : RequestFilter}
    (accepted : requestFilter query = .ok filter)

include accepted

theorem model_of_requestFilter : filter.model = modelFilter query.model := by
  simp only [requestFilter, bind_eq_ok_iff] at accepted
  rcases accepted with ⟨lower, -, upper, -, built⟩
  cases built
  rfl

theorem resolves_of_requestFilter (side : BoundSide) :
    Resolves side (query.bound side) (filter.bound side) (query.moment? side) := by
  simp only [requestFilter, bind_eq_ok_iff] at accepted
  rcases accepted with ⟨lower, lowerAccepted, upper, upperAccepted, built⟩
  cases built
  cases side with
  | lower => exact resolves_of_filterBound lowerAccepted
  | upper => exact resolves_of_filterBound upperAccepted

omit accepted in
theorem accepts_iff_of_bounds {row : StoredRequest} :
    filter.accepts row = true ↔
      (∀ name, filter.model = some name → row.model = some name) ∧
        ∀ side bound, filter.bound side = some bound →
          ∃ start, row.startedAt = some start ∧ side.Allows bound start := by
  simp only [RequestFilter.accepts, Bool.and_eq_true, RequestFilter.allows_iff, holds_iff,
    beq_iff_eq, decide_eq_true_eq]
  constructor
  · rintro ⟨⟨model, lower⟩, upper⟩
    refine ⟨model, ?_⟩
    rintro (_ | _)
    · exact lower
    · exact upper
  · rintro ⟨model, bounds⟩
    exact ⟨⟨model, bounds .lower⟩, bounds .upper⟩

theorem accepts_missing_iff :
    (∀ side bound, filter.bound side = some bound →
        ∃ start, none = some start ∧ side.Allows bound start) ↔
      query.AsksForStart none := by
  constructor
  · intro none side
    have resolves := resolves_of_requestFilter accepted side
    generalize given : query.bound side = text, query.moment? side = moment,
      bounds : filter.bound side = bound at resolves
    cases resolves with
    | missing => rfl
    | given isBound =>
        rcases none side _ bounds with ⟨start, missing, -⟩
        cases missing
  · intro unbounded side bound bounds
    have resolves := resolves_of_requestFilter accepted side
    rw [unbounded side, bounds] at resolves
    cases resolves

theorem accepts_written_iff
    {written : WrittenTime}
    (canonical : written.IsCanonical)
    (plain : ∀ side moment, query.moment? side = some moment → moment.date.IsPlain) :
    (∀ side bound, filter.bound side = some bound →
        ∃ start, some written.text = some start ∧ side.Allows bound start) ↔
      query.AsksForStart (some written.text) := by
  simp only [RequestQuery.AsksForStart, instantOfRfc3339?_text, Option.some.injEq,
    exists_eq_left']
  refine forall_congr' fun side => ?_
  have resolves := resolves_of_requestFilter accepted side
  have sidePlain := plain side
  generalize query.moment? side = moment, query.bound side = text,
    filter.bound side = bound at resolves sidePlain ⊢
  cases resolves with
  | missing => simp only [reduceCtorEq, false_implies, implies_true]
  | given isBound =>
      simp only [Option.some.injEq, forall_eq']
      exact isBound.allows_iff canonical (sidePlain _ rfl)

/-- Among canonical starts a filter accepts the requests that are asked for. -/
theorem accepts_iff_asked
    {row : StoredRequest}
    (canonical : ∀ start, row.startedAt = some start →
      ∃ written : WrittenTime, written.text = start ∧ written.IsCanonical)
    (plain : ∀ side moment, query.moment? side = some moment → moment.date.IsPlain) :
    filter.accepts row = true ↔
      query.AsksForModel row.model ∧ query.AsksForStart row.startedAt := by
  rw [accepts_iff_of_bounds, model_of_requestFilter accepted]
  refine and_congr_right fun _ => ?_
  cases starts : row.startedAt with
  | none => exact accepts_missing_iff accepted
  | some start =>
      rcases canonical start starts with ⟨written, rfl, isCanonical⟩
      exact accepts_written_iff accepted isCanonical plain

end Accepted

/-- What the pages of a query show together. -/
structure ListsAsked (store : Store) (query : RequestQuery) (filter : RequestFilter) :
    Prop where
  /-- Each bound that is given has a moment. -/
  moments : ∀ side, (query.moment? side).isSome = (query.bound side).isSome
  rows : ∀ row, row ∈ store.listing filter ↔
    row ∈ store.requests ∧ query.AsksForModel row.model ∧ query.AsksForStart row.startedAt
  /-- Whatever the store holds, a page is a slice of these rows, read one by one. -/
  sliced : ∀ page, 1 ≤ page → page ≤ largest32 →
    AnswersSlice (store.listing filter) query.limit page (requests store { query with page })
  /-- Where the requests can be read, the pages partition those that are asked for. -/
  partitioned : store.Readable → ∃ (listed : List RequestRecord) (entries : List RequestListing),
    listed.Pairwise RequestRecord.ListedBefore ∧
      (∀ record, record ∈ listed ↔
        (∃ row ∈ store.requests, row.read = .ok record) ∧
          query.AsksForModel record.model ∧ query.AsksForStart record.startedAt) ∧
      ShowsEach entries listed ∧ PagesPartition store query entries

/--
Where starts are written as instants are, the pages of a query list exactly
the requests of its model that started at the moments of its bounds or
between them; a request without a start needs a query without bounds.
-/
theorem listing_follows_moments
    {store : Store}
    (canonical : ∀ row ∈ store.requests, ∀ start, row.startedAt = some start →
      ∃ written : WrittenTime, written.text = start ∧ written.IsCanonical)
    {query : RequestQuery}
    {filter : RequestFilter}
    (accepted : requestFilter query = .ok filter)
    (plain : ∀ side moment, query.moment? side = some moment → moment.date.IsPlain)
    (atLeast : 1 ≤ query.limit)
    (atMost : query.limit ≤ largestPageLimit) :
    ListsAsked store query filter where
  moments side := by
    have resolves := resolves_of_requestFilter accepted side
    generalize query.moment? side = moment, query.bound side = text,
      filter.bound side = bound at resolves ⊢
    cases resolves <;> rfl
  rows row := by
    rw [mem_listing_iff]
    exact and_congr_right fun stored =>
      accepts_iff_asked accepted (canonical row stored) plain
  sliced page first small := answersSlice_of_valid accepted atLeast atMost first small
  partitioned readable := by
    rcases readable.exists_value with ⟨value, reads⟩
    have lists := lists_listing readable.unique reads filter
    refine ⟨_, _, lists.ordered, ?_, showsEach_map _,
      pagesPartition_of_answered atLeast fun page first small =>
        requests_of_reads accepted atLeast atMost reads first small⟩
    intro record
    rw [lists.mem_iff, and_comm]
    refine and_congr_right ?_
    rintro ⟨row, stored, read⟩
    rcases StoredRequest.fields_of_read read with ⟨-, sameModel, sameStart⟩
    rw [← filter.accepts_iff read, accepts_iff_asked accepted (canonical row stored) plain,
      sameModel, sameStart]

/-! ## The last millisecond of a day -/

/-- The last millisecond of a day, as an instant is written. -/
def lastOfDay : WrittenTime :=
  { WrittenTime.midnight firstOfMarch (by decide) with
    clock := .lastMilli
    places := ['9', '9', '9']
    digits := List.all_eq_true.1 rfl
    nano_eq := by decide }

theorem lastOfDay_canonical : lastOfDay.IsCanonical :=
  ⟨rfl, rfl, rfl⟩

/-- The requests of that millisecond, asked for in another offset and up to the bare date. -/
def lastOfDayQuery : RequestQuery :=
  ⟨1, 50, some "gpt-4o", some "2025-03-02T00:59:59.9995+01:00", some "2025-03-01"⟩

theorem moment?_lastOfDayQuery (side : BoundSide) :
    lastOfDayQuery.moment? side = some lastOfDay.instant := by
  cases side <;> decide +kernel

theorem listing_follows_moments_lastOfDay :
    requestFilter lastOfDayQuery =
        .ok ⟨some "gpt-4o", some lastOfDay.text, some lastOfDay.text⟩ ∧
      StoredRequest.ofRecord (startedRecord lastOfDay.text) ∈
        (startedStore lastOfDay.text).listing
          ⟨some "gpt-4o", some lastOfDay.text, some lastOfDay.text⟩ ∧
      ListsAsked (startedStore lastOfDay.text) lastOfDayQuery
        ⟨some "gpt-4o", some lastOfDay.text, some lastOfDay.text⟩ := by
  have canonical : ∀ row ∈ (startedStore lastOfDay.text).requests, ∀ start,
      row.startedAt = some start →
        ∃ written : WrittenTime, written.text = start ∧ written.IsCanonical := by
    intro row member start starts
    rw [requests_startedStore, List.mem_singleton] at member
    subst member
    cases starts
    exact ⟨lastOfDay, rfl, lastOfDay_canonical⟩
  have accepted : requestFilter lastOfDayQuery =
      .ok ⟨some "gpt-4o", some lastOfDay.text, some lastOfDay.text⟩ := by
    decide +kernel
  have plain : ∀ side moment, lastOfDayQuery.moment? side = some moment →
      moment.date.IsPlain := by
    intro side moment found
    cases (moment?_lastOfDayQuery side).symm.trans found
    decide +kernel
  exact ⟨accepted, mem_listing_iff.2 ⟨List.mem_singleton_self _, by decide +kernel⟩,
    listing_follows_moments canonical accepted plain (by decide) (by decide)⟩

end UsageLedger
