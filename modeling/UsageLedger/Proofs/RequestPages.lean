import Mathlib.Algebra.Order.Floor.Div
import UsageLedger.Proofs.UsageTables
import UsageLedger.Service.Analytics

/-!
# Pages of requests

The requests that match a query form one list, from the latest start on and of
equal starts by id.  A page is a slice of that list, and it is answered
together with the number of all requests and of all pages.  Every page whose
number has 32 bits is answered so, because no offset of a page leaves 64 bits.
An entry of the list shows one record, each field under its own name.

`request_pages_partition` adds what the pages are together: one after another
they are the list, so that no request is lost, shown twice or moved.
-/

namespace UsageLedger

open UsageLedger.Service
open UsageLedger.Store

/-! ## Slices of a list -/

section Slices

variable {α β : Type}

/-- What stands on a page of a list; pages count from one. -/
def onPage (rows : List α) (limit page : Nat) : List α :=
  (rows.drop ((page - 1) * limit)).take limit

theorem map_onPage (value : α → β) (rows : List α) (limit page : Nat) :
    (onPage rows limit page).map value = onPage (rows.map value) limit page := by
  rw [onPage, onPage, List.map_take, List.map_drop]

theorem mem_of_mem_onPage
    {rows : List α}
    {limit page : Nat}
    {row : α}
    (member : row ∈ onPage rows limit page) :
    row ∈ rows :=
  List.mem_of_mem_drop (List.mem_of_mem_take member)

theorem length_onPage (rows : List α) (limit page : Nat) :
    (onPage rows limit page).length = min limit (rows.length - (page - 1) * limit) := by
  rw [onPage, List.length_take, List.length_drop]

/-- The first pages one after another are the beginning of the list. -/
theorem flatMap_onPage (rows : List α) (limit pages : Nat) :
    (List.range' 1 pages).flatMap (onPage rows limit) = rows.take (pages * limit) := by
  induction pages with
  | zero =>
      rw [Nat.zero_mul]
      rfl
  | succ pages hypothesis =>
      rw [List.range'_1_concat, List.flatMap_append, hypothesis, List.flatMap_singleton,
        onPage, Nat.add_sub_cancel_left, ← List.take_add, Nat.succ_mul]

/-- As many pages as are counted are just enough to hold a list. -/
theorem ceilDiv_spec (total : Nat) {limit : Nat} (positive : 0 < limit) :
    total ≤ (total ⌈/⌉ limit) * limit ∧ (total ⌈/⌉ limit) * limit < total + limit := by
  have spec := @pageCount_spec total limit positive
  rwa [pageCount, if_neg (Nat.ne_of_gt positive), ← Nat.ceilDiv_eq_add_pred_div] at spec

/-- A page before the last one is full. -/
theorem length_onPage_of_lt
    {rows : List α}
    {limit page : Nat}
    (positive : 0 < limit)
    (first : 1 ≤ page)
    (before : page < rows.length ⌈/⌉ limit) :
    (onPage rows limit page).length = limit := by
  have enough := (ceilDiv_spec rows.length positive).2
  have upTo : (page + 1) * limit ≤ (rows.length ⌈/⌉ limit) * limit :=
    Nat.mul_le_mul_right limit before
  have split : (page - 1) * limit + 2 * limit = (page + 1) * limit := by
    rw [← Nat.add_mul]
    congr 1
    omega
  rw [length_onPage]
  omega

theorem onPage_ne_nil_of_last
    {rows : List α}
    {limit : Nat}
    (positive : 0 < limit)
    (nonempty : rows ≠ []) :
    onPage rows limit (rows.length ⌈/⌉ limit) ≠ [] := by
  have enough := (ceilDiv_spec rows.length positive).2
  have length := List.length_pos_iff.2 nonempty
  rw [← List.length_pos_iff, length_onPage]
  rw [Nat.sub_mul, Nat.one_mul]
  omega

theorem onPage_eq_nil_of_gt
    {rows : List α}
    {limit page : Nat}
    (positive : 0 < limit)
    (beyond : rows.length ⌈/⌉ limit < page) :
    onPage rows limit page = [] := by
  have enough := (ceilDiv_spec rows.length positive).1
  have upTo : (rows.length ⌈/⌉ limit) * limit ≤ (page - 1) * limit :=
    Nat.mul_le_mul_right limit (Nat.le_sub_one_of_lt beyond)
  rw [← List.length_eq_zero_iff, length_onPage]
  omega

end Slices

/-! ## The listing -/

/-- A start is listed before another: the later text first, and a missing one last. -/
def StartsLater : Option String → Option String → Prop
  | some first, some second => second < first
  | some _, none => True
  | none, _ => False

/-- Strict order of listings: from the latest start on, of equal starts by id. -/
def RequestRecord.ListedBefore (first second : RequestRecord) : Prop :=
  StartsLater first.startedAt second.startedAt ∨
    first.startedAt = second.startedAt ∧ first.id < second.id

/-- A record is what a filter asks for. -/
structure Store.RequestFilter.Matches (filter : RequestFilter) (record : RequestRecord) :
    Prop where
  model : ∀ name, filter.model = some name → record.model = some name
  lower : ∀ bound, filter.lower = some bound →
    ∃ start, record.startedAt = some start ∧ bound ≤ start
  upper : ∀ bound, filter.upper = some bound →
    ∃ start, record.startedAt = some start ∧ start ≤ bound

/-- A store whose requests can be read, with an id each. -/
structure Store.Readable (store : Store) : Prop where
  reads : ∀ row ∈ store.requests, ∃ record, row.read = .ok record
  unique : (store.requests.map StoredRequest.id).Nodup

/-- The stored requests that match a filter, in the order of listings. -/
structure Lists (store : Store) (filter : RequestFilter) (listed : List RequestRecord) :
    Prop where
  ordered : listed.Pairwise RequestRecord.ListedBefore
  mem_iff : ∀ record, record ∈ listed ↔
    filter.Matches record ∧ ∃ row ∈ store.requests, row.read = .ok record

namespace Store

theorem bind_eq_ok_iff
    {α β ε : Type}
    {first : Except ε α}
    {next : α → Except ε β}
    {value : β} :
    first >>= next = .ok value ↔ ∃ given, first = .ok given ∧ next given = .ok value := by
  cases first <;> simp [bind, Except.bind]

theorem StoredRequest.fields_of_read
    {row : StoredRequest}
    {record : RequestRecord}
    (read : row.read = .ok record) :
    row.id = some record.id ∧ row.model = record.model ∧
      row.startedAt = record.startedAt := by
  simp only [StoredRequest.read, bind_eq_ok_iff] at read
  rcases read with ⟨id, idRead, _, -, _, -, _, -, _, -, _, -, built⟩
  cases built
  refine ⟨?_, rfl, rfl⟩
  cases stored : row.id with
  | none =>
      rw [stored] at idRead
      cases idRead
  | some text =>
      rw [stored] at idRead
      cases idRead
      rfl

theorem RequestFilter.allows_iff {α : Type} {bound : Option α} {condition : α → Bool} :
    RequestFilter.allows bound condition = true ↔
      ∀ value, bound = some value → condition value = true := by
  cases bound <;> simp [RequestFilter.allows]

theorem holds_iff {α : Type} {condition : α → Bool} {given : Option α} :
    holds condition given = true ↔ ∃ value, given = some value ∧ condition value = true := by
  cases given <;> simp [holds]

theorem RequestFilter.accepts_iff
    (filter : RequestFilter)
    {row : StoredRequest}
    {record : RequestRecord}
    (read : row.read = .ok record) :
    filter.accepts row = true ↔ filter.Matches record := by
  rcases StoredRequest.fields_of_read read with ⟨-, sameModel, sameStart⟩
  simp only [RequestFilter.accepts, Bool.and_eq_true, RequestFilter.allows_iff, holds_iff,
    beq_iff_eq, decide_eq_true_eq, sameModel, sameStart]
  constructor
  · rintro ⟨⟨model, lower⟩, upper⟩
    exact ⟨model, lower, upper⟩
  · rintro ⟨model, lower, upper⟩
    exact ⟨⟨model, lower⟩, upper⟩

theorem sortsBy_listedNoLater : SortsBy StoredRequest.listedNoLater := by
  have byId : SortsBy fun first second : StoredRequest => ascending first.id second.id :=
    { trans := fun first second third => sortsBy_ascending.trans first.id second.id third.id
      total := fun first second => sortsBy_ascending.total first.id second.id }
  show SortsBy (tieBroken StoredRequest.startedAt descending
    fun first second => ascending first.id second.id)
  exact SortsBy.tieBroken sortsBy_descending decides_descending byId

theorem id_eq_of_listedNoLater
    {first second : StoredRequest}
    (noLater : first.listedNoLater second = true)
    (noEarlier : second.listedNoLater first = true) :
    first.id = second.id := by
  unfold StoredRequest.listedNoLater at noLater noEarlier
  by_cases sameStart : first.startedAt = second.startedAt
  · rw [if_pos sameStart] at noLater
    rw [if_pos sameStart.symm] at noEarlier
    exact decides_ascending _ _ noLater noEarlier
  · rw [if_neg sameStart] at noLater
    rw [if_neg (Ne.symm sameStart)] at noEarlier
    exact absurd (decides_descending _ _ noLater noEarlier) sameStart

theorem startsLater_of_descending
    {first second : Option String}
    (noLater : descending first second = true)
    (different : first ≠ second) :
    StartsLater first second := by
  cases first with
  | none =>
      cases second with
      | none => exact absurd rfl different
      | some start => cases noLater
  | some start =>
      cases second with
      | none => trivial
      | some other =>
          rw [descending, decide_eq_true_eq] at noLater
          apply Std.lt_of_le_of_ne noLater
          rintro rfl
          exact different rfl

/-- Of two records with different ids, the one that comes no later comes before. -/
theorem listedBefore_of_noLater
    {first second : StoredRequest}
    {firstRecord secondRecord : RequestRecord}
    (firstRead : first.read = .ok firstRecord)
    (secondRead : second.read = .ok secondRecord)
    (noLater : first.listedNoLater second = true)
    (different : first.id ≠ second.id) :
    firstRecord.ListedBefore secondRecord := by
  rcases StoredRequest.fields_of_read firstRead with ⟨firstId, -, firstStart⟩
  rcases StoredRequest.fields_of_read secondRead with ⟨secondId, -, secondStart⟩
  rw [StoredRequest.listedNoLater, firstStart, secondStart, firstId, secondId] at noLater
  rw [firstId, secondId] at different
  by_cases sameStart : firstRecord.startedAt = secondRecord.startedAt
  · rw [if_pos sameStart, ascending, decide_eq_true_eq] at noLater
    refine Or.inr ⟨sameStart, Std.lt_of_le_of_ne noLater ?_⟩
    intro sameId
    exact different (congrArg some sameId)
  · rw [if_neg sameStart] at noLater
    exact Or.inl (startsLater_of_descending noLater sameStart)

theorem mem_listing_iff
    {store : Store}
    {filter : RequestFilter}
    {row : StoredRequest} :
    row ∈ store.listing filter ↔ row ∈ store.requests ∧ filter.accepts row = true := by
  rw [listing, List.mem_mergeSort, List.mem_filter]

/-- Rows that can be read are read in turn. -/
theorem mapM_of_reads
    {value : StoredRequest → RequestRecord}
    {rows : List StoredRequest}
    (reads : ∀ row ∈ rows, row.read = .ok (value row)) :
    rows.mapM StoredRequest.read = .ok (rows.map value) := by
  induction rows with
  | nil => rfl
  | cons row rest hypothesis =>
      rcases List.forall_mem_cons.1 reads with ⟨first, later⟩
      rw [List.mapM_cons, first, hypothesis later]
      rfl

/-- Read row by row, the rows of a listing are the records that match. -/
theorem lists_listing
    {store : Store}
    (unique : (store.requests.map StoredRequest.id).Nodup)
    {value : StoredRequest → RequestRecord}
    (reads : ∀ row ∈ store.requests, row.read = .ok (value row))
    (filter : RequestFilter) :
    Lists store filter ((store.listing filter).map value) where
  ordered := by
    have sorted : (store.listing filter).Pairwise fun first second =>
        first.listedNoLater second = true :=
      List.pairwise_mergeSort sortsBy_listedNoLater.trans sortsBy_listedNoLater.total _
    have distinct : (store.listing filter).Pairwise fun first second =>
        first.id ≠ second.id := by
      rw [listing, (List.mergeSort_perm _ _).pairwise_iff fun different => different.symm]
      exact (List.pairwise_map.1 unique).filter _
    rw [List.pairwise_map]
    refine (sorted.and distinct).imp_of_mem ?_
    rintro first second firstListed secondListed ⟨noLater, different⟩
    exact listedBefore_of_noLater (reads first (mem_listing_iff.1 firstListed).1)
      (reads second (mem_listing_iff.1 secondListed).1) noLater different
  mem_iff record := by
    rw [List.mem_map]
    constructor
    · rintro ⟨row, listed, rfl⟩
      rcases mem_listing_iff.1 listed with ⟨stored, accepted⟩
      exact ⟨(filter.accepts_iff (reads row stored)).1 accepted, row, stored, reads row stored⟩
    · rintro ⟨isMatch, row, stored, read⟩
      refine ⟨row, mem_listing_iff.2 ⟨stored, (filter.accepts_iff read).2 isMatch⟩, ?_⟩
      exact Except.ok.inj ((reads row stored).symm.trans read)

theorem Readable.exists_value {store : Store} (readable : store.Readable) :
    ∃ value : StoredRequest → RequestRecord,
      ∀ row ∈ store.requests, row.read = .ok (value row) := by
  have : Nonempty RequestRecord :=
    ⟨⟨"", none, none, none, none, none, 0, 0, 0, none, none⟩⟩
  choose! value reads using readable.reads
  exact ⟨value, reads⟩

theorem Reachable.readable {store : Store} (reachable : Reachable store) :
    Readable store where
  reads row member := by
    rcases reachable with ⟨operations, rfl⟩
    rcases requestTable.mem_rows_after_iff.1 member with ⟨record, -, rfl⟩
    exact ⟨_, StoredRequest.read_ofRecord record⟩
  unique := reachable.sound.requests

/-! ## One page -/

theorem pageOffset_of_fits
    {page limit : Nat}
    (fits : (page - 1) * limit ≤ largestSigned) :
    pageOffset page limit = .ok ((page - 1) * limit) :=
  if_pos fits

/-- Where the offset of a page fits, the page is a slice of the listing, read row by row. -/
theorem requestPage_of_fits
    {page limit : Nat}
    (fits : (page - 1) * limit ≤ largestSigned)
    (store : Store)
    (filter : RequestFilter) :
    store.requestPage page limit filter =
      ((onPage (store.listing filter) limit page).mapM StoredRequest.read).map
        fun records => (records, (store.listing filter).length) := by
  rw [requestPage, pageOffset_of_fits fits, onPage]
  show (((store.listing filter).drop ((page - 1) * limit)).take limit).mapM
      StoredRequest.read >>= _ = _
  cases (((store.listing filter).drop ((page - 1) * limit)).take limit).mapM
      StoredRequest.read with
  | error cause => rfl
  | ok records => rfl

/-- With a page size that is allowed, the offset of a page whose number has 32 bits fits. -/
theorem offset_fits
    {page limit : Nat}
    (small : page ≤ largest32)
    (atMost : limit ≤ largestPageLimit) :
    (page - 1) * limit ≤ largestSigned :=
  calc
    (page - 1) * limit
      ≤ largest32 * largestPageLimit :=
        Nat.mul_le_mul (Nat.le_trans (Nat.sub_le page 1) small) atMost
    _ ≤ largestSigned := by decide

end Store

/-! ## Entries of a listing -/

/-- An entry of a listing shows a record, each field under its own name. -/
structure RequestListing.Shows (entry : RequestListing) (record : RequestRecord) : Prop where
  id : entry.id = record.id
  traceId : entry.traceId = record.traceId
  name : entry.name = record.name
  model : entry.model = record.model
  startTime : entry.startTime = record.startedAt
  endTime : entry.endTime = record.finishedAt
  inputTokens : entry.inputTokens = record.inputTokens
  outputTokens : entry.outputTokens = record.outputTokens
  totalTokens : entry.totalTokens = record.totalTokens
  cost : entry.cost = record.cost
  latencyMs : entry.latencyMs = record.latencyMs

theorem RequestListing.shows_iff {entry : RequestListing} {record : RequestRecord} :
    entry.Shows record ↔ entry = record.listing := by
  constructor
  · rintro ⟨id, traceId, name, model, startTime, endTime, input, output, total, cost, latency⟩
    exact RequestListing.ext id traceId name model startTime endTime input output total cost
      latency
  · rintro rfl
    exact ⟨rfl, rfl, rfl, rfl, rfl, rfl, rfl, rfl, rfl, rfl, rfl⟩

/-- Entries show records one for one, in their order. -/
abbrev ShowsEach (entries : List RequestListing) (records : List RequestRecord) : Prop :=
  List.Forall₂ RequestListing.Shows entries records

theorem showsEach_map (records : List RequestRecord) :
    ShowsEach (records.map RequestRecord.listing) records := by
  rw [ShowsEach, List.forall₂_map_left_iff, List.forall₂_same]
  exact fun record _ => RequestListing.shows_iff.2 rfl

/-- Where a page stands in a listing of some length. -/
def positionIn (total limit page : Nat) : PagePosition where
  page := page
  limit := limit
  totalItems := total
  totalPages := total ⌈/⌉ limit

/-- A page of some entries. -/
def pageOf (entries : List RequestListing) (limit page : Nat) : RequestPage where
  data := onPage entries limit page
  position := positionIn entries.length limit page

/-- The answer to a query for a page shows a slice of some rows, which are read one by one. -/
structure AnswersSlice (rows : List StoredRequest) (limit page : Nat)
    (answer : Except ServiceError RequestPage) : Prop where
  shown : ∀ records, (onPage rows limit page).mapM StoredRequest.read = .ok records →
    ∃ entries, ShowsEach entries records ∧
      answer = .ok { data := entries, position := positionIn rows.length limit page }
  unreadable : ∀ cause, (onPage rows limit page).mapM StoredRequest.read = .error cause →
    answer = fromStore (.error cause)

/-- The entries that an answer shows, none if it is a failure. -/
def entriesOf : Except ServiceError RequestPage → List RequestListing
  | .ok page => page.data
  | .error _ => []

/-- The answers to a query for one page after another partition some entries. -/
structure PagesPartition (store : Store) (query : RequestQuery)
    (entries : List RequestListing) : Prop where
  answered : ∀ page, 1 ≤ page → page ≤ largest32 →
    requests store { query with page } = .ok (pageOf entries query.limit page)
  /-- Whatever number of pages is asked for, they begin the list without a gap. -/
  joined : ∀ pages, pages ≤ largest32 →
    ((List.range' 1 pages).flatMap fun page =>
        entriesOf (requests store { query with page })) =
      entries.take (pages * query.limit)
  /-- All pages together are the list. -/
  whole : ∀ pages, entries.length ⌈/⌉ query.limit ≤ pages → pages ≤ largest32 →
    ((List.range' 1 pages).flatMap fun page =>
        entriesOf (requests store { query with page })) = entries
  full : ∀ page, 1 ≤ page → page < entries.length ⌈/⌉ query.limit → page ≤ largest32 →
    (entriesOf (requests store { query with page })).length = query.limit
  last : entries ≠ [] → entries.length ⌈/⌉ query.limit ≤ largest32 →
    entriesOf (requests store { query with page := entries.length ⌈/⌉ query.limit }) ≠ []
  beyond : ∀ page, entries.length ⌈/⌉ query.limit < page → page ≤ largest32 →
    entriesOf (requests store { query with page }) = []

/-- What is answered to a query for a page of requests. -/
structure AnswersPages (store : Store) (query : RequestQuery) : Prop where
  pageTooSmall : query.page = 0 →
    requests store query = .error (.invalidInput .pageTooSmall)
  limitOutOfRange : 1 ≤ query.page → ¬ (1 ≤ query.limit ∧ query.limit ≤ 500) →
    requests store query = .error (.invalidInput (.limitOutOfRange 500))
  /-- Whatever the store holds, a page is a slice of its listing, read row by row. -/
  sliced : ∀ filter, requestFilter query = .ok filter →
    1 ≤ query.limit → query.limit ≤ 500 → ∀ page, 1 ≤ page → page ≤ largest32 →
      AnswersSlice (store.listing filter) query.limit page (requests store { query with page })
  /-- Where the requests can be read, the pages partition those that match. -/
  partitioned : ∀ filter, requestFilter query = .ok filter →
    1 ≤ query.limit → query.limit ≤ 500 → store.Readable →
      ∃ listed entries, Lists store filter listed ∧ ShowsEach entries listed ∧
        PagesPartition store query entries

section Valid

variable
    {store : Store}
    {query : RequestQuery}
    {filter : RequestFilter}
    (valid : requestFilter query = .ok filter)
    (atLeast : 1 ≤ query.limit)
    (atMost : query.limit ≤ largestPageLimit)

include valid atLeast atMost

theorem requests_of_valid
    {page : Nat}
    (first : 1 ≤ page)
    (small : page ≤ largest32) :
    requests store { query with page } =
      (fromStore ((onPage (store.listing filter) query.limit page).mapM
        StoredRequest.read)).map fun records =>
          { data := records.map RequestRecord.listing
            position := positionIn (store.listing filter).length query.limit page } := by
  have sameFilter : requestFilter { query with page } = .ok filter := valid
  have ceil : pageCount (store.listing filter).length query.limit =
      (store.listing filter).length ⌈/⌉ query.limit := by
    rw [pageCount, if_neg (Nat.ne_of_gt atLeast), Nat.ceilDiv_eq_add_pred_div]
  simp only [Service.requests, checkPage, checkLimit, if_pos first,
    if_pos (And.intro atLeast atMost), sameFilter]
  show (fromStore (store.requestPage page query.limit filter)).bind _ = _
  rw [requestPage_of_fits (offset_fits small atMost)]
  cases (onPage (store.listing filter) query.limit page).mapM StoredRequest.read with
  | error cause => cases cause <;> rfl
  | ok records =>
      simp only [Except.bind, fromStore, pure, Except.pure, Except.map, ceil, positionIn]

theorem answersSlice_of_valid
    {page : Nat}
    (first : 1 ≤ page)
    (small : page ≤ largest32) :
    AnswersSlice (store.listing filter) query.limit page (requests store { query with page }) where
  shown records read := by
    refine ⟨_, showsEach_map records, ?_⟩
    rw [requests_of_valid valid atLeast atMost first small, read]
    rfl
  unreadable cause unread := by
    rw [requests_of_valid valid atLeast atMost first small, unread]
    cases cause <;> rfl

/-- Where the rows can be read, a page shows a slice of the records. -/
theorem requests_of_reads
    {value : StoredRequest → RequestRecord}
    (reads : ∀ row ∈ store.requests, row.read = .ok (value row))
    {page : Nat}
    (first : 1 ≤ page)
    (small : page ≤ largest32) :
    requests store { query with page } =
      .ok (pageOf (((store.listing filter).map value).map RequestRecord.listing)
        query.limit page) := by
  have readAll :
      (onPage (store.listing filter) query.limit page).mapM StoredRequest.read =
        .ok ((onPage (store.listing filter) query.limit page).map value) := by
    apply mapM_of_reads
    intro row member
    exact reads row (mem_listing_iff.1 (mem_of_mem_onPage member)).1
  rw [requests_of_valid valid atLeast atMost first small, readAll]
  simp only [fromStore, Except.map, pageOf, map_onPage, List.length_map]

end Valid

theorem pagesPartition_of_answered
    {store : Store}
    {query : RequestQuery}
    {entries : List RequestListing}
    (atLeast : 1 ≤ query.limit)
    (answered : ∀ page, 1 ≤ page → page ≤ largest32 →
      requests store { query with page } = .ok (pageOf entries query.limit page)) :
    PagesPartition store query entries := by
  have shown : ∀ page, 1 ≤ page → page ≤ largest32 →
      entriesOf (requests store { query with page }) = onPage entries query.limit page := by
    intro page first small
    rw [answered page first small]
    rfl
  have joined : ∀ pages, pages ≤ largest32 →
      ((List.range' 1 pages).flatMap fun page =>
          entriesOf (requests store { query with page })) =
        entries.take (pages * query.limit) := by
    intro pages small
    rw [← flatMap_onPage]
    refine List.flatMap_congr fun page member => ?_
    rcases List.mem_range'_1.1 member with ⟨first, before⟩
    exact shown page first (by omega)
  refine ⟨answered, joined, ?_, ?_, ?_, ?_⟩
  · intro pages enough small
    rw [joined pages small]
    apply List.take_of_length_le
    exact Nat.le_trans (ceilDiv_spec _ atLeast).1 (Nat.mul_le_mul_right _ enough)
  · intro page first before small
    rw [shown page first small]
    exact length_onPage_of_lt atLeast first before
  · intro nonempty small
    have first : 1 ≤ entries.length ⌈/⌉ query.limit := by
      have length := List.length_pos_iff.2 nonempty
      have enough := (ceilDiv_spec entries.length atLeast).1
      by_contra none
      rw [Nat.lt_one_iff.1 (Nat.lt_of_not_le none), Nat.zero_mul] at enough
      omega
    rw [shown _ first small]
    exact onPage_ne_nil_of_last atLeast nonempty
  · intro page beyond small
    rw [shown page (Nat.one_le_of_lt beyond) small]
    exact onPage_eq_nil_of_gt atLeast beyond

/--
A query for a page of at most 500 requests is answered with a slice of the
listing; the pages partition it.  Other queries are refused.
-/
theorem request_pages_partition (store : Store) (query : RequestQuery) :
    AnswersPages store query where
  pageTooSmall zero := by
    have refused : ¬ 1 ≤ query.page := by omega
    simp only [Service.requests, checkPage, if_neg refused]
    rfl
  limitOutOfRange first outside := by
    have refused : ¬ (1 ≤ query.limit ∧ query.limit ≤ largestPageLimit) := outside
    simp only [Service.requests, checkPage, if_pos first, checkLimit, if_neg refused]
    rfl
  sliced filter valid atLeast atMost page first small :=
    answersSlice_of_valid valid atLeast atMost first small
  partitioned filter valid atLeast atMost readable := by
    rcases readable.exists_value with ⟨value, reads⟩
    refine ⟨_, _, lists_listing readable.unique reads filter, showsEach_map _, ?_⟩
    apply pagesPartition_of_answered atLeast
    intro page first small
    exact requests_of_reads valid atLeast atMost reads first small

end UsageLedger
