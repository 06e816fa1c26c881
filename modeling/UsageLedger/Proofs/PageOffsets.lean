import UsageLedger.Proofs.DayAgreement
import UsageLedger.Proofs.RequestPages

/-!
# Offsets of pages

A store takes any page and any limit of 32 bits, and the records in front of a
page can be more than a signed integer counts.  Then the call breaks off.

`requestPage_shows` says for every page and limit what is answered: exactly the
slice of the listing that was asked for where its offset fits, and nothing
otherwise.  `page_beyond_the_end_breaks_off` is a page behind the only record
that should be empty.
-/

namespace UsageLedger

open UsageLedger.Service
open UsageLedger.Store

theorem pageOffset_of_not_fits
    {page limit : Nat}
    (exceeds : ¬ (page - 1) * limit ≤ largestSigned) :
    pageOffset page limit = .error .offset :=
  if_neg exceeds

theorem requestPage_of_not_fits
    {page limit : Nat}
    (exceeds : ¬ (page - 1) * limit ≤ largestSigned)
    (store : Store)
    (filter : RequestFilter) :
    store.requestPage page limit filter = .error (.overflow .offset) := by
  rw [requestPage, pageOffset_of_not_fits exceeds]
  rfl

/-- Up to this limit the offset of every page fits. -/
theorem offset_fits_of_limit_le
    {page limit : Nat}
    (pageSmall : page ≤ largest32)
    (limitSmall : limit ≤ 2147483649) :
    (page - 1) * limit ≤ largestSigned :=
  calc
    (page - 1) * limit
      ≤ (largest32 - 1) * 2147483649 :=
        Nat.mul_le_mul (Nat.sub_le_sub_right pageSmall 1) limitSmall
    _ ≤ largestSigned := by decide

/-- What a store shows of the records that match a filter. -/
structure ShowsPages (store : Store) (filter : RequestFilter) (listed : List RequestRecord) :
    Prop where
  /-- A page is shown exactly if its offset fits. -/
  shown_iff : ∀ page limit,
    store.requestPage page limit filter = .ok (onPage listed limit page, listed.length) ↔
      (page - 1) * limit ≤ largestSigned
  beyond : ∀ page limit, (page - 1) * limit ≤ largestSigned →
    listed.length ≤ (page - 1) * limit →
      store.requestPage page limit filter = .ok ([], listed.length)

/-- What a store answers for every page and limit. -/
structure AnswersOffsets (store : Store) (filter : RequestFilter) : Prop where
  /-- Whatever the store holds, the rows of a page are read one by one. -/
  sliced : ∀ page limit, (page - 1) * limit ≤ largestSigned →
    store.requestPage page limit filter =
      ((onPage (store.listing filter) limit page).mapM StoredRequest.read).map
        fun records => (records, (store.listing filter).length)
  brokenOff : ∀ page limit, ¬ (page - 1) * limit ≤ largestSigned →
    store.requestPage page limit filter = .error (.overflow .offset)
  fits : ∀ page limit, page ≤ largest32 → limit ≤ 2147483649 →
    (page - 1) * limit ≤ largestSigned
  readable : store.Readable → ∃ listed, Lists store filter listed ∧
    ShowsPages store filter listed

/-- Behind a list there is nothing on a page. -/
theorem onPage_eq_nil
    {α : Type}
    {rows : List α}
    {page limit : Nat}
    (beyond : rows.length ≤ (page - 1) * limit) :
    onPage rows limit page = [] := by
  rw [onPage, List.drop_eq_nil_of_le beyond, List.take_nil]

theorem requestPage_of_reads
    {store : Store}
    {value : StoredRequest → RequestRecord}
    (reads : ∀ row ∈ store.requests, row.read = .ok (value row))
    (filter : RequestFilter)
    {page limit : Nat}
    (fits : (page - 1) * limit ≤ largestSigned) :
    store.requestPage page limit filter =
      .ok (onPage ((store.listing filter).map value) limit page,
        ((store.listing filter).map value).length) := by
  have readAll : (onPage (store.listing filter) limit page).mapM StoredRequest.read =
      .ok ((onPage (store.listing filter) limit page).map value) := by
    apply mapM_of_reads
    intro row member
    exact reads row (mem_listing_iff.1 (mem_of_mem_onPage member)).1
  rw [requestPage_of_fits fits, readAll, map_onPage, List.length_map]
  rfl

theorem showsPages_of_reads
    {store : Store}
    {filter : RequestFilter}
    {value : StoredRequest → RequestRecord}
    (reads : ∀ row ∈ store.requests, row.read = .ok (value row)) :
    ShowsPages store filter ((store.listing filter).map value) where
  shown_iff page limit := by
    constructor
    · intro shown
      by_contra exceeds
      rw [requestPage_of_not_fits exceeds] at shown
      cases shown
    · exact requestPage_of_reads reads filter
  beyond page limit fits beyond := by
    rw [requestPage_of_reads reads filter fits, onPage_eq_nil beyond]

/--
A page is answered with the slice of the listing that was asked for if its
offset fits a signed integer, and otherwise the call breaks off.
-/
theorem requestPage_shows (store : Store) (filter : RequestFilter) :
    AnswersOffsets store filter where
  sliced _ _ fits := requestPage_of_fits fits store filter
  brokenOff _ _ exceeds := requestPage_of_not_fits exceeds store filter
  fits _ _ := offset_fits_of_limit_le
  readable readable := by
    rcases readable.exists_value with ⟨value, reads⟩
    exact ⟨_, lists_listing readable.unique reads filter, showsPages_of_reads reads⟩

/-- The last page of the largest limit is behind the only record, and yet it is not answered. -/
theorem page_beyond_the_end_breaks_off :
    (startedStore "2025-03-01T10:00:00.000Z").requestPage largest32 largest32 .all =
        .error (.overflow .offset) ∧
      onPage [startedRecord "2025-03-01T10:00:00.000Z"] largest32 largest32 = [] :=
  ⟨requestPage_of_not_fits (by decide) _ _, onPage_eq_nil (by decide)⟩

end UsageLedger
