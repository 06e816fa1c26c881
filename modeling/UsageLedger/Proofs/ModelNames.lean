import UsageLedger.Proofs.GroupCounts

/-!
# Names of models, as listed and as asked for

The models of a store are listed as they were delivered; a query for requests
trims the name it is given, and takes a blank one for no name at all.  So a
listed name finds the requests of its model if it is `IsTidy`, that is trimmed
and not blank, and otherwise it finds those of its trimmed form, or all
(`names_find_trimmed_models`).
-/

namespace UsageLedger

open UsageLedger.Service
open UsageLedger.Store
open UsageLedger.Telemetry
open UsageLedger.Text

/-! ## Trimmed names -/

namespace Text

/-- A name that trimming leaves as it is, and that is not empty. -/
def IsTidy (name : String) : Prop :=
  trim name = name ∧ name ≠ ""

theorem IsTidy.not_blank {name : String} (tidy : IsTidy name) : isBlankText name = false := by
  rw [← Bool.not_eq_true, ← trim_eq_empty_iff, tidy.1]
  exact tidy.2

theorem isTidy_trim {name : String} (solid : isBlankText name = false) :
    IsTidy (trim name) := by
  refine ⟨trim_trim name, ?_⟩
  rw [ne_eq, trim_eq_empty_iff, solid]
  exact Bool.false_ne_true

end Text

/-! ## What a name asks for -/

def nameQuery (name : String) (limit : Nat) : RequestQuery :=
  ⟨1, limit, some name, none, none⟩

theorem modelFilter_of_blank {name : String} (blank : isBlankText name = true) :
    modelFilter (some name) = none := by
  simp [modelFilter, trim_eq_empty_iff.2 blank]

theorem modelFilter_of_solid {name : String} (solid : isBlankText name = false) :
    modelFilter (some name) = some (trim name) := by
  simp [modelFilter, (isTidy_trim solid).2]

/-- A store has a request with some record. -/
def Store.Holds (store : Store) (record : RequestRecord) : Prop :=
  ∃ row ∈ store.requests, row.read = .ok record

theorem Store.mem_models_iff {store : Store} {name : String} :
    name ∈ store.models ↔ ∃ row ∈ store.requests, row.model = some name := by
  rw [Store.models, List.mem_mergeSort, List.mem_eraseDups, List.mem_filterMap]

theorem Store.models_pairwise_lt (store : Store) : store.models.Pairwise (· < ·) := by
  have sorted : store.models.Pairwise fun first second => decide (first ≤ second) = true :=
    List.pairwise_mergeSort (sortsBy_text id).trans (sortsBy_text id).total _
  have distinct : store.models.Nodup :=
    (List.mergeSort_perm _ _).nodup_iff.2 (nodup_eraseDups _)
  refine (sorted.and distinct).imp ?_
  rintro first second ⟨noLater, different⟩
  exact Std.lt_of_le_of_ne (of_decide_eq_true noLater) different

/--
The requests that each name finds, given as the records of a listing.  A blank
name finds all of them, any other one those of its trimmed form.
-/
structure FindsTrimmed (store : Store) (found : String → List RequestRecord) : Prop where
  pages : ∀ name limit, 1 ≤ limit → limit ≤ 500 →
    ∃ entries, ShowsEach entries (found name) ∧
      PagesPartition store (nameQuery name limit) entries
  ordered : ∀ name, (found name).Pairwise RequestRecord.ListedBefore
  blank : ∀ name, isBlankText name = true →
    ∀ record, record ∈ found name ↔ store.Holds record
  solid : ∀ name, isBlankText name = false →
    ∀ record, record ∈ found name ↔ store.Holds record ∧ record.model = some (trim name)

theorem Store.Readable.exists_findsTrimmed {store : Store} (readable : store.Readable) :
    ∃ found, FindsTrimmed store found := by
  rcases readable.exists_value with ⟨value, reads⟩
  have lists (name : String) := lists_listing readable.unique reads
    ⟨modelFilter (some name), none, none⟩
  refine ⟨fun name => (store.listing ⟨modelFilter (some name), none, none⟩).map value, ?_⟩
  refine
    { pages := ?_
      ordered := fun name => (lists name).ordered
      blank := ?_
      solid := ?_ }
  · intro name limit atLeast atMost
    refine ⟨_, showsEach_map _, pagesPartition_of_answered atLeast ?_⟩
    intro page first small
    exact requests_of_reads rfl atLeast atMost reads first small
  · intro name blank record
    rw [(lists name).mem_iff, modelFilter_of_blank blank]
    exact and_iff_right ⟨by rintro _ ⟨⟩, by rintro _ ⟨⟩, by rintro _ ⟨⟩⟩
  · intro name solid record
    rw [(lists name).mem_iff, modelFilter_of_solid solid, and_comm]
    refine and_congr_right fun _ => ⟨fun isMatch => isMatch.model _ rfl, fun isModel => ?_⟩
    refine ⟨?_, by rintro _ ⟨⟩, by rintro _ ⟨⟩⟩
    rintro _ ⟨⟩
    exact isModel

theorem Store.Readable.mem_models_iff
    {store : Store}
    (readable : store.Readable)
    {name : String} :
    name ∈ store.models ↔ ∃ record, store.Holds record ∧ record.model = some name := by
  rw [Store.mem_models_iff]
  constructor
  · rintro ⟨row, stored, isModel⟩
    rcases readable.reads row stored with ⟨record, read⟩
    refine ⟨record, ⟨row, stored, read⟩, ?_⟩
    rw [← (StoredRequest.fields_of_read read).2.1, isModel]
  · rintro ⟨record, ⟨row, stored, read⟩, isModel⟩
    exact ⟨row, stored, (StoredRequest.fields_of_read read).2.1.trans isModel⟩

section Finds

variable {store : Store} {found : String → List RequestRecord}
  (finds : FindsTrimmed store found)

include finds

theorem FindsTrimmed.mem_iff_of_tidy
    {name : String}
    (tidy : IsTidy name)
    (record : RequestRecord) :
    record ∈ found name ↔ store.Holds record ∧ record.model = some name := by
  rw [finds.solid name tidy.not_blank, tidy.1]

/-- A request under a name that is not tidy is found under no name but the blank ones. -/
theorem FindsTrimmed.isTidy_of_mem
    {name other : String}
    (solid : isBlankText other = false)
    {record : RequestRecord}
    (member : record ∈ found other)
    (isModel : record.model = some name) :
    IsTidy name := by
  have asTrimmed := ((finds.solid other solid record).1 member).2
  rw [← Option.some.inj (asTrimmed.symm.trans isModel)]
  exact isTidy_trim solid

theorem FindsTrimmed.disjoint
    {first second : String}
    (firstSolid : isBlankText first = false)
    (secondSolid : isBlankText second = false)
    (different : trim first ≠ trim second) :
    (found first).Disjoint (found second) := by
  intro record inFirst inSecond
  have asFirst := ((finds.solid first firstSolid record).1 inFirst).2
  have asSecond := ((finds.solid second secondSolid record).1 inSecond).2
  exact different (Option.some.inj (asFirst.symm.trans asSecond))

/-- A name finds just the requests of its model if it is tidy, or blank and the only model. -/
theorem FindsTrimmed.agrees_iff
    {name : String}
    (stored : ∃ record, store.Holds record ∧ record.model = some name) :
    (∀ record, record ∈ found name ↔ store.Holds record ∧ record.model = some name) ↔
      IsTidy name ∨
        isBlankText name = true ∧ ∀ record, store.Holds record → record.model = some name := by
  constructor
  · intro agrees
    cases blank : isBlankText name with
    | true =>
        refine .inr ⟨rfl, fun record holds => ?_⟩
        exact ((agrees record).1 ((finds.blank name blank record).2 holds)).2
    | false =>
        rcases stored with ⟨record, holds, isModel⟩
        have member := (agrees record).2 ⟨holds, isModel⟩
        exact .inl (finds.isTidy_of_mem blank member isModel)
  · rintro (tidy | ⟨blank, only⟩) record
    · exact finds.mem_iff_of_tidy tidy record
    · rw [finds.blank name blank record]
      exact ⟨fun holds => ⟨holds, only record holds⟩, fun both => both.1⟩

end Finds

/-- What names find that are listed as the models of a store. -/
structure NamesFind (store : Store) (names : List String)
    (found : String → List RequestRecord) : Prop where
  readable : store.Readable
  /-- The names are those of the models of requests, each once. -/
  sorted : names.Pairwise (· < ·)
  stored : ∀ name, name ∈ names ↔ ∃ record, store.Holds record ∧ record.model = some name
  finds : FindsTrimmed store found
  /-- A tidy name finds the requests of its model, of which there are some. -/
  tidy : ∀ name ∈ names, IsTidy name → found name ≠ [] ∧
    ∀ record, record ∈ found name ↔ store.Holds record ∧ record.model = some name
  /-- The requests of another name are found under no name but the blank ones. -/
  untidy : ∀ name ∈ names, ¬ IsTidy name → ∀ other, isBlankText other = false →
    ∀ record ∈ found other, record.model ≠ some name
  disjoint : ∀ first ∈ names, ∀ second ∈ names, IsTidy first → IsTidy second →
    first ≠ second → (found first).Disjoint (found second)
  /-- Tidy names together find all requests that have a model. -/
  whole : (∀ name ∈ names, IsTidy name) → ∀ record, store.Holds record →
    ((∃ name ∈ names, record ∈ found name) ↔ record.model.isSome)
  /-- A name finds just the requests of its model if it is tidy, or blank and the only model. -/
  agrees : ∀ name ∈ names,
    ((∀ record, record ∈ found name ↔ store.Holds record ∧ record.model = some name) ↔
      IsTidy name ∨
        isBlankText name = true ∧ ∀ record, store.Holds record → record.model = some name)

/--
Whatever was imported, the models are the names of all requests as they were
delivered, and each of them finds the requests of its trimmed form, page by
page, or all requests if it is blank.
-/
theorem names_find_trimmed_models (scenarios : List Scenario) :
    ∃ names found,
      Service.models (Store.empty.fed (scenarios.map .imported)) = .ok names ∧
        NamesFind (Store.empty.fed (scenarios.map .imported)) names found := by
  have readable := (reachable_fed (scenarios.map .imported)).readable
  rcases readable.exists_findsTrimmed with ⟨found, finds⟩
  refine ⟨_, found, rfl, ?_⟩
  refine
    { readable
      sorted := Store.models_pairwise_lt _
      stored := fun name => readable.mem_models_iff
      finds
      tidy := ?_
      untidy := ?_
      disjoint := ?_
      whole := ?_
      agrees := fun name listed => finds.agrees_iff (readable.mem_models_iff.1 listed) }
  · intro name listed isTidy
    refine ⟨?_, finds.mem_iff_of_tidy isTidy⟩
    rcases readable.mem_models_iff.1 listed with ⟨record, ofModel⟩
    exact List.ne_nil_of_mem ((finds.mem_iff_of_tidy isTidy record).2 ofModel)
  · intro name listed untidy other solid record member isModel
    exact untidy (finds.isTidy_of_mem solid member isModel)
  · intro first firstListed second secondListed firstTidy secondTidy different
    apply finds.disjoint firstTidy.not_blank secondTidy.not_blank
    rw [firstTidy.1, secondTidy.1]
    exact different
  · intro allTidy record holds
    rw [Option.isSome_iff_exists]
    constructor
    · rintro ⟨name, listed, member⟩
      exact ⟨name, ((finds.mem_iff_of_tidy (allTidy name listed) record).1 member).2⟩
    · rintro ⟨name, isModel⟩
      have listed := readable.mem_models_iff.2 ⟨record, holds, isModel⟩
      exact ⟨name, listed,
        (finds.mem_iff_of_tidy (allTidy name listed) record).2 ⟨holds, isModel⟩⟩

/-- An import of one observation whose model has blanks around its name. -/
def paddedImport : Scenario :=
  .delivering [] [{ fullObservation "a" with model := some " gpt-4o " }]

/-- A name is listed as a model, and a query with that name finds nothing. -/
theorem padded_name_finds_nothing :
    Service.models (Store.empty.fed [.imported paddedImport]) = .ok [" gpt-4o "] ∧
      requests (Store.empty.fed [.imported paddedImport]) (nameQuery " gpt-4o " 50) =
        .ok ⟨[], ⟨1, 50, 0, 0⟩⟩ ∧
      ∃ row ∈ (Store.empty.fed [.imported paddedImport]).requests,
        row.model = some " gpt-4o " := by
  have stored :=
    requests_fed_delivering [] [{ fullObservation "a" with model := some " gpt-4o " }]
  have listed : (Store.empty.fed [.imported paddedImport]).models = [" gpt-4o "] := by
    rw [Store.models, paddedImport, stored]
    decide +kernel
  have missed : (Store.empty.fed [.imported paddedImport]).listing
      ⟨some "gpt-4o", none, none⟩ = [] := by
    rw [Store.listing, paddedImport, stored, mergeSort_eq_nil]
    decide +kernel
  have asked : requestFilter (nameQuery " gpt-4o " 50) = .ok ⟨some "gpt-4o", none, none⟩ := by
    have trimmed : modelFilter (some " gpt-4o ") = some "gpt-4o" := by decide +kernel
    rw [← trimmed]
    rfl
  refine ⟨congrArg Except.ok listed, ?_, ?_⟩
  · have answered := @requests_of_valid (Store.empty.fed [.imported paddedImport]) _ _ asked
      (by decide) (by decide) 1 (by decide) (by decide)
    rw [missed] at answered
    exact answered
  · rw [← Store.mem_models_iff, listed]
    exact List.mem_singleton_self _

end UsageLedger
