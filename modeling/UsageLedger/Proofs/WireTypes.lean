import UsageLedger.Proofs.Respellings
import UsageLedger.Wire.Import
import UsageLedger.Wire.Query
import UsageLedger.Wire.Usage

/-!
# Wire types

What goes over the wire is a value of one of the types in `WireType`, with
integers of their widths and finite costs.  Each type has a lemma that takes
its fields in the order of their declaration, so a field that is read in
another way than it is written has none.

`encodings_read_back` joins them: the decoder of a type gives a value back from
its encoding and from every respelling of the encoding, with the members in
another order and among unknown ones, without those that are missing or have
their default, or with the values alone as an array.
-/

namespace UsageLedger

open UsageLedger.Decode
open UsageLedger.Json
open UsageLedger.Telemetry

/-! ## Import runs -/

theorem ImportMode.reads (mode : ImportMode) :
    ReadsPart [] ImportMode.decoder mode.toJson mode := by
  cases mode <;> exact reads_choice rfl

theorem RunStatus.reads (status : RunStatus) :
    ReadsPart [] RunStatus.decoder status.toJson status := by
  cases status <;> exact reads_choice rfl

/-- An integer of 64 bits. -/
structure FitsSigned (value : Int) : Prop where
  least : leastSigned ≤ value
  largest : value ≤ largestSigned

theorem FitsSigned.reads {value : Int} (fits : FitsSigned value) :
    ReadsPart [] signed64 (.integer value) value :=
  reads_integer fits.least fits.largest

theorem ImportRun.reads {run : ImportRun} (fits : FitsSigned run.id) :
    ReadsPart [] ImportRun.shape.decode run.toJson run := by
  have spells : ImportRun.shape.Spells [] _ run :=
    (Shape.spells_of ImportRun.mk)
      |>.required fits.reads
      |>.required (reads_text _)
      |>.optional List.not_mem_nil (fun part _ => reads_text part)
      |>.required (ImportMode.reads _)
      |>.optional List.not_mem_nil (fun part _ => reads_text part)
      |>.required (reads_text _)
      |>.required (RunStatus.reads _)
      |>.optional List.not_mem_nil (fun part _ => reads_text part)
  exact spells.reads (by decide)

structure ImportCounts.Fits (counts : ImportCounts) : Prop where
  metrics : counts.metrics ≤ largest64
  requests : counts.requests ≤ largest64

theorem ImportCounts.reads {counts : ImportCounts} (fits : counts.Fits) :
    ReadsPart [] ImportCounts.shape.decode counts.toJson counts := by
  have spells : ImportCounts.shape.Spells [] _ counts :=
    (Shape.spells_of ImportCounts.mk)
      |>.required (reads_natural fits.metrics)
      |>.required (reads_natural fits.requests)
  exact spells.reads (by decide)

structure ImportOverview.Fits (overview : ImportOverview) : Prop where
  lastRun : ∀ run ∈ overview.lastRun, FitsSigned run.id
  counts : overview.counts.Fits

theorem ImportOverview.reads {overview : ImportOverview} (fits : overview.Fits) :
    ReadsPart [] ImportOverview.shape.decode overview.toJson overview := by
  have spells : ImportOverview.shape.Spells [] _ overview :=
    (Shape.spells_of ImportOverview.mk)
      |>.optional List.not_mem_nil (fun run isLast => ImportRun.reads (fits.lastRun run isLast))
      |>.optional List.not_mem_nil (fun status _ => RunStatus.reads status)
      |>.required (ImportCounts.reads fits.counts)
  exact spells.reads (by decide)

/-! ## Usage -/

/-- Counts of tokens of 64 bits. -/
structure TokensFit (inputTokens outputTokens totalTokens : Nat) : Prop where
  input : inputTokens ≤ largest64
  output : outputTokens ≤ largest64
  total : totalTokens ≤ largest64

structure DailyMetric.Fits (metric : DailyMetric) : Prop where
  tokens : TokensFit metric.inputTokens metric.outputTokens metric.totalTokens
  requestCount : metric.requestCount ≤ largest64
  totalCost : metric.totalCost.isFinite = true

theorem DailyMetric.reads {metric : DailyMetric} (fits : metric.Fits) :
    ReadsPart [] DailyMetric.shape.decode metric.toJson metric := by
  have spells : DailyMetric.shape.Spells [] _ metric :=
    (Shape.spells_of DailyMetric.mk)
      |>.required (reads_text _)
      |>.required (reads_text _)
      |>.required (reads_natural fits.tokens.input)
      |>.required (reads_natural fits.tokens.output)
      |>.required (reads_natural fits.tokens.total)
      |>.required (reads_natural fits.requestCount)
      |>.required (reads_real fits.totalCost)
  exact spells.reads (by decide)

/-- The numbers of a call, of which cost and latency may be missing. -/
structure CallFits (inputTokens outputTokens totalTokens : Nat) (cost : Option Float)
    (latencyMs : Option Int) : Prop where
  tokens : TokensFit inputTokens outputTokens totalTokens
  cost : ∀ amount ∈ cost, amount.isFinite = true
  latency : ∀ latency ∈ latencyMs, FitsSigned latency

def RequestRecord.Fits (record : RequestRecord) : Prop :=
  CallFits record.inputTokens record.outputTokens record.totalTokens record.cost
    record.latencyMs

theorem RequestRecord.reads {record : RequestRecord} (fits : record.Fits) :
    ReadsPart [] RequestRecord.shape.decode record.toJson record := by
  have spells : RequestRecord.shape.Spells [] _ record :=
    (Shape.spells_of RequestRecord.mk)
      |>.required (reads_text _)
      |>.optional List.not_mem_nil (fun part _ => reads_text part)
      |>.optional List.not_mem_nil (fun part _ => reads_text part)
      |>.optional List.not_mem_nil (fun part _ => reads_text part)
      |>.optional List.not_mem_nil (fun part _ => reads_text part)
      |>.optional List.not_mem_nil (fun part _ => reads_text part)
      |>.required (reads_natural fits.tokens.input)
      |>.required (reads_natural fits.tokens.output)
      |>.required (reads_natural fits.tokens.total)
      |>.optional List.not_mem_nil (fun amount isCost => reads_real (fits.cost amount isCost))
      |>.optional List.not_mem_nil (fun part isLatency => (fits.latency part isLatency).reads)
  exact spells.reads (by decide)

def RequestListing.Fits (listing : RequestListing) : Prop :=
  CallFits listing.inputTokens listing.outputTokens listing.totalTokens listing.cost
    listing.latencyMs

theorem RequestListing.reads {listing : RequestListing} (fits : listing.Fits) :
    ReadsPart [] RequestListing.shape.decode listing.toJson listing := by
  have spells : RequestListing.shape.Spells [] _ listing :=
    (Shape.spells_of RequestListing.mk)
      |>.required (reads_text _)
      |>.optional List.not_mem_nil (fun part _ => reads_text part)
      |>.optional List.not_mem_nil (fun part _ => reads_text part)
      |>.optional List.not_mem_nil (fun part _ => reads_text part)
      |>.optional List.not_mem_nil (fun part _ => reads_text part)
      |>.optional List.not_mem_nil (fun part _ => reads_text part)
      |>.required (reads_natural fits.tokens.input)
      |>.required (reads_natural fits.tokens.output)
      |>.required (reads_natural fits.tokens.total)
      |>.optional List.not_mem_nil (fun amount isCost => reads_real (fits.cost amount isCost))
      |>.optional List.not_mem_nil (fun part isLatency => (fits.latency part isLatency).reads)
  exact spells.reads (by decide)

/-- Page and limit have 32 bits, the counts 64. -/
structure PagePosition.Fits (position : PagePosition) : Prop where
  page : position.page ≤ largest32
  limit : position.limit ≤ largest32
  totalItems : position.totalItems ≤ largest64
  totalPages : position.totalPages ≤ largest64

theorem PagePosition.reads {position : PagePosition} (fits : position.Fits) :
    ReadsPart [] PagePosition.shape.decode position.toJson position := by
  have spells : PagePosition.shape.Spells [] _ position :=
    (Shape.spells_of PagePosition.mk)
      |>.required (reads_natural fits.page)
      |>.required (reads_natural fits.limit)
      |>.required (reads_natural fits.totalItems)
      |>.required (reads_natural fits.totalPages)
  exact spells.reads (by decide)

structure RequestPage.Fits (page : RequestPage) : Prop where
  data : ∀ listing ∈ page.data, listing.Fits
  position : page.position.Fits

theorem RequestPage.reads {page : RequestPage} (fits : page.Fits) :
    ReadsPart [] RequestPage.shape.decode page.toJson page := by
  have spells : RequestPage.shape.Spells [] _ page :=
    (Shape.spells_of RequestPage.mk)
      |>.required (reads_list fun listing shown => RequestListing.reads (fits.data listing shown))
      |>.required (PagePosition.reads fits.position)
  exact spells.reads (by decide)

/-! ## Costs -/

structure ModelUsage.Fits (usage : ModelUsage) : Prop where
  tokens : TokensFit usage.inputTokens usage.outputTokens usage.totalTokens
  totalCost : usage.totalCost.isFinite = true
  requestCount : usage.requestCount ≤ largest64

theorem ModelUsage.reads {usage : ModelUsage} (fits : usage.Fits) :
    ReadsPart [] ModelUsage.shape.decode usage.toJson usage := by
  have spells : ModelUsage.shape.Spells [] _ usage :=
    (Shape.spells_of ModelUsage.mk)
      |>.required (reads_text _)
      |>.required (reads_natural fits.tokens.input)
      |>.required (reads_natural fits.tokens.output)
      |>.required (reads_natural fits.tokens.total)
      |>.required (reads_real fits.totalCost)
      |>.required (reads_natural fits.requestCount)
  exact spells.reads (by decide)

structure DailyCost.Fits (bucket : DailyCost) : Prop where
  totalCost : bucket.totalCost.isFinite = true
  requestCount : bucket.requestCount ≤ largest64
  usage : ∀ usage ∈ bucket.usage, usage.Fits

theorem DailyCost.reads {bucket : DailyCost} (fits : bucket.Fits) :
    ReadsPart [] DailyCost.shape.decode bucket.toJson bucket := by
  have spells : DailyCost.shape.Spells [] _ bucket :=
    (Shape.spells_of DailyCost.mk)
      |>.required (reads_text _)
      |>.required (reads_real fits.totalCost)
      |>.required (reads_natural fits.requestCount)
      |>.required (reads_list fun usage shown => ModelUsage.reads (fits.usage usage shown))
  exact spells.reads (by decide)

def CostSummary.Fits (summary : CostSummary) : Prop :=
  ∀ bucket ∈ summary.daily, bucket.Fits

theorem CostSummary.reads {summary : CostSummary} (fits : summary.Fits) :
    ReadsPart [] CostSummary.shape.decode summary.toJson summary := by
  have spells : CostSummary.shape.Spells [] _ summary :=
    (Shape.spells_of CostSummary.mk)
      |>.required (reads_list fun bucket shown => DailyCost.reads (fits bucket shown))
  exact spells.reads (by decide)

/-! ## Queries and settings -/

theorem CostQuery.reads (query : CostQuery) :
    ReadsPart [] CostQuery.shape.decode query.toJson query := by
  have spells : CostQuery.shape.Spells [] _ query :=
    (Shape.spells_of CostQuery.mk)
      |>.required (reads_text _)
      |>.required (reads_text _)
  exact spells.reads (by decide)

/-- The members that a query for requests may lack although they are not null. -/
def RequestQuery.defaults : List (String × Json) :=
  [("page", .natural defaultPage), ("limit", .natural defaultPageLimit)]

structure RequestQuery.Fits (query : RequestQuery) : Prop where
  page : query.page ≤ largest32
  limit : query.limit ≤ largest32

theorem RequestQuery.reads {query : RequestQuery} (fits : query.Fits) :
    ReadsPart RequestQuery.defaults RequestQuery.shape.decode query.toJson query := by
  have spells : RequestQuery.shape.Spells RequestQuery.defaults _ query :=
    (Shape.spells_of RequestQuery.mk)
      |>.defaulted (reads_natural fits.page).reads
        (eq_default_of_mayLack (by simp [RequestQuery.defaults]))
      |>.defaulted (reads_natural fits.limit).reads
        (eq_default_of_mayLack (by simp [RequestQuery.defaults]))
      |>.optional (by decide) (fun part _ => reads_text part)
      |>.optional (by decide) (fun part _ => reads_text part)
      |>.optional (by decide) (fun part _ => reads_text part)
  exact spells.reads (by decide)

def HistoryQuery.defaults : List (String × Json) :=
  [("limit", .natural defaultHistoryLimit)]

theorem HistoryQuery.reads {query : HistoryQuery} (fits : query.limit ≤ largest32) :
    ReadsPart HistoryQuery.defaults HistoryQuery.shape.decode query.toJson query := by
  have spells : HistoryQuery.shape.Spells HistoryQuery.defaults _ query :=
    (Shape.spells_of HistoryQuery.mk)
      |>.defaulted (reads_natural fits).reads
        (eq_default_of_mayLack (by simp [HistoryQuery.defaults]))
  exact spells.reads (by decide)

theorem RunQuery.reads {query : RunQuery} (fits : FitsSigned query.id) :
    ReadsPart [] RunQuery.shape.decode query.toJson query := by
  have spells : RunQuery.shape.Spells [] _ query :=
    (Shape.spells_of RunQuery.mk)
      |>.required fits.reads
  exact spells.reads (by decide)

namespace Telemetry

def Settings.defaults : List (String × Json) :=
  [("timeout_secs", .natural defaultTimeoutSecs)]

theorem Settings.reads {settings : Settings} (fits : settings.timeoutSecs ≤ largest64) :
    ReadsPart Settings.defaults Settings.shape.decode settings.toJson settings := by
  have spells : Settings.shape.Spells Settings.defaults _ settings :=
    (Shape.spells_of Settings.mk)
      |>.defaulted (reads_optional fun part _ => reads_text part)
        (eq_none_of_mayLack (by decide) fun part _ => reads_text part)
      |>.defaulted (reads_optional fun part _ => reads_text part)
        (eq_none_of_mayLack (by decide) fun part _ => reads_text part)
      |>.defaulted (reads_optional fun part _ => reads_text part)
        (eq_none_of_mayLack (by decide) fun part _ => reads_text part)
      |>.defaulted (reads_natural fits).reads
        (eq_default_of_mayLack (by simp [Settings.defaults]))
  exact spells.reads (by decide)

end Telemetry

/-! ## All types -/

/-- The types of what goes over the wire. -/
inductive WireType where
  | importMode
  | runStatus
  | importRun
  | dailyMetric
  | requestRecord
  | importCounts
  | importOverview
  | costSummary
  | requestPage
  | costQuery
  | requestQuery
  | historyQuery
  | runQuery
  | settings

namespace WireType

def Value : WireType → Type
  | importMode => ImportMode
  | runStatus => RunStatus
  | importRun => ImportRun
  | dailyMetric => DailyMetric
  | requestRecord => RequestRecord
  | importCounts => ImportCounts
  | importOverview => ImportOverview
  | costSummary => CostSummary
  | requestPage => RequestPage
  | costQuery => CostQuery
  | requestQuery => RequestQuery
  | historyQuery => HistoryQuery
  | runQuery => RunQuery
  | settings => Settings

def encode : (type : WireType) → type.Value → Json
  | importMode => ImportMode.toJson
  | runStatus => RunStatus.toJson
  | importRun => ImportRun.toJson
  | dailyMetric => DailyMetric.toJson
  | requestRecord => RequestRecord.toJson
  | importCounts => ImportCounts.toJson
  | importOverview => ImportOverview.toJson
  | costSummary => CostSummary.toJson
  | requestPage => RequestPage.toJson
  | costQuery => CostQuery.toJson
  | requestQuery => RequestQuery.toJson
  | historyQuery => HistoryQuery.toJson
  | runQuery => RunQuery.toJson
  | settings => Settings.toJson

def decoder : (type : WireType) → Decoder type.Value
  | importMode => ImportMode.decoder
  | runStatus => RunStatus.decoder
  | importRun => ImportRun.shape.decode
  | dailyMetric => DailyMetric.shape.decode
  | requestRecord => RequestRecord.shape.decode
  | importCounts => ImportCounts.shape.decode
  | importOverview => ImportOverview.shape.decode
  | costSummary => CostSummary.shape.decode
  | requestPage => RequestPage.shape.decode
  | costQuery => CostQuery.shape.decode
  | requestQuery => RequestQuery.shape.decode
  | historyQuery => HistoryQuery.shape.decode
  | runQuery => RunQuery.shape.decode
  | settings => Settings.shape.decode

/-- The members that may be left out although they are not null. -/
def defaults : WireType → List (String × Json)
  | requestQuery => RequestQuery.defaults
  | historyQuery => HistoryQuery.defaults
  | settings => Settings.defaults
  | _ => []

/-- A value whose integers have their widths and whose costs are finite. -/
def Fits : (type : WireType) → type.Value → Prop
  | importRun => fun run : ImportRun => FitsSigned run.id
  | dailyMetric => DailyMetric.Fits
  | requestRecord => RequestRecord.Fits
  | importCounts => ImportCounts.Fits
  | importOverview => ImportOverview.Fits
  | costSummary => CostSummary.Fits
  | requestPage => RequestPage.Fits
  | requestQuery => RequestQuery.Fits
  | historyQuery => fun query : HistoryQuery => query.limit ≤ largest32
  | runQuery => fun query : RunQuery => FitsSigned query.id
  | settings => fun settings : Settings => settings.timeoutSecs ≤ largest64
  | importMode => fun _ => True
  | runStatus => fun _ => True
  | costQuery => fun _ => True

theorem reads : (type : WireType) → {value : type.Value} → type.Fits value →
    Reads type.defaults type.decoder (type.encode value) value
  | importMode, mode, _ => (ImportMode.reads mode).reads
  | runStatus, status, _ => (RunStatus.reads status).reads
  | importRun, _, fits => (ImportRun.reads fits).reads
  | dailyMetric, _, fits => (DailyMetric.reads fits).reads
  | requestRecord, _, fits => (RequestRecord.reads fits).reads
  | importCounts, _, fits => (ImportCounts.reads fits).reads
  | importOverview, _, fits => (ImportOverview.reads fits).reads
  | costSummary, _, fits => (CostSummary.reads fits).reads
  | requestPage, _, fits => (RequestPage.reads fits).reads
  | costQuery, query, _ => (CostQuery.reads query).reads
  | requestQuery, _, fits => (RequestQuery.reads fits).reads
  | historyQuery, _, fits => (HistoryQuery.reads fits).reads
  | runQuery, _, fits => (RunQuery.reads fits).reads
  | settings, _, fits => (Settings.reads fits).reads

end WireType

/-- A value is decoded from its encoding, and from whatever respells the encoding. -/
theorem encodings_read_back
    (type : WireType)
    {value : type.Value}
    (fits : type.Fits value) :
    ofJson type.decoder (type.encode value) = .ok value ∧
      ∀ json, Respelling type.defaults (type.encode value) json →
        ofJson type.decoder json = .ok value :=
  ⟨type.reads fits _ (Respelling.refl _ _), type.reads fits⟩

/-- The second import, while it is running. -/
def runningRun : ImportRun where
  id := 2
  startedAt := "2025-03-02T08:00:00.000Z"
  finishedAt := none
  mode := .incremental
  fromTimestamp := some "2025-03-01T08:00:00.000Z"
  toTimestamp := "2025-03-02T08:00:00.000Z"
  status := .running
  errorMessage := none

def runningOverview : ImportOverview :=
  ⟨some runningRun, some .running, ⟨1, largest64⟩⟩

/-- The run without what it lacks, the last member first. -/
def respelledRun : Json :=
  .object
    [("status", .text "running"),
      ("to_timestamp", .text "2025-03-02T08:00:00.000Z"),
      ("from_timestamp", .text "2025-03-01T08:00:00.000Z"),
      ("mode", .text "incremental"),
      ("started_at", .text "2025-03-02T08:00:00.000Z"),
      ("id", .integer 2)]

/-- The overview with an unknown member, and the counts without names. -/
def respelledOverview : Json :=
  .object
    [("note", .bool true),
      ("counts", .array [.natural 1, .natural largest64]),
      ("last_status", .text "running"),
      ("last_run", respelledRun)]

theorem respelling_runningRun : Respelling [] runningRun.toJson respelledRun := by
  have kept : RespelledMembers []
      [("id", .integer 2),
        ("started_at", .text "2025-03-02T08:00:00.000Z"),
        ("finished_at", .null),
        ("mode", .text "incremental"),
        ("from_timestamp", .text "2025-03-01T08:00:00.000Z"),
        ("to_timestamp", .text "2025-03-02T08:00:00.000Z"),
        ("status", .text "running"),
        ("error_message", .null)] _ :=
    .keep (.number _) <| .keep (.text _) <| .drop (Or.inl rfl) <| .keep (.text _) <|
      .keep (.text _) <| .keep (.text _) <| .keep (.text _) <| .drop (Or.inl rfl) .nil
  exact @Respelling.object _ _ _ [] _ kept (by simp) (List.reverse_perm _).symm

theorem respelling_runningOverview :
    Respelling [] runningOverview.toJson respelledOverview := by
  have counts : RespelledItems [] [.natural 1, .natural largest64] _ :=
    .cons (.number _) (.cons (.number _) .nil)
  have kept : RespelledMembers []
      [("last_run", runningRun.toJson),
        ("last_status", .text "running"),
        ("counts", (ImportCounts.mk 1 largest64).toJson)] _ :=
    .keep respelling_runningRun <| .keep (.text _) <| .keep (.inOrder counts) .nil
  exact @Respelling.object _ _ _ [("note", .bool true)] _ kept (by decide)
    (List.reverse_perm _).symm

/-- Without members, a query for requests is the one with all defaults. -/
theorem respelling_defaultQuery :
    Respelling RequestQuery.defaults (RequestQuery.toJson ⟨1, 50, none, none, none⟩)
      (.object []) := by
  have kept : RespelledMembers RequestQuery.defaults
      [("page", .natural 1), ("limit", .natural 50), ("model", .null), ("from", .null),
        ("to", .null)] [] :=
    .drop (Or.inr List.mem_cons_self) <|
      .drop (Or.inr (List.mem_cons_of_mem _ List.mem_cons_self)) <|
        .drop (Or.inl rfl) <| .drop (Or.inl rfl) <| .drop (Or.inl rfl) .nil
  exact @Respelling.object _ _ _ [] _ kept (by simp) .nil

theorem encodings_read_back_respelled :
    WireType.importOverview.Fits runningOverview ∧
      Respelling [] runningOverview.toJson respelledOverview ∧
      ofJson ImportOverview.shape.decode respelledOverview = .ok runningOverview ∧
      WireType.requestQuery.Fits (⟨1, 50, none, none, none⟩ : RequestQuery) ∧
      Respelling RequestQuery.defaults (RequestQuery.toJson ⟨1, 50, none, none, none⟩)
        (.object []) ∧
      ofJson RequestQuery.shape.decode (.object []) = .ok ⟨1, 50, none, none, none⟩ := by
  have overviewFits : WireType.importOverview.Fits runningOverview := by
    refine ⟨fun run isLast => ?_, ⟨by decide, by decide⟩⟩
    cases isLast
    exact ⟨by decide, by decide⟩
  have queryFits : WireType.requestQuery.Fits (⟨1, 50, none, none, none⟩ : RequestQuery) :=
    ⟨by decide, by decide⟩
  exact ⟨overviewFits, respelling_runningOverview,
    (encodings_read_back .importOverview overviewFits).2 _ respelling_runningOverview,
    queryFits, respelling_defaultQuery,
    (encodings_read_back .requestQuery queryFits).2 _ respelling_defaultQuery⟩

end UsageLedger
