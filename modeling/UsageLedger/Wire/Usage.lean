import UsageLedger.Json.Decode
import UsageLedger.Usage.Cost

/-!
# Usage on the wire

Each type has an encoding as JSON and a decoder; decoding an encoding gives
the value back when its costs are finite.
-/

namespace UsageLedger

open UsageLedger.Decode

/-- A count of 64 bits. -/
def count : Decoder Nat :=
  natural largest64

def DailyMetric.toJson (metric : DailyMetric) : Json :=
  .object
    [("date", .text metric.date),
      ("model", .text metric.model),
      ("input_tokens", .natural metric.inputTokens),
      ("output_tokens", .natural metric.outputTokens),
      ("total_tokens", .natural metric.totalTokens),
      ("request_count", .natural metric.requestCount),
      ("total_cost", .real metric.totalCost)]

/-- The fields of a metric. -/
def DailyMetric.shape : Shape DailyMetric :=
  (Shape.of DailyMetric.mk)
    |>.with (.required "date" text)
    |>.with (.required "model" text)
    |>.with (.required "input_tokens" count)
    |>.with (.required "output_tokens" count)
    |>.with (.required "total_tokens" count)
    |>.with (.required "request_count" count)
    |>.with (.required "total_cost" real)

def RequestRecord.toJson (record : RequestRecord) : Json :=
  .object
    [("id", .text record.id),
      ("trace_id", .optional .text record.traceId),
      ("name", .optional .text record.name),
      ("model", .optional .text record.model),
      ("started_at", .optional .text record.startedAt),
      ("finished_at", .optional .text record.finishedAt),
      ("input_tokens", .natural record.inputTokens),
      ("output_tokens", .natural record.outputTokens),
      ("total_tokens", .natural record.totalTokens),
      ("cost", .optional .real record.cost),
      ("latency_ms", .optional .integer record.latencyMs)]

/-- The fields of a record. -/
def RequestRecord.shape : Shape RequestRecord :=
  (Shape.of RequestRecord.mk)
    |>.with (.required "id" text)
    |>.with (.optional "trace_id" text)
    |>.with (.optional "name" text)
    |>.with (.optional "model" text)
    |>.with (.optional "started_at" text)
    |>.with (.optional "finished_at" text)
    |>.with (.required "input_tokens" count)
    |>.with (.required "output_tokens" count)
    |>.with (.required "total_tokens" count)
    |>.with (.optional "cost" real)
    |>.with (.optional "latency_ms" signed64)

def RequestListing.toJson (listing : RequestListing) : Json :=
  .object
    [("id", .text listing.id),
      ("trace_id", .optional .text listing.traceId),
      ("name", .optional .text listing.name),
      ("model", .optional .text listing.model),
      ("start_time", .optional .text listing.startTime),
      ("end_time", .optional .text listing.endTime),
      ("input_tokens", .natural listing.inputTokens),
      ("output_tokens", .natural listing.outputTokens),
      ("total_tokens", .natural listing.totalTokens),
      ("cost", .optional .real listing.cost),
      ("latency_ms", .optional .integer listing.latencyMs)]

/-- The fields of a listing. -/
def RequestListing.shape : Shape RequestListing :=
  (Shape.of RequestListing.mk)
    |>.with (.required "id" text)
    |>.with (.optional "trace_id" text)
    |>.with (.optional "name" text)
    |>.with (.optional "model" text)
    |>.with (.optional "start_time" text)
    |>.with (.optional "end_time" text)
    |>.with (.required "input_tokens" count)
    |>.with (.required "output_tokens" count)
    |>.with (.required "total_tokens" count)
    |>.with (.optional "cost" real)
    |>.with (.optional "latency_ms" signed64)

def PagePosition.toJson (position : PagePosition) : Json :=
  .object
    [("page", .natural position.page),
      ("limit", .natural position.limit),
      ("total_items", .natural position.totalItems),
      ("total_pages", .natural position.totalPages)]

/-- The fields of a page position. -/
def PagePosition.shape : Shape PagePosition :=
  (Shape.of PagePosition.mk)
    |>.with (.required "page" (natural largest32))
    |>.with (.required "limit" (natural largest32))
    |>.with (.required "total_items" count)
    |>.with (.required "total_pages" count)

def RequestPage.toJson (page : RequestPage) : Json :=
  .object
    [("data", .array (page.data.map RequestListing.toJson)),
      ("meta", page.position.toJson)]

/-- The fields of a page. -/
def RequestPage.shape : Shape RequestPage :=
  (Shape.of RequestPage.mk)
    |>.with (.required "data" (list RequestListing.shape.decode))
    |>.with (.required "meta" PagePosition.shape.decode)

def ModelUsage.toJson (usage : ModelUsage) : Json :=
  .object
    [("model", .text usage.model),
      ("input_tokens", .natural usage.inputTokens),
      ("output_tokens", .natural usage.outputTokens),
      ("total_tokens", .natural usage.totalTokens),
      ("total_cost", .real usage.totalCost),
      ("request_count", .natural usage.requestCount)]

/-- The fields of the usage of a model. -/
def ModelUsage.shape : Shape ModelUsage :=
  (Shape.of ModelUsage.mk)
    |>.with (.required "model" text)
    |>.with (.required "input_tokens" count)
    |>.with (.required "output_tokens" count)
    |>.with (.required "total_tokens" count)
    |>.with (.required "total_cost" real)
    |>.with (.required "request_count" count)

def DailyCost.toJson (bucket : DailyCost) : Json :=
  .object
    [("date", .text bucket.date),
      ("total_cost", .real bucket.totalCost),
      ("request_count", .natural bucket.requestCount),
      ("usage", .array (bucket.usage.map ModelUsage.toJson))]

/-- The fields of a bucket. -/
def DailyCost.shape : Shape DailyCost :=
  (Shape.of DailyCost.mk)
    |>.with (.required "date" text)
    |>.with (.required "total_cost" real)
    |>.with (.required "request_count" count)
    |>.with (.required "usage" (list ModelUsage.shape.decode))

def CostSummary.toJson (summary : CostSummary) : Json :=
  .object [("daily", .array (summary.daily.map DailyCost.toJson))]

/-- The fields of a summary. -/
def CostSummary.shape : Shape CostSummary :=
  (Shape.of CostSummary.mk)
    |>.with (.required "daily" (list DailyCost.shape.decode))

end UsageLedger
