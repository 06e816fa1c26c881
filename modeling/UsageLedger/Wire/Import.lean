import UsageLedger.Json.Decode
import UsageLedger.Usage.Import

/-!
# Import runs on the wire

Each type has an encoding as JSON and a decoder; decoding an encoding gives
the value back.
-/

namespace UsageLedger

open UsageLedger.Decode

def ImportMode.toJson (mode : ImportMode) : Json :=
  .text mode.name

/-- Reads a mode. -/
def ImportMode.decoder : Decoder ImportMode :=
  choice ImportMode.named

def RunStatus.toJson (status : RunStatus) : Json :=
  .text status.name

/-- Reads a status. -/
def RunStatus.decoder : Decoder RunStatus :=
  choice RunStatus.named

def ImportRun.toJson (run : ImportRun) : Json :=
  .object
    [("id", .integer run.id),
      ("started_at", .text run.startedAt),
      ("finished_at", .optional .text run.finishedAt),
      ("mode", run.mode.toJson),
      ("from_timestamp", .optional .text run.fromTimestamp),
      ("to_timestamp", .text run.toTimestamp),
      ("status", run.status.toJson),
      ("error_message", .optional .text run.errorMessage)]

/-- The fields of a run. -/
def ImportRun.shape : Shape ImportRun :=
  (Shape.of ImportRun.mk)
    |>.with (.required "id" signed64)
    |>.with (.required "started_at" text)
    |>.with (.optional "finished_at" text)
    |>.with (.required "mode" ImportMode.decoder)
    |>.with (.optional "from_timestamp" text)
    |>.with (.required "to_timestamp" text)
    |>.with (.required "status" RunStatus.decoder)
    |>.with (.optional "error_message" text)

def ImportCounts.toJson (counts : ImportCounts) : Json :=
  .object
    [("metrics", .natural counts.metrics), ("requests", .natural counts.requests)]

/-- The fields of counts. -/
def ImportCounts.shape : Shape ImportCounts :=
  (Shape.of ImportCounts.mk)
    |>.with (.required "metrics" (natural largest64))
    |>.with (.required "requests" (natural largest64))

def ImportOverview.toJson (overview : ImportOverview) : Json :=
  .object
    [("last_run", .optional ImportRun.toJson overview.lastRun),
      ("last_status", .optional RunStatus.toJson overview.lastStatus),
      ("counts", overview.counts.toJson)]

/-- The fields of an overview. -/
def ImportOverview.shape : Shape ImportOverview :=
  (Shape.of ImportOverview.mk)
    |>.with (.optional "last_run" ImportRun.shape.decode)
    |>.with (.optional "last_status" RunStatus.decoder)
    |>.with (.required "counts" ImportCounts.shape.decode)

end UsageLedger
