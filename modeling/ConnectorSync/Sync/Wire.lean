import ConnectorSync.Json.Writer
import ConnectorSync.Launch.Wire
import ConnectorSync.Sync.Connection
import ConnectorSync.Sync.Flags
import ConnectorSync.Sync.Retry

/-!
# Written form of the sync records

Jobs, failures, retry budgets, flags and connections as JSON. Reading a written record gives the
record back.
-/

namespace ConnectorSync.Json.Decode

def named {α : Type} (all : List α) (name : α → String) : Decoder α :=
  choice fun s => all.find? (name · = s)

end ConnectorSync.Json.Decode

namespace ConnectorSync

open Json

def Json.Fields.optionalText (name : String) : Fields (Option String) :=
  .defaulted name (Decode.optional Decode.text) none

/-- A span of time as seconds and nanoseconds. -/
def Duration.encode (d : Duration) : Value :=
  .object [("secs", .nat d.seconds), ("nanos", .nat d.subsecond)]

namespace Sync

namespace Origin

def encode (o : Origin) : Value := .string o.name

def decoder : Decoder Origin := Decode.named all name

end Origin

namespace FailureKind

def encode (k : FailureKind) : Value := .string k.name

def decoder : Decoder FailureKind := Decode.named all name

end FailureKind

namespace FailureReason

/-- The reason, without what is absent. -/
def encode (r : FailureReason) : Value :=
  .present [("origin", some r.origin.encode), ("failure_type", some r.kind.encode),
    ("external_message", some (.string r.externalMessage)),
    ("internal_message", r.internalMessage.map .string), ("job_id", r.jobId.map .int),
    ("attempt_number", r.attempt.map .nat), ("timestamp", some (.string r.timestamp.render))]

/-- A reason: origin, kind, outward message and time must be there. -/
def decoder : Decoder FailureReason :=
  (FailureReason.mk <$> Fields.required "origin" Origin.decoder <*>
    Fields.required "failure_type" FailureKind.decoder <*>
    Fields.required "external_message" Decode.text <*> Fields.optionalText "internal_message" <*>
    Fields.defaulted "job_id" (Decode.optional Decode.int64) none <*>
    Fields.defaulted "attempt_number" (Decode.optional Decode.nat32) none <*>
    Fields.required "timestamp" Decode.timestamp
    : Fields FailureReason).record "a failure reason"

end FailureReason

namespace FailureSummary

/-- The summary, without what is absent. -/
def encode (s : FailureSummary) : Value :=
  .present [("failures", some (.ofList FailureReason.encode s.failures)),
    ("partial_success", s.partialSuccess.map .bool)]

/-- A summary: the failures must be there. -/
def decoder : Decoder FailureSummary :=
  (FailureSummary.mk <$> Fields.required "failures" (Decode.listOf FailureReason.decoder) <*>
    Fields.defaulted "partial_success" (Decode.optional Decode.bool) none
    : Fields FailureSummary).record "a failure summary"

end FailureSummary

namespace JobStatus

def encode (s : JobStatus) : Value := .string s.name

def decoder : Decoder JobStatus := Decode.named all name

end JobStatus

namespace AttemptStatus

def encode (s : AttemptStatus) : Value := .string s.name

def decoder : Decoder AttemptStatus := Decode.named all name

end AttemptStatus

namespace Attempt

/-- The attempt, without a summary that is absent. -/
def encode (a : Attempt) : Value :=
  .present [("attempt_number", some (.nat a.number)), ("status", some a.status.encode),
    ("failure_summary", a.failureSummary.map FailureSummary.encode)]

/-- An attempt: number and status must be there. -/
def decoder : Decoder Attempt :=
  (Attempt.mk <$> Fields.required "attempt_number" Decode.nat32 <*>
    Fields.required "status" AttemptStatus.decoder <*>
    Fields.defaulted "failure_summary" (Decode.optional FailureSummary.decoder) none
    : Fields Attempt).record "an attempt"

end Attempt

namespace Job

def encode (j : Job) : Value :=
  .object [("job_id", .int j.id), ("connection_id", .string j.connectionId.render),
    ("is_reset", .bool j.isReset), ("status", j.status.encode),
    ("attempts", .ofList Attempt.encode j.attempts), ("created_at", .string j.createdAt.render)]

/-- A job: every part must be there. -/
def decoder : Decoder Job :=
  (Job.mk <$> Fields.required "job_id" Decode.int64 <*>
    Fields.required "connection_id" Decode.uuid <*> Fields.required "is_reset" Decode.bool <*>
    Fields.required "status" JobStatus.decoder <*>
    Fields.required "attempts" (Decode.listOf Attempt.decoder) <*>
    Fields.required "created_at" Decode.timestamp
    : Fields Job).record "a job"

end Job

namespace SyncOutput

/-- The output, without a state that is absent. -/
def encode (o : SyncOutput) : Value :=
  .present [("bytes_synced", some (.nat o.bytesSynced.toNat)), ("state", o.state.map .string)]

/-- An output: the number of bytes must be there. -/
def decoder : Decoder SyncOutput :=
  (SyncOutput.mk <$> Fields.required "bytes_synced" Decode.word64 <*> Fields.optionalText "state"
    : Fields SyncOutput).record "a sync output"

end SyncOutput

namespace Side

def encode (s : Side) : Value := .string s.name

def decoder : Decoder Side := Decode.named all name

end Side

namespace Backoff

def encode (b : Backoff) : Value :=
  .object [("min_interval", b.minInterval.encode), ("max_interval", b.maxInterval.encode),
    ("base", .nat b.base.toNat)]

/-- A backoff: every part must be there. -/
def decoder : Decoder Backoff :=
  (Backoff.mk <$> Fields.required "min_interval" Decode.duration <*>
    Fields.required "max_interval" Decode.duration <*> Fields.required "base" Decode.word32
    : Fields Backoff).record "a backoff"

end Backoff

namespace RetryLimits

def encode (l : RetryLimits) : Value :=
  .object [("successive_complete_failures", .nat l.successiveComplete.toNat),
    ("total_complete_failures", .nat l.totalComplete.toNat),
    ("successive_partial_failures", .nat l.successivePartial.toNat),
    ("total_partial_failures", .nat l.totalPartial.toNat)]

/-- Limits: every one must be there. -/
def decoder : Decoder RetryLimits :=
  (RetryLimits.mk <$> Fields.required "successive_complete_failures" Decode.word32 <*>
    Fields.required "total_complete_failures" Decode.word32 <*>
    Fields.required "successive_partial_failures" Decode.word32 <*>
    Fields.required "total_partial_failures" Decode.word32
    : Fields RetryLimits).record "retry limits"

end RetryLimits

namespace RetryBudget

def encode (b : RetryBudget) : Value :=
  .object [("backoff_policy", .orNull (b.backoff.map Backoff.encode)), ("limits", b.limits.encode),
    ("successive_complete_failures", .nat b.successiveComplete.toNat),
    ("total_complete_failures", .nat b.totalComplete.toNat),
    ("successive_partial_failures", .nat b.successivePartial.toNat),
    ("total_partial_failures", .nat b.totalPartial.toNat)]

/-- A budget: every part has a default. -/
def decoder : Decoder RetryBudget :=
  let count (name : String) := Fields.defaulted name Decode.word32 0
  (RetryBudget.mk <$> Fields.defaulted "backoff_policy" (Decode.optional Backoff.decoder) none <*>
    Fields.defaulted "limits" RetryLimits.decoder {} <*> count "successive_complete_failures" <*>
    count "total_complete_failures" <*> count "successive_partial_failures" <*>
    count "total_partial_failures"
    : Fields RetryBudget).record "a retry budget"

end RetryBudget

namespace Flags

def encode (f : Flags) : Value :=
  .object ((f.named.map fun (name, up) => (name, .bool up)) ++
    [("generation", .nat f.generation.toNat)])

/-- Flags: every one must be there. -/
def decoder : Decoder Flags :=
  let flag (name : String) := Fields.required name Decode.bool
  (Flags.mk <$> flag "running" <*> flag "done_waiting" <*> flag "cancelled" <*>
    flag "cancelled_for_reset" <*> flag "deleted" <*> flag "updated" <*> flag "skip_scheduling" <*>
    flag "skip_scheduling_next_workflow" <*> flag "reset_requested" <*> flag "failed" <*>
    flag "success" <*> Fields.required "generation" Decode.word64
    : Fields Flags).record "flags"

end Flags

namespace RunInput

def encode (r : RunInput) : Value :=
  .object [("connection_id", .string r.connectionId.render), ("job_id", .orNull (r.jobId.map .int)),
    ("attempt_number", .nat r.attempt), ("from_failure", .bool r.fromFailure),
    ("skip_scheduling", .bool r.skipScheduling), ("reset_connection", .bool r.resetConnection)]

/-- An input: every part but the job must be there. -/
def decoder : Decoder RunInput :=
  (RunInput.mk <$> Fields.required "connection_id" Decode.uuid <*>
    Fields.nullable "job_id" Decode.int64 <*> Fields.required "attempt_number" Decode.nat32 <*>
    Fields.required "from_failure" Decode.bool <*> Fields.required "skip_scheduling" Decode.bool <*>
    Fields.required "reset_connection" Decode.bool
    : Fields RunInput).record "the input of a run"

end RunInput

namespace Connector

def encode (c : Connector) : Value :=
  .object [("image", .string c.image), ("config", c.config), ("resources", c.resources.encode)]

/-- A connector: image and configuration must be there. -/
def decoder : Decoder Connector :=
  (Connector.mk <$> Fields.required "image" Decode.text <*>
    Fields.required "config" Draft.value <*>
    Fields.defaulted "resources" Launch.Resources.decoder {}
    : Fields Connector).record "a connector"

end Connector

namespace Connection

def encode (c : Connection) : Value :=
  .object [("connection_id", .string c.id.render),
    ("workspace_id", .orNull (c.workspaceId.map fun id => .string id.render)),
    ("source", c.source.encode), ("destination", c.destination.encode), ("catalog", c.catalog),
    ("state", .orNull c.state)]

/-- A connection: its number and both connectors must be there. -/
def decoder : Decoder Connection :=
  (Connection.mk <$> Fields.required "connection_id" Decode.uuid <*>
    Fields.defaulted "workspace_id" (Decode.optional Decode.uuid) none <*>
    Fields.required "source" Connector.decoder <*>
    Fields.required "destination" Connector.decoder <*>
    Fields.defaulted "catalog" Draft.value .null <*>
    Fields.defaulted "state" (Decode.optional Draft.value) none
    : Fields Connection).record "a connection"

end Connection

end Sync

end ConnectorSync
