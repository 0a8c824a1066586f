import ConnectorSync.Sync.ActivityError
import ConnectorSync.Timestamp

/-!
# Failures

Why an attempt did not succeed: where each failure came from, what kind it is, and what to say about
it outside and inside. A summary keeps the failures of an attempt in the order of their times.
-/

namespace ConnectorSync.Sync

abbrev JobId := Int

inductive Origin
  | source
  | destination
  | replication
  | platform
  | unknown
  deriving DecidableEq, Repr

namespace Origin

def all : List Origin := [source, destination, replication, platform, unknown]

def label : Origin → String
  | source => "SOURCE"
  | destination => "DESTINATION"
  | replication => "REPLICATION"
  | platform => "PLATFORM"
  | unknown => "UNKNOWN"

def name : Origin → String
  | source => "source"
  | destination => "destination"
  | replication => "replication"
  | platform => "platform"
  | unknown => "unknown"

end Origin

/-- What kind of failure it is. -/
inductive FailureKind
  | configError
  | systemError
  | transientError
  | manualCancellation
  deriving DecidableEq, Repr

namespace FailureKind

def all : List FailureKind := [configError, systemError, transientError, manualCancellation]

def label : FailureKind → String
  | configError => "CONFIG_ERROR"
  | systemError => "SYSTEM_ERROR"
  | transientError => "TRANSIENT_ERROR"
  | manualCancellation => "MANUAL_CANCELLATION"

def name : FailureKind → String
  | configError => "config_error"
  | systemError => "system_error"
  | transientError => "transient_error"
  | manualCancellation => "manual_cancellation"

end FailureKind

/-- One reason why an attempt did not succeed. -/
structure FailureReason where
  origin : Origin
  kind : FailureKind
  externalMessage : String
  internalMessage : Option String := none
  jobId : Option JobId := none
  attempt : Option Nat := none
  timestamp : Timestamp
  deriving DecidableEq

namespace FailureReason

def ofMessage (origin : Origin) (kind : FailureKind) (message : String) (now : Timestamp) :
    FailureReason where
  origin := origin
  kind := kind
  externalMessage := message
  internalMessage := some message
  timestamp := now

def forAttempt (r : FailureReason) (jobId : Option JobId) (attempt : Option Nat) : FailureReason :=
  { r with jobId, attempt }

/-- A failure of the platform, with the error that only insiders are told. -/
def platform (error : String) (jobId : Option JobId) (attempt : Option Nat) (now : Timestamp) :
    FailureReason where
  origin := .platform
  kind := .systemError
  externalMessage := "Something went wrong within the platform"
  internalMessage := some error
  jobId := jobId
  attempt := attempt
  timestamp := now

def manualCancellation (jobId : Option JobId) (attempt : Option Nat) (now : Timestamp) :
    FailureReason :=
  (ofMessage .platform .manualCancellation "The sync was cancelled." now).forAttempt jobId attempt

/-- A job or attempt found open when its connection starts afresh. -/
def staleState (jobId : JobId) (attempt : Option Nat) (now : Timestamp) : FailureReason where
  origin := .platform
  kind := .systemError
  externalMessage := "Setting attempt to FAILED because the workflow for this connection was " ++
    "restarted, and existing job state was cleaned."
  internalMessage := some "Workflow restarted with a non-terminal job or attempt"
  jobId := some jobId
  attempt := attempt
  timestamp := now

def message (r : FailureReason) : String :=
  r.origin.label ++ "x" ++ r.kind.label ++ ": " ++ r.externalMessage

end FailureReason

/-- The reasons why an attempt did not succeed. -/
structure FailureSummary where
  failures : List FailureReason := []
  partialSuccess : Option Bool := none
  deriving DecidableEq

namespace FailureSummary

/-- The reasons in the order of their times; those of the same time keep their order. -/
def ofReasons (failures : List FailureReason) (partialSuccess : Option Bool) : FailureSummary where
  failures := failures.mergeSort fun a b => a.timestamp.le b.timestamp
  partialSuccess := partialSuccess

def ofCancellation (jobId : Option JobId) (attempt : Option Nat) (failures : List FailureReason)
    (partialSuccess : Option Bool) (now : Timestamp) : FailureSummary :=
  let summary := ofReasons failures partialSuccess
  { summary with
    failures := summary.failures ++ [FailureReason.manualCancellation jobId attempt now] }

def primaryKind (s : FailureSummary) : Option FailureKind := s.failures.head?.map (·.kind)

def isCancellation (s : FailureSummary) : Bool :=
  s.failures.any (·.kind = .manualCancellation)

end FailureSummary

end ConnectorSync.Sync
