import ConnectorSync.Sync.Failure
import ConnectorSync.Uuid

/-!
# Jobs and attempts

A job is one sync or reset of a connection; it is attempted until it succeeds, is cancelled or is
given up.
-/

namespace ConnectorSync.Sync

inductive JobStatus
  | pending
  | running
  | incomplete
  | failed
  | succeeded
  | cancelled
  deriving DecidableEq, Repr

namespace JobStatus

def all : List JobStatus := [pending, running, incomplete, failed, succeeded, cancelled]

def name : JobStatus → String
  | pending => "pending"
  | running => "running"
  | incomplete => "incomplete"
  | failed => "failed"
  | succeeded => "succeeded"
  | cancelled => "cancelled"

def isTerminal : JobStatus → Bool
  | failed | succeeded | cancelled => true
  | _ => false

end JobStatus

inductive AttemptStatus
  | running
  | failed
  | incomplete
  | succeeded
  | cancelled
  deriving DecidableEq, Repr

namespace AttemptStatus

def all : List AttemptStatus := [running, failed, incomplete, succeeded, cancelled]

def name : AttemptStatus → String
  | running => "running"
  | failed => "failed"
  | incomplete => "incomplete"
  | succeeded => "succeeded"
  | cancelled => "cancelled"

/-- The status of a job whose attempt has the status. A failed attempt leaves its job running. -/
def jobStatus : AttemptStatus → JobStatus
  | running => .running
  | failed => .running
  | incomplete => .incomplete
  | succeeded => .succeeded
  | cancelled => .cancelled

end AttemptStatus

structure Attempt where
  number : Nat
  status : AttemptStatus
  failureSummary : Option FailureSummary := none
  deriving DecidableEq

/-- A sync or reset of a connection. -/
structure Job where
  id : JobId
  connectionId : Uuid
  isReset : Bool
  status : JobStatus
  attempts : List Attempt
  createdAt : Timestamp
  deriving DecidableEq

def Job.runningAttempts (j : Job) : List Nat :=
  (j.attempts.filter (·.status = .running)).map (·.number)

/-- What a successful sync leaves behind. -/
structure SyncOutput where
  bytesSynced : UInt64
  state : Option String := none
  deriving DecidableEq

/-- One of the two connectors of a connection. -/
inductive Side
  | source
  | destination
  deriving DecidableEq, Repr

namespace Side

def all : List Side := [source, destination]

def name : Side → String
  | source => "source"
  | destination => "destination"

def origin : Side → Origin
  | source => .source
  | destination => .destination

end Side

/-- Which attempt of which job is executed. -/
structure AttemptContext where
  connectionId : Uuid
  jobId : JobId
  attempt : Nat
  isReset : Bool
  deriving DecidableEq

/-- How the check of a connector ended. -/
inductive CheckOutcome
  | succeeded
  | failed (reason : FailureReason)
  | cancelled
  deriving DecidableEq

/-- How the execution of an attempt ended. -/
inductive AttemptOutcome
  | succeeded (output : SyncOutput)
  | failed (failures : List FailureReason) (partialSuccess : Bool)
  | cancelled
  deriving DecidableEq

end ConnectorSync.Sync
