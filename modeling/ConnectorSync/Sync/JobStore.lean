import ConnectorSync.Sync.Job
import ConnectorSync.Sync.Retry

/-!
# Job stores

The jobs of all connections with their attempts, kept in memory in the order of their numbers, the
outputs of successful attempts and the reasons of failed jobs. Beside them the retry budgets of jobs
and the rule that disables a connection whose jobs keep failing.
-/

namespace ConnectorSync.Sync

open Text

structure JobStore where
  /-- The jobs in the order of their numbers, which are distinct. -/
  jobs : List Job := []
  outputs : List ((JobId × Nat) × SyncOutput) := []
  failureReasons : List (JobId × String) := []
  lastId : JobId := 0

namespace JobStore

/-- The jobs with one more, which replaces one of the same number. -/
def place (job : Job) : List Job → List Job
  | [] => [job]
  | j :: rest =>
    if job.id < j.id then job :: j :: rest
    else if job.id = j.id then job :: rest
    else j :: place job rest

def insert (s : JobStore) (job : Job) : JobStore :=
  { s with jobs := place job s.jobs, lastId := max s.lastId job.id }

def find? (s : JobStore) (id : JobId) : Option Job := s.jobs.find? (·.id = id)

def jobsFor (s : JobStore) (connectionId : Uuid) : List Job :=
  s.jobs.filter (·.connectionId = connectionId)

def output (s : JobStore) (id : JobId) (attempt : Nat) : Option SyncOutput :=
  (s.outputs.find? (·.1 = (id, attempt))).map (·.2)

def failureReason (s : JobStore) (id : JobId) : Option String :=
  (s.failureReasons.find? (·.1 = id)).map (·.2)

/-- The error for a job that is not there. -/
def missingJob (id : JobId) : ActivityError := .notFound ("job " ++ decimalInt id)

/-- The error for an attempt that is not there. -/
def missingAttempt (id : JobId) (attempt : Nat) : ActivityError :=
  .notFound ("attempt " ++ decimal attempt ++ " of job " ++ decimalInt id)

def get (s : JobStore) (id : JobId) : Except ActivityError Job :=
  match s.find? id with
  | some job => .ok job
  | none => .error (missingJob id)

def update (s : JobStore) (id : JobId) (f : Job → Job) : JobStore :=
  { s with jobs := s.jobs.map fun j => if j.id = id then f j else j }

def setAttempt (number : Nat) (status : AttemptStatus) (summary : Option FailureSummary) :
    List Attempt → List Attempt
  | [] => []
  | a :: rest =>
    if a.number = number then { a with status, failureSummary := summary } :: rest
    else a :: setAttempt number status summary rest

/-- An attempt's new status and summary; its job's status follows. -/
def updateAttempt (s : JobStore) (id : JobId) (number : Nat) (status : AttemptStatus)
    (summary : Option FailureSummary) : Except ActivityError JobStore := do
  let job ← s.get id
  if job.attempts.any (·.number = number) then
    return s.update id fun j =>
      { j with
        attempts := setAttempt number status summary j.attempts
        status := status.jobStatus }
  else throw (missingAttempt id number)

def setStatus (s : JobStore) (id : JobId) (status : JobStatus) :
    Except ActivityError JobStore := do
  let _ ← s.get id
  return s.update id fun j => { j with status }

/-- A new job, pending and without attempts. -/
def createJob (s : JobStore) (connectionId : Uuid) (isReset : Bool) (now : Timestamp) :
    JobId × JobStore :=
  let id := s.lastId + 1
  (id, s.insert ⟨id, connectionId, isReset, .pending, [], now⟩)

/-- A new attempt of a job, running and without a summary. -/
def createAttempt (s : JobStore) (id : JobId) : Except ActivityError (Nat × JobStore) := do
  let job ← s.get id
  let number := job.attempts.length + 1
  return (number, s.update id fun j => { j with attempts := j.attempts ++ [⟨number, .running, none⟩] })

def reportJobStart (s : JobStore) (id : JobId) : Except ActivityError JobStore :=
  s.setStatus id .running

/-- The attempt has ended without success. -/
def failAttempt (s : JobStore) (id : JobId) (number : Nat) (status : AttemptStatus)
    (summary : FailureSummary) : Except ActivityError JobStore :=
  s.updateAttempt id number status (some summary)

def failJob (s : JobStore) (id : JobId) (reason : String) : Except ActivityError JobStore := do
  let s ← s.setStatus id .failed
  return { s with failureReasons := (id, reason) :: s.failureReasons.filter (·.1 ≠ id) }

def jobSuccess (s : JobStore) (id : JobId) (number : Nat) (output : SyncOutput) :
    Except ActivityError JobStore := do
  let s ← s.updateAttempt id number .succeeded none
  return { s with outputs := ((id, number), output) :: s.outputs.filter (·.1 ≠ (id, number)) }

/-- The job is cancelled, with its attempt if that is running. -/
def jobCancelled (s : JobStore) (id : JobId) (number : Nat) (summary : FailureSummary) :
    Except ActivityError JobStore :=
  let isRunning := (s.find? id).any fun j =>
    j.attempts.any fun a => a.number = number && a.status = .running
  if isRunning then s.updateAttempt id number .cancelled (some summary)
  else s.setStatus id .cancelled

/-- The connection's jobs that are not over. -/
def nonTerminalJobs (s : JobStore) (connectionId : Uuid) : List JobId :=
  ((s.jobsFor connectionId).filter (! ·.status.isTerminal)).map (·.id)

/-- Whether the last attempt of the job that ended failed, or the last job before it that is over. -/
def isLastFailure (s : JobStore) (connectionId : Uuid) (id : JobId) : Bool :=
  let jobs := s.jobsFor connectionId
  let attemptFailed := (jobs.find? (·.id = id)).any fun j =>
    (j.attempts.reverse.find? (·.status ≠ .running)).any fun a =>
      a.status = .failed || a.status = .incomplete
  attemptFailed ||
    (jobs.filter fun j => j.id < id && j.status.isTerminal).getLast?.any (·.status = .failed)

/-- How many of the connection's last finished jobs failed in a row. -/
def failuresInARow (s : JobStore) (connectionId : Uuid) : Nat :=
  (((s.jobsFor connectionId).reverse.filter (·.status.isTerminal)).takeWhile
    (·.status = .failed)).length

end JobStore

/-- The retry budgets of jobs. Without a template no job has one. -/
structure RetryStore where
  template : Option RetryBudget := none
  budgets : List (JobId × RetryBudget) := []

namespace RetryStore

def find? (s : RetryStore) (id : JobId) : Option RetryBudget :=
  (s.budgets.find? (·.1 = id)).map (·.2)

/-- The budget to go on with: the one kept for the job, or a fresh one. -/
def hydrate (s : RetryStore) (id : Option JobId) : Option RetryBudget :=
  s.template.map fun t => (id.bind s.find?).getD (.fresh t.backoff t.limits)

def persist (s : RetryStore) (id : JobId) (budget : RetryBudget) : RetryStore :=
  { s with budgets := (id, budget) :: s.budgets.filter (·.1 ≠ id) }

end RetryStore

/-- The connections disabled because their jobs kept failing. -/
structure AutoDisable where
  threshold : Nat
  disabled : List Uuid := []

namespace AutoDisable

/-- No connection disabled; the threshold is at least one. -/
def withThreshold (threshold : Nat) : AutoDisable := ⟨max threshold 1, []⟩

/-- Whether the connection's failed jobs reach the threshold, in which case it is disabled. -/
def evaluate (a : AutoDisable) (jobs : JobStore) (connectionId : Uuid) : Bool × AutoDisable :=
  if jobs.failuresInARow connectionId < a.threshold then (false, a)
  else if connectionId ∈ a.disabled then (true, a)
  else (true, { a with disabled := a.disabled ++ [connectionId] })

end AutoDisable

end ConnectorSync.Sync
