import ConnectorSync.Dialogue
import ConnectorSync.Sync.Config
import ConnectorSync.Sync.Job
import ConnectorSync.Sync.Waiter

/-!
# The manager of a connection

A connection's manager goes from generation to generation: it waits for the next run, creates a job
or goes on with the one left open, executes an attempt and reports how it ended. It is a dialogue
with its collaborators, with the control it shares with those who signal to it, and with the clock.
A call that cannot be done without is tried again a limited number of times; when it keeps failing,
the generation is given up and the connection starts afresh after a pause.
-/

namespace ConnectorSync.Sync

/-- A call to one of the collaborators. -/
inductive Call
  | timeUntilNextRun
  | maxAttempts
  | createJob (isReset : Bool)
  | createAttempt (job : JobId)
  | reportJobStart (job : JobId)
  | failAttempt (job : JobId) (attempt : Nat) (status : AttemptStatus) (summary : FailureSummary)
  | failJob (job : JobId) (reason : String)
  | jobSuccess (job : JobId) (attempt : Nat) (output : SyncOutput)
  | jobCancelled (job : JobId) (attempt : Nat) (summary : FailureSummary)
  | getJob (job : JobId)
  | nonTerminalJobs
  | isLastFailure (job : JobId)
  | hydrate (job : Option JobId)
  | persist (job : JobId) (budget : RetryBudget)
  | checkProgress (job : JobId) (attempt : Nat)
  | evaluateAutoDisable
  deriving DecidableEq

namespace Call

/-- What a call that does not fail answers. -/
abbrev Reply : Call → Type
  | timeUntilNextRun => Duration
  | maxAttempts => Nat
  | createJob _ => JobId
  | createAttempt _ => Nat
  | getJob _ => Job
  | nonTerminalJobs => List JobId
  | isLastFailure _ | checkProgress .. | evaluateAutoDisable => Bool
  | hydrate _ => Option RetryBudget
  | _ => Unit

def activity : Call → String
  | timeUntilNextRun => "time_until_next_run"
  | maxAttempts => "max_attempts"
  | createJob _ => "create_job"
  | createAttempt _ => "create_attempt"
  | reportJobStart _ => "report_job_start"
  | failAttempt .. => "fail_attempt"
  | failJob .. => "fail_job"
  | jobSuccess .. => "job_success"
  | jobCancelled .. => "job_cancelled"
  | getJob _ => "get_job"
  | nonTerminalJobs => "list_non_terminal_jobs"
  | isLastFailure _ => "is_last_job_or_attempt_failure"
  | hydrate _ => "hydrate"
  | persist .. => "persist"
  | checkProgress .. => "check_progress"
  | evaluateAutoDisable => "auto_disable"

end Call

/-- What the manager asks of its surroundings. -/
inductive Request
  | call (c : Call)
  | check (context : AttemptContext) (side : Side)
  | execute (context : AttemptContext)
  | enter (s : Section)
  | wait (span : Duration) (purpose : Wait)
  | pause (span : Duration)
  | time
  deriving DecidableEq

/-- What the surroundings answer: to a section, the control before and after it. -/
abbrev Request.Answer : Request → Type
  | call c => Except ActivityError c.Reply
  | check .. => Except ActivityError CheckOutcome
  | execute _ => Except ActivityError AttemptOutcome
  | enter _ => Control × Control
  | wait .. | pause _ => Unit
  | time => Timestamp

/-- A call that could not be done without and kept failing. -/
structure ActivityFailure where
  activity : String
  error : ActivityError
  deriving DecidableEq

def ActivityFailure.message (f : ActivityFailure) : String :=
  "Activity " ++ f.activity ++ " failed: " ++ f.error.message

abbrev Talk := Dialogue Request Request.Answer

/-- A part of a generation: it changes the input and may give up. -/
abbrev Generation := ExceptT ActivityFailure (StateT RunInput Talk)

inductive GenerationEnd
  | next
  | deleted
  deriving DecidableEq, Repr

structure Manager where
  connectionId : Uuid
  config : Config := {}

namespace Manager

/-! ### Requests -/

def tell (r : Request) : Talk r.Answer := Dialogue.request r

def ask (r : Request) : Generation r.Answer := liftM (tell r)

/-- A change of the shared control; answers the control before and after. -/
def enter (s : Section) : Generation (Control × Control) := ask (.enter s)

/-- A call tried again, after growing pauses, as often as is left. -/
def retrying (m : Manager) (c : Call) : (left failed : Nat) → Generation c.Reply
  | left, failed => do
    match ← ask (.call c) with
    | .ok reply => return reply
    | .error error =>
      match left with
      | 0 => throw ⟨c.activity, error⟩
      | left + 1 =>
        ask (.pause (m.config.retryDelay (failed + 1)))
        m.retrying c left (failed + 1)

/-- A call that cannot be done without. -/
def mandatory (m : Manager) (c : Call) : Generation c.Reply :=
  m.retrying c (m.config.activityMaxAttempts - 1) 0

def optional (c : Call) (otherwise : c.Reply) : Generation c.Reply := do
  match ← ask (.call c) with
  | .ok reply => return reply
  | .error _ => return otherwise

/-! ### Reports -/

def staleJobReason : String :=
  "Failing job because the workflow for this connection was restarted and existing job state " ++
    "was cleaned"

def tooManyRetries (connectionId : Uuid) : String :=
  "Job failed after too many retries for connection " ++ connectionId.render

/-- A job left open from before is failed, with its running attempts. -/
def failStaleJob (m : Manager) (job : JobId) : Generation Unit := do
  let record : Job ← m.mandatory (.getJob job)
  record.runningAttempts.forM fun attempt => do
    let now ← ask .time
    let reason := FailureReason.staleState job (some attempt) now
    m.mandatory (.failAttempt job attempt .failed (.ofReasons [reason] none))
  m.mandatory (.failJob job staleJobReason)

def cleanJobs (m : Manager) : Generation Unit := do
  let stale : List JobId ← m.mandatory .nonTerminalJobs
  stale.forM m.failStaleJob

/-- The open job is cancelled. If that was for the sake of a reset, the next generation is one. -/
def reportCancelled (m : Manager) (failures : List FailureReason) (partialSuccess : Option Bool) :
    Generation Unit := do
  let input ← get
  match input.jobId with
  | none => return
  | some job =>
    let now ← ask .time
    m.mandatory (.jobCancelled job input.attempt
      (.ofCancellation (some job) (some input.attempt) failures partialSuccess now))
    let (control, _) ← enter .look
    let forReset := control.flags.cancelledForReset
    set { RunInput.fresh m.connectionId with
      resetConnection := forReset
      skipScheduling := forReset }

/-- Whether a failed attempt is within its limits: those of the budget, or a number of attempts. -/
def isWithinLimits (m : Manager) (budget : Option RetryBudget) (attempt : Nat) :
    Generation Bool := do
  match budget with
  | some budget => return budget.shouldRetry
  | none =>
    let most : Nat ← optional .maxAttempts m.config.defaultMaxAttempts
    return attempt < most

/-- The failure of the open attempt is recorded: its job is left open for another one, or failed. -/
def recordFailure (m : Manager) (input : RunInput) (job : JobId) (summary : FailureSummary)
    (withinLimits : Bool) : Generation Unit := do
  let isConfigError := summary.primaryKind = some .configError
  let _ ← enter .recordFailure
  if withinLimits && !isConfigError then
    set { input with fromFailure := true }
  else
    let reason :=
      if isConfigError then
        (summary.failures.head?.bind (·.internalMessage)).getD "Unknown failure reason"
      else tooManyRetries m.connectionId
    m.mandatory (.failJob job reason)
    let _ : Bool ← m.mandatory .evaluateAutoDisable
    set (RunInput.fresh m.connectionId)

def reportFailure (m : Manager) (budget : Option RetryBudget) (failures : List FailureReason)
    (partialSuccess : Bool) : Generation Unit := do
  let input ← get
  match input.jobId with
  | none => return
  | some job =>
    let madeProgress : Bool ← optional (.checkProgress job input.attempt) false
    let status : AttemptStatus := if madeProgress then .incomplete else .failed
    let summary := FailureSummary.ofReasons failures (some partialSuccess)
    m.mandatory (.failAttempt job input.attempt status summary)
    let budget := budget.map (·.recordFailure madeProgress)
    if let some budget := budget then
      optional (.persist job budget) ()
    let withinLimits ← m.isWithinLimits budget input.attempt
    m.recordFailure input job summary withinLimits

def reportSuccess (m : Manager) (budget : Option RetryBudget) (context : AttemptContext)
    (output : SyncOutput) : Generation Unit := do
  m.mandatory (.jobSuccess context.jobId context.attempt output)
  if let some budget := budget then
    optional (.persist context.jobId budget.recordSuccess) ()
  let _ ← enter .recordSuccess
  set (RunInput.fresh m.connectionId)

/-! ### Attempts -/

/-- An error of the execution, as the outcome of the attempt. -/
def platformFailure (error : ActivityError) (context : AttemptContext) :
    Generation AttemptOutcome := do
  let now ← ask .time
  return .failed
    [.platform error.message (some context.jobId) (some context.attempt) now] false

def checkedSides (isReset : Bool) : List Side :=
  if isReset then [.destination] else [.source, .destination]

/-- The sides are checked in turn up to the first that does not succeed; answers the outcome of the
attempt if that is settled by then. -/
def runChecks (context : AttemptContext) : List Side → Generation (Option AttemptOutcome)
  | [] => return none
  | side :: rest => do
    match ← ask (.check context side) with
    | .ok .succeeded => runChecks context rest
    | .ok (.failed reason) => return some (.failed [reason] false)
    | .ok .cancelled => return some .cancelled
    | .error error => return some (← platformFailure error context)

/-- The attempt is executed, after its connectors have been checked if the last one failed. -/
def runAttempt (m : Manager) (context : AttemptContext) : Generation AttemptOutcome := do
  let (control, _) ← enter .look
  if control.attempt = some true then return .cancelled
  let checkFirst : Bool ← m.mandatory (.isLastFailure context.jobId)
  let settled ← if checkFirst then runChecks context (checkedSides context.isReset) else pure none
  match settled with
  | some outcome => return outcome
  | none =>
    match ← ask (.execute context) with
    | .ok outcome => return outcome
    | .error error => platformFailure error context

/-- How a part of a generation went, without giving up the whole. -/
def observing {α : Type} (part : Generation α) : Generation (Except ActivityFailure α) :=
  ExceptT.lift (ExceptT.run part)

/-! ### Generations -/

/-- The open job, or a new one, and its new attempt. -/
def openAttempt (m : Manager) (isReset : Bool) : Generation AttemptContext := do
  let input ← get
  let job : JobId ← match input.jobId with
    | some job => pure job
    | none => m.mandatory (.createJob isReset)
  set { input with jobId := some job }
  let attempt : Nat ← m.mandatory (.createAttempt job)
  set { input with jobId := some job, attempt }
  m.mandatory (.reportJobStart job)
  return ⟨m.connectionId, job, attempt, isReset⟩

def attemptJob (m : Manager) (resetRequested : Bool) : Generation Unit := do
  let input ← get
  let budget : Option RetryBudget ← optional (.hydrate input.jobId) none
  let context ← m.openAttempt (input.resetConnection || resetRequested)
  let _ ← enter .registerAttempt
  let outcome ← observing (m.runAttempt context)
  let (_, control) ← enter .releaseAttempt
  let flags := control.flags
  let isCancelled := flags.cancelled || flags.cancelledForReset || flags.deleted
  match ← liftExcept outcome with
  | .succeeded output => m.reportSuccess budget context output
  | .cancelled => m.reportCancelled [] none
  | .failed failures partialSuccess =>
    if isCancelled then m.reportCancelled failures (some partialSuccess)
    else m.reportFailure budget failures partialSuccess
where
  /-- A result observed before, or the failure. -/
  liftExcept {α : Type} : Except ActivityFailure α → Generation α
    | .ok a => return a
    | .error failure => throw failure

/-- How long to wait for the next run: after a failure as long as the budget says, but no longer
than until the next run that is scheduled. -/
def waitingTime (input : RunInput) (budget : Option RetryBudget) (untilNext : Duration) :
    Duration :=
  if input.fromFailure then (budget.map (·.delayWithin untilNext)).getD .zero else untilNext

def generation (m : Manager) : Generation GenerationEnd := do
  let input ← get
  let _ ← enter (.beginGeneration input.jobId.isSome input.skipScheduling)
  set { input with skipScheduling := false }
  if input.jobId.isNone then m.cleanJobs
  let budget : Option RetryBudget ← optional (.hydrate input.jobId) none
  let untilNext : Duration ← m.mandatory .timeUntilNextRun
  ask (.wait (waitingTime input budget untilNext) .schedule)
  let (_, control) ← enter .endWait
  let flags := control.flags
  if flags.deleted then
    m.reportCancelled [] none
    return .deleted
  else if flags.updated then return .next
  else if flags.cancelled then
    m.reportCancelled [] none
    return .next
  else
    m.attemptJob flags.resetRequested
    return .next

/-- A new start after a generation that was given up: after a pause, the open job is failed as far
as that can be done. -/
def recover (m : Manager) (failure : ActivityFailure) (input : RunInput) : Talk RunInput := do
  tell (.wait m.config.workflowDelay .recovery)
  if let some job := input.jobId then
    let now : Timestamp ← tell .time
    let reason := FailureReason.platform failure.message (some job) (some input.attempt) now
    let summary := FailureSummary.ofReasons [reason] none
    let _ ← tell (.call (.failAttempt job input.attempt .failed summary))
    let _ ← tell (.call (.failJob job failure.message))
  return RunInput.fresh m.connectionId

/-- The generation is over; answers what it leaves for the next one, which there is unless the
connection is deleted. -/
def finish (input : RunInput) : Talk (Option RunInput) := do
  let (before, _) ← tell (.enter .endGeneration)
  if before.flags.deleted then return none
  else return some { input with
    skipScheduling := before.flags.skipSchedulingNext || input.skipScheduling }

def settle (m : Manager) : Except ActivityFailure GenerationEnd → RunInput →
    Talk (Option RunInput)
  | .ok .deleted, _ => return none
  | .ok .next, input => finish input
  | .error failure, input => do finish (← m.recover failure input)

/-- One generation and what it leaves for the next one; nothing when the connection is deleted. -/
def turn (m : Manager) (input : RunInput) : Talk (Option RunInput) := do
  let (result, input) ← (m.generation.run).run input
  m.settle result input

end Manager

end ConnectorSync.Sync
