import ConnectorSync.Sync.Manager

/-!
# Stations of a manager

A generation as an automaton: every request of a manager is made at a station, which keeps what the
manager knows by then, and the answer leads on to the next one.
-/

namespace ConnectorSync.Sync

/-- A call that is tried again when it fails, with what the manager knows when it makes it. -/
inductive Task
  | listStale (input : RunInput)
  | getStale (input : RunInput) (job : JobId) (jobs : List JobId)
  | failStaleAttempt (input : RunInput) (job : JobId) (attempt : Nat) (attempts : List Nat)
    (jobs : List JobId) (now : Timestamp)
  | failStaleJob (input : RunInput) (job : JobId) (jobs : List JobId)
  | untilNextRun (input : RunInput) (budget : Option RetryBudget)
  | createJob (input : RunInput) (budget : Option RetryBudget) (isReset : Bool)
  | createAttempt (input : RunInput) (budget : Option RetryBudget) (job : JobId) (isReset : Bool)
  | startJob (input : RunInput) (budget : Option RetryBudget) (context : AttemptContext)
  | lastFailure (input : RunInput) (budget : Option RetryBudget) (context : AttemptContext)
  | succeed (input : RunInput) (budget : Option RetryBudget) (context : AttemptContext)
    (output : SyncOutput)
  | cancelJob (input : RunInput) (job : JobId) (summary : FailureSummary) (last : Bool)
  | failAttempt (input : RunInput) (budget : Option RetryBudget) (job : JobId)
    (madeProgress : Bool) (summary : FailureSummary)
  | failJob (input : RunInput) (job : JobId) (reason : String)
  | autoDisable (input : RunInput)

namespace Task

def call : Task → Call
  | listStale _ => .nonTerminalJobs
  | getStale _ job _ => .getJob job
  | failStaleAttempt _ job attempt _ _ now =>
    .failAttempt job attempt .failed (.ofReasons [.staleState job (some attempt) now] none)
  | failStaleJob _ job _ => .failJob job Manager.staleJobReason
  | untilNextRun .. => .timeUntilNextRun
  | createJob _ _ isReset => .createJob isReset
  | createAttempt _ _ job _ => .createAttempt job
  | startJob _ _ context => .reportJobStart context.jobId
  | lastFailure _ _ context => .isLastFailure context.jobId
  | succeed _ _ context output => .jobSuccess context.jobId context.attempt output
  | cancelJob input job summary _ => .jobCancelled job input.attempt summary
  | failAttempt input _ job madeProgress summary =>
    .failAttempt job input.attempt (if madeProgress then .incomplete else .failed) summary
  | failJob _ job reason => .failJob job reason
  | autoDisable _ => .evaluateAutoDisable

def input : Task → RunInput
  | listStale input | getStale input .. | failStaleAttempt input .. | failStaleJob input ..
  | untilNextRun input _ | createJob input .. | createAttempt input .. | startJob input ..
  | lastFailure input .. | succeed input .. | cancelJob input .. | failAttempt input ..
  | failJob input .. | autoDisable input => input

end Task

/-- Where a manager stands within a generation: what it asks next and what it knows by then. -/
inductive Station
  | beginning (input : RunInput)
  /-- A call that can be tried again as often as is left, and has failed so often before. -/
  | calling (task : Task) (left failed : Nat)
  | pausing (task : Task) (left failed : Nat)
  | timingStale (input : RunInput) (job : JobId) (attempt : Nat) (attempts : List Nat)
    (jobs : List JobId)
  | hydrating (input : RunInput)
  | waiting (input : RunInput) (span : Duration)
  | endingWait (input : RunInput)
  | hydratingAttempt (input : RunInput) (isReset : Bool)
  | registering (input : RunInput) (budget : Option RetryBudget) (context : AttemptContext)
  | looking (input : RunInput) (budget : Option RetryBudget) (context : AttemptContext)
  | checking (input : RunInput) (budget : Option RetryBudget) (context : AttemptContext)
    (side : Side) (sides : List Side)
  | executing (input : RunInput) (budget : Option RetryBudget) (context : AttemptContext)
  | timingError (input : RunInput) (budget : Option RetryBudget) (context : AttemptContext)
    (error : ActivityError)
  | releasing (input : RunInput) (budget : Option RetryBudget) (context : AttemptContext)
    (outcome : Except ActivityFailure AttemptOutcome)
  | persistingSuccess (context : AttemptContext) (budget : RetryBudget)
  | recordingSuccess
  | timingCancel (input : RunInput) (job : JobId) (failures : List FailureReason)
    (partialSuccess : Option Bool) (last : Bool)
  | lookingBack (last : Bool)
  | checkingProgress (input : RunInput) (budget : Option RetryBudget) (job : JobId)
    (failures : List FailureReason) (partialSuccess : Bool)
  | persistingFailure (input : RunInput) (budget : RetryBudget) (job : JobId)
    (summary : FailureSummary)
  | askingMost (input : RunInput) (job : JobId) (summary : FailureSummary)
  | recordingFailure (input : RunInput) (job : JobId) (summary : FailureSummary)
    (withinLimits : Bool)
  | recovering (input : RunInput) (failure : ActivityFailure)
  | timingRecovery (input : RunInput) (job : JobId) (failure : ActivityFailure)
  | failingAttempt (input : RunInput) (job : JobId) (failure : ActivityFailure) (now : Timestamp)
  | failingJob (job : JobId) (failure : ActivityFailure)
  | ending (input : RunInput)

inductive Spot
  | between (input : RunInput)
  | at (s : Station)
  | stopped

instance : Coe Station Spot := ⟨Spot.at⟩

namespace Station

def request (m : Manager) : Station → Request
  | beginning input => .enter (.beginGeneration input.jobId.isSome input.skipScheduling)
  | calling task _ _ => .call task.call
  | pausing _ _ failed => .pause (m.config.retryDelay (failed + 1))
  | timingStale .. | timingError .. | timingCancel .. | timingRecovery .. => .time
  | hydrating input | hydratingAttempt input _ => .call (.hydrate input.jobId)
  | waiting _ span => .wait span .schedule
  | endingWait _ => .enter .endWait
  | registering .. => .enter .registerAttempt
  | looking .. | lookingBack _ => .enter .look
  | checking _ _ context side _ => .check context side
  | executing _ _ context => .execute context
  | releasing .. => .enter .releaseAttempt
  | persistingSuccess context budget => .call (.persist context.jobId budget)
  | recordingSuccess => .enter .recordSuccess
  | checkingProgress input _ job _ _ => .call (.checkProgress job input.attempt)
  | persistingFailure _ budget job _ => .call (.persist job budget)
  | askingMost .. => .call .maxAttempts
  | recordingFailure .. => .enter .recordFailure
  | recovering .. => .wait m.config.workflowDelay .recovery
  | failingAttempt input job failure now =>
    .call (.failAttempt job input.attempt .failed
      (.ofReasons [.platform failure.message (some job) (some input.attempt) now] none))
  | failingJob job failure => .call (.failJob job failure.message)
  | ending _ => .enter .endGeneration

/-! ### Ways on -/

/-- A call that has not been tried yet. -/
def trying (m : Manager) (task : Task) : Station :=
  calling task (m.config.activityMaxAttempts - 1) 0

def cleaning (m : Manager) (input : RunInput) : List JobId → Station
  | [] => hydrating input
  | job :: jobs => trying m (.getStale input job jobs)

def failingStale (m : Manager) (input : RunInput) (job : JobId) (jobs : List JobId) :
    List Nat → Station
  | [] => trying m (.failStaleJob input job jobs)
  | attempt :: attempts => timingStale input job attempt attempts jobs

def leaving (last : Bool) (input : RunInput) : Spot := if last then .stopped else ending input

def cancelling (input : RunInput) (failures : List FailureReason) (partialSuccess : Option Bool)
    (last : Bool) : Spot :=
  match input.jobId with
  | none => leaving last input
  | some job => timingCancel input job failures partialSuccess last

def attempting (m : Manager) (input : RunInput) (budget : Option RetryBudget) (isReset : Bool)
    (job : JobId) : Station :=
  trying m (.createAttempt { input with jobId := some job } budget job isReset)

def opening (m : Manager) (input : RunInput) (budget : Option RetryBudget) (isReset : Bool) :
    Station :=
  match input.jobId with
  | some job => attempting m input budget isReset job
  | none => trying m (.createJob input budget isReset)

def checkingSides (input : RunInput) (budget : Option RetryBudget) (context : AttemptContext) :
    List Side → Station
  | [] => executing input budget context
  | side :: sides => checking input budget context side sides

def failing (input : RunInput) (budget : Option RetryBudget) (failures : List FailureReason)
    (partialSuccess : Bool) : Spot :=
  match input.jobId with
  | none => ending input
  | some job => checkingProgress input budget job failures partialSuccess

/-- The outcome of the open attempt is reported, under the flags with which it ended. -/
def reporting (m : Manager) (input : RunInput) (budget : Option RetryBudget)
    (context : AttemptContext) (flags : Flags) : AttemptOutcome → Spot
  | .succeeded output => trying m (.succeed input budget context output)
  | .cancelled => cancelling input [] none false
  | .failed failures partialSuccess =>
    if flags.cancelled || flags.cancelledForReset || flags.deleted then
      cancelling input failures (some partialSuccess) false
    else failing input budget failures partialSuccess

def succeeding (context : AttemptContext) : Option RetryBudget → Station
  | some budget => persistingSuccess context budget.recordSuccess
  | none => recordingSuccess

def limiting (input : RunInput) (job : JobId) (summary : FailureSummary) :
    Option RetryBudget → Station
  | some budget => persistingFailure input budget job summary
  | none => askingMost input job summary

/-- The way on from a call that was carried out. -/
def carried (m : Manager) : (task : Task) → task.call.Reply → Spot
  | .listStale input, stale => cleaning m input stale
  | .getStale input job jobs, record => failingStale m input job jobs (Job.runningAttempts record)
  | .failStaleAttempt input job _ attempts jobs _, _ => failingStale m input job jobs attempts
  | .failStaleJob input _ jobs, _ => cleaning m input jobs
  | .untilNextRun input budget, untilNext =>
    waiting input (Manager.waitingTime input budget untilNext)
  | .createJob input budget isReset, job => attempting m input budget isReset job
  | .createAttempt input budget job isReset, attempt =>
    trying m (.startJob { input with attempt } budget ⟨m.connectionId, job, attempt, isReset⟩)
  | .startJob input budget context, _ => registering input budget context
  | .lastFailure input budget context, (checkFirst : Bool) =>
    checkingSides input budget context
      (if checkFirst then Manager.checkedSides context.isReset else [])
  | .succeed _ budget context _, _ => succeeding context budget
  | .cancelJob _ _ _ last, _ => lookingBack last
  | .failAttempt input budget job madeProgress summary, _ =>
    limiting input job summary (budget.map (·.recordFailure madeProgress))
  | .failJob input _ _, _ => trying m (.autoDisable input)
  | .autoDisable _, _ => ending (.fresh m.connectionId)

/-- The way on from a call that kept failing. -/
def givenUp (task : Task) (error : ActivityError) : Station :=
  let failure : ActivityFailure := ⟨task.call.activity, error⟩
  match task with
  | .lastFailure input budget context => releasing input budget context (.error failure)
  | task => recovering task.input failure

/-- Whether a failure keeps a job from being attempted again. -/
def isConfigError (summary : FailureSummary) : Bool := summary.primaryKind = some .configError

def next (m : Manager) : (s : Station) → (s.request m).Answer → Spot
  | beginning input, _ =>
    if input.jobId.isNone then trying m (.listStale { input with skipScheduling := false })
    else hydrating { input with skipScheduling := false }
  | calling task _ _, .ok reply => carried m task reply
  | calling task 0 _, .error error => givenUp task error
  | calling task (left + 1) failed, .error _ => pausing task left failed
  | pausing task left failed, _ => calling task left (failed + 1)
  | timingStale input job attempt attempts jobs, now =>
    trying m (.failStaleAttempt input job attempt attempts jobs now)
  | hydrating input, budget => trying m (.untilNextRun input (budget.toOption.getD none))
  | waiting input _, _ => endingWait input
  | endingWait input, (_, control) =>
    if control.flags.deleted then cancelling input [] none true
    else if control.flags.updated then ending input
    else if control.flags.cancelled then cancelling input [] none false
    else hydratingAttempt input (input.resetConnection || control.flags.resetRequested)
  | hydratingAttempt input isReset, budget => opening m input (budget.toOption.getD none) isReset
  | registering input budget context, _ => looking input budget context
  | looking input budget context, (control, _) =>
    if control.attempt = some true then releasing input budget context (.ok .cancelled)
    else trying m (.lastFailure input budget context)
  | checking input budget context _ sides, .ok .succeeded =>
    checkingSides input budget context sides
  | checking input budget context _ _, .ok (.failed reason) =>
    releasing input budget context (.ok (.failed [reason] false))
  | checking input budget context _ _, .ok .cancelled =>
    releasing input budget context (.ok .cancelled)
  | checking input budget context _ _, .error error => timingError input budget context error
  | executing input budget context, .ok outcome => releasing input budget context (.ok outcome)
  | executing input budget context, .error error => timingError input budget context error
  | timingError input budget context error, now =>
    releasing input budget context (.ok (.failed
      [.platform error.message (some context.jobId) (some context.attempt) now] false))
  | releasing input _ _ (.error failure), _ => recovering input failure
  | releasing input budget context (.ok outcome), (_, control) =>
    reporting m input budget context control.flags outcome
  | persistingSuccess _ _, _ => recordingSuccess
  | recordingSuccess, _ => ending (.fresh m.connectionId)
  | timingCancel input job failures partialSuccess last, now =>
    trying m (.cancelJob input job (.ofCancellation (some job) (some input.attempt) failures
      partialSuccess now) last)
  | lookingBack last, (control, _) =>
    leaving last { RunInput.fresh m.connectionId with
      resetConnection := control.flags.cancelledForReset
      skipScheduling := control.flags.cancelledForReset }
  | checkingProgress input budget job failures partialSuccess, madeProgress =>
    trying m (.failAttempt input budget job (madeProgress.toOption.getD false)
      (.ofReasons failures (some partialSuccess)))
  | persistingFailure input budget job summary, _ =>
    recordingFailure input job summary budget.shouldRetry
  | askingMost input job summary, most =>
    recordingFailure input job summary
      (input.attempt < (most.toOption.getD m.config.defaultMaxAttempts : Nat))
  | recordingFailure input job summary withinLimits, _ =>
    if withinLimits && !isConfigError summary then ending { input with fromFailure := true }
    else
      trying m (.failJob input job (if isConfigError summary then
        (summary.failures.head?.bind (·.internalMessage)).getD "Unknown failure reason"
        else Manager.tooManyRetries m.connectionId))
  | recovering input failure, _ =>
    match input.jobId with
    | some job => timingRecovery input job failure
    | none => ending (.fresh m.connectionId)
  | timingRecovery input job failure, now => failingAttempt input job failure now
  | failingAttempt _ job failure _, _ => failingJob job failure
  | failingJob _ _, _ => ending (.fresh m.connectionId)
  | ending input, (before, _) =>
    if before.flags.deleted then .stopped
    else .between { input with
      skipScheduling := before.flags.skipSchedulingNext || input.skipScheduling }

end Station

end ConnectorSync.Sync
