import ConnectorSync.Rehearsal.CrewPlay
import ConnectorSync.Rehearsal.Mishaps
import ConnectorSync.Sync.JobStore
import ConnectorSync.Sync.Manager

/-!
# Scripted collaborators

The collaborators of a connection's manager: stores in memory, a schedule and outcomes from a
script, and faults that delay calls or make them fail. Every call is put down in a log when it
returns.
-/

namespace ConnectorSync.Rehearsal

open Json Sync

/-- What happens to a call before it is carried out: a delay, and an error instead. -/
structure Mishap where
  delay : Option Nat := none
  error : Option ActivityError := none

def mishap (v : Value) : Mishap where
  delay := optionally natural (part v "delay_ms")
  error := optionally (fun _ => activityError v) (part v "error")

/-- What an execution does when it is cancelled. -/
inductive OnCancel
  | stop
  | carryOn
  | end (result : Except ActivityError AttemptOutcome)

/-- A scripted execution: how long it takes and what comes of it. One without a result breaks down
when its time is over. -/
structure ScriptedRun where
  ticks : Nat := 1000
  result? : Option (Except ActivityError AttemptOutcome) := some (.ok (.succeeded ⟨42, none⟩))
  onCancel : OnCancel := .stop

structure ScriptedCheck where
  ticks : Nat := 0
  result? : Option (Except ActivityError CheckOutcome) := some (.ok .succeeded)

def failureReason (v : Value) : FailureReason :=
  (record? FailureReason.decoder v).getD (.manualCancellation none none present)

def syncOutput (v : Value) : SyncOutput := (record? SyncOutput.decoder v).getD ⟨0, none⟩

/-- An attempt's outcome, or an error. -/
def attemptResult (v : Value) : Except ActivityError AttemptOutcome :=
  match v, part v "succeeded", part v "failed" with
  | .string _, _, _ => .ok .cancelled
  | _, .object o, _ => .ok (.succeeded (syncOutput (.object o)))
  | _, _, .object f => .ok (.failed ((items (part (.object f) "failures")).map failureReason)
      (truth (part (.object f) "partial_success")))
  | v, _, _ => .error (activityError v)

/-- A check's outcome, or an error. -/
def checkResult (v : Value) : Except ActivityError CheckOutcome :=
  match v, part v "failed" with
  | .string s, _ => .ok (if s = "cancelled" then .cancelled else .succeeded)
  | _, .object r => .ok (.failed (failureReason (.object r)))
  | v, _ => .error (activityError v)

def scriptedRun (v : Value) : ScriptedRun where
  ticks := given (part v "run_ms") natural 1000
  result? := optionally attemptResult (part v "result")
  onCancel := match part v "on_cancel" with
    | .null => .stop
    | .string "ignore" => .carryOn
    | v => .end (attemptResult v)

def scriptedCheck (v : Value) : ScriptedCheck where
  ticks := given (part v "ms") natural 0
  result? := optionally checkResult (part v "result")

/-- The world of a connection's manager. -/
structure ManagerWorld where
  control : Control := {}
  waiter : Waiter := .ended
  jobs : JobStore := {}
  retries : RetryStore := {}
  autoDisable : AutoDisable
  waits : List Duration := []
  maxAttempts : Nat := 3
  progress : List Bool := []
  runs : List ScriptedRun := []
  checks : List ScriptedCheck := []
  /-- The crew that executes attempts, if they are not scripted. -/
  crew : Option Crew := none
  mishaps : Mishaps Mishap := []
  log : List Value := []

namespace ManagerWorld

/-! ### Calls -/

def callName : Call → String
  | .evaluateAutoDisable => "evaluate"
  | c => c.activity

def tellArguments : Call → List Value
  | .createJob isReset => [.bool isReset]
  | .createAttempt job | .reportJobStart job | .getJob job | .isLastFailure job => [.int job]
  | .failAttempt job attempt status summary =>
    [.int job, .nat attempt, status.encode, summary.encode]
  | .failJob job reason => [.int job, tell reason]
  | .jobSuccess job attempt output => [.int job, .nat attempt, output.encode]
  | .jobCancelled job attempt summary => [.int job, .nat attempt, summary.encode]
  | .hydrate job => [.orNull (job.map .int)]
  | .persist job budget => [.int job, tell budget.message]
  | .checkProgress job attempt => [.int job, .nat attempt]
  | .timeUntilNextRun | .maxAttempts | .nonTerminalJobs | .evaluateAutoDisable => []

def tellReply : (c : Call) → c.Reply → Value
  | .timeUntilNextRun, d => if d = .longest then tell "never" else Duration.encode d
  | .maxAttempts, n | .createAttempt _, n => .nat n
  | .createJob _, job => .int job
  | .nonTerminalJobs, jobs => .ofList .int jobs
  | .isLastFailure _, b | .checkProgress .., b | .evaluateAutoDisable, b => .bool b
  | .hydrate _, budget => .orNull (budget.map fun b => tell (RetryBudget.message b))
  | .getJob _, _ | .reportJobStart _, _ | .failAttempt .., _ | .failJob .., _
  | .jobSuccess .., _ | .jobCancelled .., _ | .persist .., _ => .null

def note (clock : Nat) (name : String) (args : List Value) (result : Value) (w : ManagerWorld) :
    ManagerWorld :=
  let line := hideTimes <|
    .object [("t", .nat clock), ("call", tell name), ("args", .array args), ("r", result)]
  { w with log := line :: w.log }

/-- A value of the job store's own, with the store as it is then. -/
def onJobs {α : Type} (w : ManagerWorld) :
    Except ActivityError (α × JobStore) → Except ActivityError α × ManagerWorld
  | .ok (a, jobs) => (.ok a, { w with jobs })
  | .error e => (.error e, w)

def withJobs (w : ManagerWorld) (r : Except ActivityError JobStore) :
    Except ActivityError Unit × ManagerWorld :=
  w.onJobs (r.map fun jobs => ((), jobs))

def carryOut (id : Uuid) (w : ManagerWorld) :
    (c : Call) → Except ActivityError c.Reply × ManagerWorld
  | .timeUntilNextRun =>
    match w.waits with
    | [] => (.ok .longest, w)
    | [d] => (.ok d, w)
    | d :: rest => (.ok d, { w with waits := rest })
  | .maxAttempts => (.ok w.maxAttempts, w)
  | .createJob isReset => w.onJobs (.ok (w.jobs.createJob id isReset present))
  | .createAttempt job => w.onJobs (w.jobs.createAttempt job)
  | .reportJobStart job => w.withJobs (w.jobs.reportJobStart job)
  | .failAttempt job attempt status summary =>
    w.withJobs (w.jobs.failAttempt job attempt status summary)
  | .failJob job reason => w.withJobs (w.jobs.failJob job reason)
  | .jobSuccess job attempt output => w.withJobs (w.jobs.jobSuccess job attempt output)
  | .jobCancelled job attempt summary => w.withJobs (w.jobs.jobCancelled job attempt summary)
  | .getJob job => (w.jobs.get job, w)
  | .nonTerminalJobs => (.ok (w.jobs.nonTerminalJobs id), w)
  | .isLastFailure job => (.ok (w.jobs.isLastFailure id job), w)
  | .hydrate job => (.ok (w.retries.hydrate job), w)
  | .persist job budget => (.ok (), { w with retries := w.retries.persist job budget })
  | .checkProgress job attempt =>
    match w.crew, w.progress with
    | some crew, _ => (.ok (Execution.hasProgress crew.committed job attempt), w)
    | none, [] => (.ok false, w)
    | none, made :: rest => (.ok made, { w with progress := rest })
  | .evaluateAutoDisable =>
    let (disabled, autoDisable) := w.autoDisable.evaluate w.jobs id
    (.ok disabled, { w with autoDisable })

/-! ### Plays -/

def call (id : Uuid) (c : Call) : Play ManagerWorld (Except ActivityError c.Reply) := do
  let mishap ← Play.update fun _ w =>
    let (found, mishaps) := w.mishaps.take (callName c)
    (found, { w with mishaps })
  if let some ticks := mishap.bind (·.delay) then
    Play.restFor ticks
  Play.update fun clock w =>
    let (result, w) : Except ActivityError c.Reply × ManagerWorld :=
      match mishap.bind (·.error) with
      | some e => (.error e, w)
      | none => carryOut id w c
    let told := match result with
      | .ok reply => tellReply c reply
      | .error e => (Complaint.ofActivity e).report
    (result, w.note clock (callName c) (tellArguments c) told)

def isCancelled (w : ManagerWorld) : Bool := w.control.attempt = some true

def crewView : CrewView ManagerWorld where
  crew w := w.crew.getD {}
  setCrew crew w := { w with crew := some crew }
  isCancelled := isCancelled

def tellContext (c : AttemptContext) : Value :=
  .array [.int c.jobId, .nat c.attempt, .bool c.isReset]

def tellResult {α : Type} (f : α → Value) : Except ActivityError α → Value
  | .ok a => f a
  | .error e => (Complaint.ofActivity e).report

/-- A play that is put down in the log at its start and at its end. -/
def noted {α : Type} (name : String) (args : List Value) (f : α → Value)
    (play : Play ManagerWorld (Except ActivityError α)) :
    Play ManagerWorld (Except ActivityError α) := do
  let _ ← Play.change fun clock w =>
    w.note clock name (args ++ [.bool w.isCancelled]) .null
  let result ← play
  let _ ← Play.change fun clock w => w.note clock (name ++ "_done") args (tellResult f result)
  return result

/-- What a script tells; the player breaks down where it tells nothing. -/
def orBreakDown {α : Type} : Option α → Play ManagerWorld α
  | some a => return a
  | none => do return (← Play.halt).elim

def scriptedExecution : Play ManagerWorld (Except ActivityError AttemptOutcome) := do
  let run ← Play.update fun _ w => (w.runs.head?.getD {}, { w with runs := w.runs.tail })
  match run.onCancel with
  | .carryOn =>
    Play.restFor run.ticks
    orBreakDown run.result?
  | .stop => orCancelled run (.ok .cancelled)
  | .end result => orCancelled run result
where
  /-- The run's result, or another one if it is cancelled. -/
  orCancelled (run : ScriptedRun) (cancelled : Except ActivityError AttemptOutcome) :
      Play ManagerWorld (Except ActivityError AttemptOutcome) := do
    Play.rest (fun clock _ => some (clock + run.ticks)) isCancelled
    let (_, w) ← Play.look
    if w.isCancelled then return cancelled else orBreakDown run.result?

def scriptedChecking : Play ManagerWorld (Except ActivityError CheckOutcome) := do
  let check ← Play.update fun _ w => (w.checks.head?.getD {}, { w with checks := w.checks.tail })
  Play.restFor check.ticks
  orBreakDown check.result?

/-- A signal: it changes the control and rings the bell. -/
def signal (w : ManagerWorld) (s : Signal) : ManagerWorld :=
  { w with control := w.control.signal s, waiter := w.waiter.ring }

/-- The manager's wait, step by step; parked it rests until the bell rings or the time has come. -/
def wait (purpose : Wait) (due : Option Nat) : Play ManagerWorld (Option Unit) :=
  Play.repeated (fun () => do
    let (_, w) ← Play.look
    if w.waiter = .ended then return .inr ()
    if w.waiter = .parked false then
      Play.rest (fun _ _ => due) fun w => w.waiter ≠ .parked false
    let _ ← Play.change fun clock w =>
      { w with waiter := w.waiter.step purpose w.control.flags (due.any (· ≤ clock)) }
    return .inl ()) Stage.patience ()

def answer (id : Uuid) : (r : Request) → Play ManagerWorld r.Answer
  | .call c => call id c
  | .check context side => do
    let (_, w) ← Play.look
    noted "check" [tellContext context, side.encode] tellCheck
      (if w.crew.isSome then crewView.check context side else scriptedChecking)
  | .execute context => do
    let (_, w) ← Play.look
    noted "run" [tellContext context] tellAttempt
      (if w.crew.isSome then crewView.execute context else scriptedExecution)
  | .enter s => Play.update fun _ w =>
    let after := s.apply w.control
    ((w.control, after), { w with control := after })
  | .wait span purpose => do
    let (clock, _) ← Play.change fun _ w => { w with waiter := .arriving }
    let _ ← wait purpose (deadline clock span)
    return ()
  | .pause span => Play.restFor (restTicks span)
  | .time => return present

def turn (m : Manager) : Turn ManagerWorld RunInput Unit := fun input => do
  match ← (m.turn input).perform (answer m.connectionId) with
  | some input => return .inl input
  | none => return .inr ()

end ManagerWorld

end ConnectorSync.Rehearsal
