import ConnectorSync.Rehearsal.Collaborators

/-!
# Rehearsals of a manager

A connection's manager is run among scripted collaborators while signals arrive and time passes.
Told of each step are the calls that returned in it and the flags in the end.
-/

namespace ConnectorSync.Rehearsal

open Json Sync

/-- Flags: the generation and the names of those that are up. -/
def tellFlags (f : Flags) : Value :=
  .object [("generation", .nat f.generation.toNat),
    ("flags", tellAll ((f.named.filter (·.2)).map (·.1)))]

def signal? : String → Option Signal
  | "manual_sync" => some .manualSync
  | "cancel" => some .cancel
  | "delete" => some .delete
  | "updated" => some .updated
  | "reset" => some .reset
  | "reset_skip" => some .resetAndSkipSchedule
  | _ => none

def syncConfig (v : Value) : Config :=
  let d : Config := {}
  { workflowDelay := durationOr v "workflow_delay" d.workflowDelay
    activityMaxAttempts := given (part v "activity_max_attempts") natural d.activityMaxAttempts
    activityInitialInterval := durationOr v "activity_initial_interval" d.activityInitialInterval
    activityMaxInterval := durationOr v "activity_max_interval" d.activityMaxInterval
    defaultMaxAttempts := given (part v "default_max_attempts") natural d.defaultMaxAttempts }

def retryBudget (v : Value) : RetryBudget := (record? RetryBudget.decoder v).getD {}

/-- The input of a first generation, where it differs from a fresh one. -/
def runInput (id : Uuid) (v : Value) : RunInput where
  connectionId := id
  jobId := integer? (part v "job_id")
  attempt := given (part v "attempt_number") natural 1
  fromFailure := truth (part v "from_failure")
  skipScheduling := truth (part v "skip_scheduling")
  resetConnection := truth (part v "reset_connection")

def managerWorld (v : Value) : Except Json.Fault ManagerWorld := do
  let crew ← match part v "process" with
    | .null => pure none
    | p => some <$> crew p
  let jobs := (items (part v "jobs")).filterMap (record? Job.decoder)
  let budgets := (items (part v "retry_state")).map fun entry =>
    (integer (item entry 0), retryBudget (item entry 1))
  return {
    jobs := jobs.foldl JobStore.insert {}
    retries := budgets.foldl (fun s (job, b) => s.persist job b)
      { template := optionally retryBudget (part v "retry_template") }
    autoDisable := .withThreshold (given (part v "threshold") natural 3)
    waits := given (part v "waits") (fun w => (items w).map duration) [.longest]
    maxAttempts := given (part v "max_attempts") natural 3
    progress := (items (part v "progress")).map truth
    runs := (items (part v "runs")).map scriptedRun
    checks := (items (part v "checks")).map scriptedCheck
    crew
    mishaps := mishaps mishap (part v "faults") }

def tellStep (s : Stage ManagerWorld RunInput) (signalled : Option Flags) :
    Value × Stage ManagerWorld RunInput :=
  let report : Value := .object
    [("t", .nat s.clock), ("signalled", .orNull (signalled.map tellFlags)),
      ("state", tellFlags s.world.control.flags), ("calls", .array s.world.log.reverse)]
  (report, s.mapWorld fun w => { w with log := [] })

def managerStep (m : Manager) (input : RunInput) (s : Stage ManagerWorld RunInput) (v : Value) :
    Value × Stage ManagerWorld RunInput :=
  let name := text (item v 0)
  match signal? name with
  | some signal =>
    let s := s.mapWorld (·.signal signal)
    tellStep s.settle (some s.world.control.flags)
  | none =>
    if name = "sleep" then tellStep (s.advance (restTicks (duration (item v 1)))) none
    else if name = "start" then tellStep (s.enter (ManagerWorld.turn m) input).settle none
    else
      let more := mishaps mishap (item v 1)
      tellStep (s.mapWorld fun w => { w with mishaps := w.mishaps.append more }).settle none

def tellEnd (m : Manager) (s : Stage ManagerWorld RunInput) : Value :=
  let w := s.world
  let jobs := w.jobs.jobsFor m.connectionId
  let perJob (f : Job → Option Value) : Value :=
    .object (jobs.filterMap fun j => (f j).map fun v => (Text.decimalInt j.id, v))
  let outputs := jobs.flatMap fun j => j.attempts.filterMap fun a =>
    (w.jobs.output j.id a.number).map fun o =>
      Value.array [.int j.id, .nat a.number, o.encode]
  hideTimes <| .object <|
    [("stopped", .bool (s.players.all (·.resting.isHalted))), ("jobs", .ofList Job.encode jobs),
      ("failure_reasons", perJob fun j => (w.jobs.failureReason j.id).map tell),
      ("retry", perJob fun j => (w.retries.find? j.id).map fun b => tell b.message),
      ("outputs", .array outputs),
      ("disabled", .bool (w.autoDisable.disabled.contains m.connectionId))] ++
    (w.crew.map fun c => ("processes", c.report)).toList

def rehearseManager (v : Value) : Value :=
  let id := uuid (part v "connection_id")
  let m : Manager := ⟨id, syncConfig (part v "config")⟩
  valueOr (.ofJson "Json") do
    let world ← managerWorld v
    let first : List Value :=
      if truth (part v "signals_first") then [] else [.array [.string "start"]]
    let (reports, stage) := (first ++ items (part v "steps")).foldl
      (fun (reports, s) step =>
        let (report, s) := managerStep m (runInput id (part v "input")) s step
        (report :: reports, s)) (([] : List Value), ({ world } : Stage ManagerWorld RunInput))
    return .object [("steps", .array reports.reverse), ("end", tellEnd m stage)]

end ConnectorSync.Rehearsal
