import ConnectorSync.Orchestrator.Plan
import ConnectorSync.Rehearsal.LauncherRun
import ConnectorSync.Rehearsal.ManagerRun

/-!
# Rehearsals of the orchestrator

The orchestrator is called with settings and files on a machine that plays its part. Once some news
is heard and all have come to rest, it is interrupted: the connection is deleted, and in the end it
is told what became of the jobs.
-/

namespace ConnectorSync.Rehearsal

open Json Sync

structure OrchestratorWorld where
  machine : Machine
  manager : ManagerWorld
  placed : List (Handle × Machine.Placed) := []
  news : List String := []
  hasStopped : Bool := false

namespace OrchestratorWorld

def machinePart : Part OrchestratorWorld Machine :=
  ⟨machine, fun machine w => { w with machine }⟩

def managerPart : Part OrchestratorWorld ManagerWorld :=
  ⟨manager, fun manager w => { w with manager }⟩

def onMachine {α : Type} (p : Play Machine α) : Play OrchestratorWorld α :=
  Play.within machinePart p

def announce (text : String) (w : OrchestratorWorld) : OrchestratorWorld :=
  { w with news := text :: w.news }

def hear (text : Option String) : Play OrchestratorWorld Unit := do
  if let some text := text then
    let _ ← Play.change fun _ w => w.announce text

def hasHeard (text : String) (w : OrchestratorWorld) : Bool :=
  w.news.any fun news => (news.splitOn text).length > 1 || text = ""

def isCancelled (w : OrchestratorWorld) : Bool := w.manager.isCancelled

/-! ### Workloads -/

/-- The workload of a handle, and something to do with it. -/
def onPlaced {α : Type} (h : Handle) (otherwise : α) (p : Machine.Placed → Play Machine α) :
    Play OrchestratorWorld α := do
  match (← Play.look).2.placed.find? (·.1 = h) with
  | some (_, w) => onMachine (p w)
  | none => return otherwise

/-- The number of a workload's client, if it runs in a container. -/
def client? (w : Machine.Placed) : Option Host.Child :=
  match w.kept with
  | .container c => some c.child
  | _ => none

/-- How many bytes a pipe holds that nobody reads from. -/
def pipeCapacity : Nat := 65536

/-- A workload's client as it is now, if it runs in a container. -/
def scripted? (w : Machine.Placed) (m : Machine) : Option ScriptedChild :=
  (client? w).bind m.host.child?

def awaitEnd (w : Machine.Placed) : Play Machine Unit :=
  match client? w with
  | none => return
  | some child => Play.within Machine.hostPart (ScriptedHost.awaitChild child fun _ => false)

/-- The output of one workload is fed to another one, unless that has ended before. One that does not
read its input takes what its pipe holds, and ends before it takes more. -/
def copy (source destination : Machine.Placed) : Play Machine (Except Files.Fault Nat) := do
  let (_, m) ← Play.look
  let bs := ((scripted? source m).map (·.response.stdout)).getD []
  let neverReads := (scripted? destination m).any (! ·.response.readsInput)
  if neverReads && pipeCapacity < bs.length then
    awaitEnd destination
    return .error .brokenPipe
  else
    awaitEnd source
    let (clock, m) ← Play.look
    let hasEnded := (scripted? destination m).any fun c => ((c.exit? (clock - 1)).isSome : Bool)
    if hasEnded && ! bs.isEmpty then return .error .brokenPipe
    else
      Machine.feed destination bs
      return .ok bs.length

def deed (config : Launch.Config) : (d : Deed) → Play OrchestratorWorld d.Answer
  | .launch d => do
    match ← onMachine (Machine.launch config d) with
    | .error e => return .error e
    | .ok w =>
      let _ ← Play.change fun _ world => { world with placed := (w.keeper, w) :: world.placed }
      hear <| match d.step with
        | .check => some "Connection check launched"
        | .write => some "Sync launched"
        | _ => none
      return .ok w.keeper
  | .takeStdin h => onPlaced h false (Machine.takeStdin config)
  | .takeStdout h => onPlaced h false fun w => Machine.takeStream config w .stdout
  | .takeStderr h => onPlaced h false fun w => Machine.takeStream config w .stderr
  | .copy source destination => Play.orCut isCancelled do
    match (← Play.look).2.placed.find? (·.1 = destination) with
    | none => return .ok 0
    | some (_, w) => onPlaced source (.ok 0) fun s => copy s w
  | .closeStdin h => onPlaced h () Machine.closeStdin
  | .waitFor h => Play.orCut isCancelled
    (onPlaced h (.error .notTerminated) (Machine.waitFor config))
  | .destroy h => do return .ok (← onPlaced h () (Machine.destroy config))
  | .output h => onPlaced h (.ok none) (Machine.output config)
  | .commit job attempt n =>
    Play.within managerPart (ManagerWorld.crewView.deed (.commit job attempt n))
  | .time => return present

/-! ### The manager -/

/-- The news that a request of the manager brings, by its answer. -/
def newsOf (w : OrchestratorWorld) : (r : Sync.Request) → r.Answer → Option String
  | .call (.reportJobStart job), .ok _ =>
    let attempts := ((w.manager.jobs.get job).toOption).elim 0 (·.attempts.length)
    some ("Attempt started job_id=" ++ Text.decimalInt job ++ " attempt=" ++ Text.decimal attempts)
  | .call (.failJob ..), .ok _ => some "Failing job"
  | .call .evaluateAutoDisable, .ok true => some "Connection disabled after repeated failures"
  | .call (.jobCancelled ..), .ok _ => some "Job cancelled"
  | .enter .recordSuccess, _ => some "Attempt succeeded"
  | .enter .endGeneration, (before, _) =>
    let isOpen := w.manager.jobs.jobs.any (! ·.status.isTerminal)
    if before.flags.failed && isOpen then some "Attempt failed, will retry" else none
  | .check .., .ok .cancelled => none
  | .check .., .ok (.failed _) => some "Connection check finished, Connection check failed"
  | .check .., .ok .succeeded => some "Connection check finished"
  | .execute _, .ok .cancelled => some "Sync cancelled"
  | .execute _, .ok (.failed ..) => some "Sync failed"
  | .execute _, .ok (.succeeded _) => some "Sync finished"
  | _, _ => none

/-- A request of the manager, without the news of it. -/
def carryOut (plan : Orchestrator.Plan) : (r : Sync.Request) → Play OrchestratorWorld r.Answer
  | .check context side =>
    (Execution.check (some plan.connection) context side).perform (deed plan.launch)
  | .execute context => (Execution.execute (some plan.connection) context).perform (deed plan.launch)
  | r => Play.within managerPart (ManagerWorld.answer plan.connection.id r)

def answer (plan : Orchestrator.Plan) (r : Sync.Request) : Play OrchestratorWorld r.Answer := do
  let a ← carryOut plan r
  hear (newsOf (← Play.look).2 r a)
  return a

def turn (plan : Orchestrator.Plan) : Turn OrchestratorWorld RunInput Unit := fun input => do
  let m : Manager := ⟨plan.connection.id, plan.config⟩
  match ← (m.turn input).perform (answer plan) with
  | some input => return .inl input
  | none =>
    let _ ← Play.change fun _ w => { w with hasStopped := true }
    return .inr ()

end OrchestratorWorld

def orchestratorWorld (plan : Orchestrator.Plan) (machine : Machine) : OrchestratorWorld where
  machine := { machine with ports := sharedPorts plan.launch }
  manager := {
    retries := { template := some Orchestrator.retryTemplate }
    autoDisable := .withThreshold Orchestrator.autoDisableThreshold
    waits := [plan.config.syncInterval]
    maxAttempts := plan.config.defaultMaxAttempts
    crew := some { connections := [plan.connection] } }
  news := ["Connection manager started", "Starting syncrun orchestrator"]

def mostWatches : Nat := 64

/-- A player on an orchestrator's stage: the manager, or a watch. -/
inductive OrchestratorPart
  | manager (input : RunInput)
  | watch (n failed : Nat)

def OrchestratorPart.turn (plan : Orchestrator.Plan) :
    Turn OrchestratorWorld OrchestratorPart Unit
  | .manager input => do return (← OrchestratorWorld.turn plan input).map .manager id
  | .watch n failed => do
    let next ← OrchestratorWorld.onMachine (Machine.watch plan.launch n failed)
    return next.map (.watch n) id

/-- An orchestrator run until the news is heard, and then to its end. -/
def runOrchestrator (plan : Orchestrator.Plan) (machine : Machine) (news : String) :
    OrchestratorWorld :=
  let id := plan.connection.id
  let stage : Stage OrchestratorWorld OrchestratorPart := { world := orchestratorWorld plan machine }
  let signal (s : Signal) (w : OrchestratorWorld) : OrchestratorWorld :=
    { w with manager := w.manager.signal s }
  let stage := (List.range mostWatches).foldl
    (fun stage n => stage.enter (OrchestratorPart.turn plan) (.watch n 0)) stage
  let stage := stage.enter (OrchestratorPart.turn plan) (.manager (RunInput.fresh id))
  let stage := if plan.config.runOnStart then
      stage.mapWorld fun w => (signal .manualSync w).announce "Manual sync requested"
    else stage
  let goOn (isDone : OrchestratorWorld → Bool) (stage : Stage OrchestratorWorld OrchestratorPart) :=
    (stage.perform (Play.rest (fun _ _ => none) isDone) day).2.settle
  let stage := goOn (·.hasHeard news) stage
  let stage := stage.mapWorld (signal .delete)
  (goOn (·.hasStopped) stage).world

def tellOrchestrator (status : Nat) (failure : Option String) (summary launched : List String) :
    Value :=
  .object [("code", .nat status), ("failure", tellFailure failure), ("summary", tellAll summary),
    ("launched", tellAll launched)]

def rehearseOrchestrator (v : Value) : Value :=
  let machine := machine v
  let files := machine.host.files
  match (programEnvironment (part v "env") files).map (Orchestrator.plan · files) with
  | none => tellOrchestrator Launcher.breakdownStatus none [] []
  | some (.error failure) =>
    tellOrchestrator Launcher.failureStatus (some failure.message) [] []
  | some (.ok plan) =>
    let w := runOrchestrator plan machine (text (part v "until"))
    let keys := (w.machine.host.calls.map (·.key)).filter (·.startsWith "run:")
    tellOrchestrator 0 none
      ((w.manager.jobs.jobsFor plan.connection.id).map Orchestrator.summary)
      (keys.mergeSort fun a b => decide (a ≤ b))

end ConnectorSync.Rehearsal
