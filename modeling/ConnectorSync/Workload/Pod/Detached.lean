import ConnectorSync.Documents.Status
import ConnectorSync.Text.Blank
import ConnectorSync.Workload.Error
import ConnectorSync.Workload.Pod.Startup

/-!
# Detached pods

A detached pod is launched and then left to itself. How it ended is found out from the outside: the
status documents it wrote decide, and only where they say nothing final is the cluster asked.
-/

namespace ConnectorSync.Workload.Pod

open Launch Cluster Documents

/-- A detached pod as its keeper knows it. -/
structure Detached where
  key : PodKey
  info : Info
  workloadId : String
  pollInterval : Duration
  oomLogLines : Nat

namespace Detached

def longestWait : Duration := .ofSeconds (10 * 24 * 60 * 60)

def attach (config : Config) (name image workloadId : String) : Detached where
  key := ⟨config.ns, name⟩
  info := infoOf config name image
  workloadId := workloadId
  pollInterval := config.pollInterval
  oomLogLines := config.oomLogLines

/-! ### Launching -/

/-- How far the launch of a pod is. -/
inductive Launching
  | asked
  | starting (deadline : Duration)

/-- The launch of a pod: creation, the wait for its init container, the input. -/
def launch (p : Detached) (config : Config) (d : Descriptor) :
    Turns Launching (Except Launch.Error Unit)
  | .asked => do
    match ← createPod p.key (detachedPod p.key.name d config) with
    | .error e => return .inr (.error e)
    | .ok () =>
      let deadline ← deadlineAfter (ask .time) (ask .breakDown) config.initReadyTimeout
      return .inl (.starting deadline)
  | .starting deadline => do
    match ← awaitStatus p.key initRuns config.initReadyTimeout deadline with
    | .inl deadline => return .inl (.starting deadline)
    | .inr (.error e) => return .inr (.error e)
    | .inr (.ok _) => return .inr (← upload p.key (uploads d p.info))

/-- The launch of a connector as a detached pod. If it fails the pod is deleted. -/
def create (config : Config) (d : Descriptor) (name : String) :
    Turns Launching (Except Launch.Error Detached) :=
  let p := attach config name d.image d.workloadId
  (p.launch config d).thenDo fun
    | .ok () => return .ok p
    | .error e => do
      let _ ← askCluster (.delete p.key)
      return .error e

/-! ### The end of a pod -/

def status (p : Detached) : Talk (Except Workload.Error Status) := do
  return (← resolveStatus (fun key => ask (.document key)) p.key.ns p.key.name).mapError .documents

def codeOf? : Status → Option Int
  | .failed => some exitFailed
  | .succeeded => some exitSuccess
  | _ => none

/-- Finds the exit code out. The documents are read once more after the pod has ended, since it may
have written one in between. -/
def resolveExit (p : Detached) : Talk (Except Workload.Error Int) := ExceptT.run do
  if let some code := codeOf? (← ExceptT.mk p.status) then return code
  match ← ExceptT.mk (do return (← askCluster (.read p.key)).mapError Workload.Error.cluster) with
  | none => return exitVanished
  | some pod =>
    if ! pod.isTerminal then throw .notTerminated
    if let some code := codeOf? (← ExceptT.mk p.status) then return code
    if ← ranOutOfMemory p.key p.oomLogLines then return exitOutOfMemory
    return exitSilent

/-- The exit code: the one put down, or one found out now, which is put down. -/
def exitValue (p : Detached) : Talk (Except Workload.Error Int) := do
  match ← ask .exitCode with
  | some code => return .ok code
  | none =>
    match ← p.resolveExit with
    | .error e => return .error e
    | .ok code =>
      let _ ← ask (.complete code)
      return .ok ((← ask .exitCode).getD code)

/-- Looks for the exit code at every poll and at the deadline; answers whether it was found. A look
that fails counts as one that found nothing. -/
def awaitExit (p : Detached) : Turns Wait Bool
  | .begun limit => do
    return .inl (.until (← deadlineAfter (ask .time) (ask .breakDown) limit))
  | .until deadline => do
    match ← p.exitValue with
    | .ok _ => return .inr true
    | .error _ =>
      let now ← ask .time
      if deadline ≤ now then return .inr false
      else
        ask (.pause ((deadline.minus now).min p.pollInterval))
        return .inl (.until deadline)

/-- Waits for the end, though not for ever; answers the exit code. -/
def waitFor (p : Detached) : Turns Wait (Except Workload.Error Int) :=
  p.awaitExit.thenDo fun found =>
    if found then p.exitValue else return .error .timeout

/-- Deletes the pod. That it cannot be deleted is no error. -/
def destroy (p : Detached) : Talk Unit := do
  let _ ← askCluster (.delete p.key)

/-- What the connector left as its output: a document of success that is not blank, else what is
kept under its workload. -/
def output (p : Detached) : Talk (Except Workload.Error (Option String)) := do
  match ← ask (.document (statusKey p.key.ns p.key.name .succeeded)) with
  | .error e => return .error (.documents e)
  | .ok document =>
    match document.filter (! Text.isAllBlank ·) with
    | some text => return .ok (some text)
    | none =>
      let kept ← ask (.output p.workloadId)
      return (kept.map fun output => output.map (·.render)).mapError .documents

end Detached

end ConnectorSync.Workload.Pod
