import ConnectorSync.Launch.Error
import ConnectorSync.Launch.Pod
import ConnectorSync.Workload.Pod.Request
import ConnectorSync.Workload.Wait
import ConnectorSync.Workload.Wire
import ConnectorSync.Json.Writer

/-!
# How a pod starts

A pod is asked of the cluster, its init container is waited for, and the connector's input is copied
to it. The last file copied is an empty one by which the init container knows that all are there.
-/

namespace ConnectorSync.Workload.Pod

open Launch Cluster

def startupPause : Duration := .ofMillis 100

/-- Why a pod could not be created. -/
def creationError : Cluster.Error → Launch.Error
  | .rejected reason => .podRejected reason
  | e => .cluster e

def createPod (key : PodKey) (manifest : Manifest) : Talk (Except Launch.Error Unit) := do
  return (← askCluster (.create key.ns manifest.encode)).mapError creationError

def inputFile (name : String) (contents : Bytes) : CopiedFile :=
  ⟨initContainer, configDir ++ "/" ++ name, contents⟩

/-- The files to copy: the descriptor's, then the identity of the pod, then the empty one. -/
def uploads (d : Descriptor) (info : Info) : List CopiedFile :=
  (d.files.entries.map fun (name, contents) => inputFile name (Text.bytes contents)) ++
    [inputFile podInfoFile (Text.bytes info.encode.render), inputFile uploadedFile []]

/-- Files are copied one after the other, up to the first that cannot be. -/
def upload (key : PodKey) : List CopiedFile → Talk (Except Launch.Error Unit)
  | [] => return .ok ()
  | file :: rest => do
    match ← askCluster (.copy key file) with
    | .error e => return .error (.cluster e)
    | .ok () => upload key rest

/-- Looks at a pod again and again until it is ready. A pod that ended or is gone never will be, and
a deadline that has passed by the end of a look ends the wait. -/
def awaitStatus (key : PodKey) (ready : PodStatus → Bool) (patience : Duration) :
    Turns Duration (Except Launch.Error PodStatus) := fun deadline => do
  match ← askCluster (.read key) with
  | .error e => return .inr (.error (.cluster e))
  | .ok none => return .inr (.error (.terminatedDuringStartup key.name))
  | .ok (some status) =>
    if ready status then return .inr (.ok status)
    else if status.isTerminal then return .inr (.error (.terminatedDuringStartup key.name))
    else if deadline ≤ (← ask .time) then
      return .inr (.error (.initTimeout key.name patience.seconds))
    else
      ask (.pause startupPause)
      return .inl deadline

def initRuns (status : PodStatus) : Bool := (status.initContainer? initContainer).any (·.running)

def infoOf (config : Config) (name image : String) : Info where
  ns := some config.ns
  name := name
  image := image
  pullPolicy := some config.imagePullPolicy

/-- Whether the last lines of the connector's log tell that memory ran out; lines that cannot be
had tell nothing. -/
def ranOutOfMemory (key : PodKey) (lines : Nat) : Talk Bool := do
  match ← askCluster (.tail key mainContainer lines) with
  | .ok tail => return tellsOutOfMemory tail
  | .error _ => return false

end ConnectorSync.Workload.Pod
