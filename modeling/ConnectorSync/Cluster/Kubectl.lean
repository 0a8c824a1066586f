import ConnectorSync.Cluster.Request
import ConnectorSync.Files.Path
import ConnectorSync.Host.Request
import ConnectorSync.Json.Writer
import ConnectorSync.Text.Blank
import ConnectorSync.Text.Numeral

/-!
# The cluster by its command-line client

Each request to the cluster is one run of `kubectl`. A file to be copied is staged under a name of
its own, and is gone from there when the copy has ended.
-/

namespace ConnectorSync.Cluster

open Host Text

/-- The command-line client of a cluster. -/
structure Kubectl where
  binary : String
  stagingDir : String

namespace Kubectl

/-- The status that is told of a client that a signal ended. -/
def signalStatus : Int := -1

/-- Runs the client; answers what it writes. -/
def run (k : Kubectl) (args : List String) (input : Option Bytes) : Host.Talk (Except Error String) := do
  let command : Command := ⟨k.binary, args, input⟩
  match ← ask (.run command) with
  | .error fault => return .error (.io fault)
  | .ok ended =>
    if ended.isGood then return .ok (ofBytesLossy ended.stdout)
    else
      let stderr := trim (ofBytesLossy ended.stderr)
      return .error (.command command.line (ended.code.getD signalStatus) stderr)

/-- A new pod. That the client fails means that the cluster rejects the pod. -/
def create (k : Kubectl) (ns : String) (manifest : Json.Value) : Host.Talk (Except Error Unit) := do
  match ← k.run ["-n", ns, "create", "-f", "-"] (some (bytes manifest.render)) with
  | .ok _ => return .ok ()
  | .error (.command _ _ stderr) => return .error (.rejected stderr)
  | .error e => return .error e

/-- The pod that the client writes; it writes nothing of one that is not there. -/
def podOf (written : String) : Except Error (Option PodStatus) :=
  if isAllBlank written then .ok none
  else match Json.parse written with
    | .error fault => .error (.json fault)
    | .ok pod => ((PodStatus.ofPod pod).map some).mapError .json

def read (k : Kubectl) (key : PodKey) : Host.Talk (Except Error (Option PodStatus)) := do
  return (← k.run ["-n", key.ns, "get", "pod", key.name, "-o", "json", "--ignore-not-found"] none)
    |>.bind podOf

/-- A pod is deleted, without a wait for its end; the client writes nothing if there was none. -/
def delete (k : Kubectl) (key : PodKey) : Host.Talk (Except Error Bool) := do
  return (← k.run ["-n", key.ns, "delete", "pod", key.name, "--cascade=foreground",
    "--ignore-not-found", "--wait=false"] none).map (! isAllBlank ·)

def copyStaged (k : Kubectl) (key : PodKey) (file : CopiedFile) (staged : String) :
    Host.Talk (Except Error Unit) := do
  let target := key.ns ++ "/" ++ key.name ++ ":" ++ file.path
  let result ← k.run ["cp", staged, target, "-c", file.container] none
  let _ ← ask (.removeFile staged)
  return result.map fun _ => ()

def copy (k : Kubectl) (key : PodKey) (file : CopiedFile) : Host.Talk (Except Error Unit) := do
  match ← ask (.createDirectories k.stagingDir) with
  | .error fault => return .error (.io fault)
  | .ok () =>
    let id : Uuid ← ask .freshId
    let staged := Files.join k.stagingDir (key.name ++ "-" ++ id.render)
    match ← ask (.writeFile staged file.contents) with
    | .error fault => return .error (.io fault)
    | .ok () => k.copyStaged key file staged

def tail (k : Kubectl) (key : PodKey) (container : String) (count : Nat) :
    Host.Talk (Except Error (List String)) := do
  return (← k.run ["-n", key.ns, "logs", key.name, "-c", container, "--tail=" ++ decimal count] none)
    |>.map lines

def answer (k : Kubectl) : (r : Request) → Host.Talk r.Answer
  | .create ns manifest => k.create ns manifest
  | .read key => k.read key
  | .delete key => k.delete key
  | .copy key file => k.copy key file
  | .tail key container count => k.tail key container count

end Kubectl

end ConnectorSync.Cluster
