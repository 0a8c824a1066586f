import ConnectorSync.Cluster.Manifest
import ConnectorSync.Documents.Status
import ConnectorSync.Launch.PodScript

/-!
# Connector pods

The manifests of the two kinds of connector pods. An attached pod has relays for the connector's
streams and a heartbeat; a detached pod has the connector alone, which reports by documents.
-/

namespace ConnectorSync.Launch

open Text Cluster

def mainContainer : String := "main"
def initContainer : String := "init"
def heartbeatContainer : String := "call-heartbeat-server"

def pipesMount : Mount := ⟨"syncrun-pipes", pipesDir⟩
def configMount : Mount := ⟨"syncrun-config", configDir⟩
def terminationMount : Mount := ⟨"syncrun-termination", terminationDir⟩
def temporaryMount : Mount := ⟨"syncrun-tmp", "/tmp"⟩

/-- The labels by which a pod is found: job, attempt, step, connection and workspace. -/
def podLabels (d : Descriptor) : StringMap String :=
  .ofList <|
    [("syncrun/job-id", d.jobId), ("syncrun/attempt", decimal d.attempt),
      ("syncrun/step", d.step.name)] ++
    (d.connectionId.map fun id => ("syncrun/connection-id", id.render)).toList ++
    (d.workspaceId.map fun id => ("syncrun/workspace-id", id.render)).toList

/-- The connector's environment: job and attempt, extra variables, the descriptor's own. -/
def connectorEnv (d : Descriptor) (extra : List Variable) : List Variable :=
  [⟨"JOB_ID", d.jobId⟩, ⟨"ATTEMPT_ID", decimal d.attempt⟩] ++ extra ++
    d.env.entries.map fun (name, value) => ⟨name, value⟩

def hostList (hosts : List String) : String := String.intercalate "," hosts

def initContainerOf (d : Descriptor) (config : Config) (script : String) (mounts : List Mount) :
    Container where
  name := initContainer
  image := config.initImage
  imagePullPolicy := some "IfNotPresent"
  command := some ["sh", "-c", script]
  workingDir := some configDir
  resources := some d.resources
  mounts := mounts

def podOf (name : String) (d : Descriptor) (config : Config) (init : Container)
    (containers : List Container) (volumes : List Volume) : Manifest where
  name := name
  ns := config.ns
  labels := podLabels d
  annotations :=
    if d.allowedHosts.isEmpty then none
    else some (.ofList [("syncrun/allowed-hosts", hostList d.allowedHosts)])
  initContainers := [init]
  containers := containers
  volumes := volumes
  nodeSelector := if d.isolated then config.isolatedNodeSelector else none

def attachedPod (name : String) (d : Descriptor) (config : Config) (ports : RelayPorts) :
    Manifest :=
  let relays := relays config ports d.step.usesStdin
  let init := initContainerOf d config (initScript true d.step.usesStdin) [pipesMount, configMount]
  let background := if config.socatInMainContainer then relays.map (·.2) else []
  let main : Container := {
    name := mainContainer
    image := d.image
    imagePullPolicy := some config.imagePullPolicy
    command := some ["sh", "-c", mainScript d background]
    workingDir := some configDir
    env := some (connectorEnv d [])
    resources := some d.resources
    mounts := [pipesMount, configMount, terminationMount, temporaryMount] }
  let heartbeat : Container := {
    name := heartbeatContainer
    image := config.curlImage
    command := some ["sh"]
    args := some ["-c", heartbeatScript config.heartbeatUrl]
    mounts := [terminationMount] }
  let sidecars : List Container :=
    if config.socatInMainContainer then []
    else relays.map fun (name, command) => {
      name := name
      image := config.socatImage
      command := some ["sh", "-c", relayScript command]
      mounts := [pipesMount, terminationMount] }
  podOf name d config init (main :: heartbeat :: sidecars)
    [⟨"syncrun-pipes", false⟩, ⟨"syncrun-config", true⟩, ⟨"syncrun-termination", false⟩,
      ⟨"syncrun-tmp", false⟩]

/-- What a detached connector is told about its documents: where to write its status and under
which name to leave its output. -/
def documentVariables (name : String) (d : Descriptor) (config : Config) : List Variable :=
  [⟨"STATUS_DOCUMENT_PREFIX", config.ns ++ "/" ++ name⟩, ⟨"WORKLOAD_ID", d.workloadId⟩]

def detachedPod (name : String) (d : Descriptor) (config : Config) : Manifest :=
  let init := initContainerOf d config (initScript false false) [configMount]
  let main : Container := {
    name := mainContainer
    image := d.image
    imagePullPolicy := some config.imagePullPolicy
    args := some d.args
    workingDir := some configDir
    env := some (connectorEnv d (documentVariables name d config))
    resources := some d.resources
    mounts := [configMount] }
  podOf name d config init [main] [⟨"syncrun-config", true⟩]

end ConnectorSync.Launch
