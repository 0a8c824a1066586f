import ConnectorSync.Environment
import ConnectorSync.Launch.PortPool
import ConnectorSync.Launch.ProcessName
import ConnectorSync.Text.Case

/-!
# Launch settings

How connectors are launched: on which backend, with which tools, images, directories and intervals.
`Config.ofEnvironment` reads the settings one by one and stops at the first that is refused.
-/

namespace ConnectorSync.Launch

open Text

inductive Backend
  | docker
  | kube
  deriving DecidableEq, Repr

/-- How a pod is followed: through attached streams, or by its documents alone. -/
inductive KubeMode
  | attached
  | detached
  deriving DecidableEq, Repr

def Backend.ofName? (s : String) : Option Backend :=
  let name := lowerAscii s
  if name = "docker" then some .docker
  else if name = "kube" ∨ name = "kubernetes" then some .kube
  else none

def KubeMode.ofName? (s : String) : Option KubeMode :=
  let name := lowerAscii s
  if name = "sync" then some .attached else if name = "async" then some .detached else none

def splitPair? (s : String) : Option (String × String) :=
  let cs := s.toList
  let key := cs.takeWhile (· ≠ '=')
  match cs.dropWhile (· ≠ '=') with
  | _ :: value => some (String.ofList key, String.ofList value)
  | [] => none

/-- A node selector: a pair with a key that is not empty. -/
def selector? (s : String) : Option (String × String) :=
  (splitPair? s).filter (·.1 ≠ "")

structure Config where
  backend : Backend := .docker
  kubeMode : KubeMode := .attached
  ns : String := "default"
  kubectlBin : String := "kubectl"
  dockerBin : String := "docker"
  workspaceRoot : String := "/tmp/syncrun/workspace"
  workspaceMount : String := "syncrun_workspace"
  dockerNetwork : String := "host"
  stagingDir : String := "/tmp/syncrun/staging"
  documentRoot : String := "/tmp/syncrun/documents"
  initImage : String := "busybox:1.35"
  socatImage : String := "alpine/socat:1.7.4.4-r0"
  curlImage : String := "curlimages/curl:7.87.0"
  imagePullPolicy : String := "IfNotPresent"
  socatInMainContainer : Bool := false
  relayHost : String := "127.0.0.1"
  relayPortStart : Nat := 9877
  relayPortCount : Nat := 40
  stdinRemotePort : Nat := 9001
  heartbeatPort : Nat := 9000
  heartbeatUrl : String := "http://127.0.0.1:9000"
  pollInterval : Duration := .ofSeconds 5
  initReadyTimeout : Duration := .ofSeconds 300
  oomLogLines : Nat := 5
  isolatedNodeSelector : Option (String × String) := none

namespace Config

def nameLimit (c : Config) : Nat :=
  match c.backend with
  | .docker => containerNameLimit
  | .kube => podNameLimit

def launcherName (c : Config) : String :=
  match c.backend, c.kubeMode with
  | .docker, _ => "docker"
  | .kube, .attached => "kube"
  | .kube, .detached => "kube-async"

/-- The pool of the ports that relays listen on; if none are set aside, the system chooses them. -/
def ports (c : Config) : PortPool :=
  if c.relayPortCount = 0 then .ephemeral else .range c.relayPortStart c.relayPortCount

def ofEnvironment (env : Environment) : Except ConfigError Config := do
  let d : Config := {}
  let backend ← env.parsed "SYNCRUN_BACKEND" Backend.ofName? d.backend
  let kubeMode ← env.parsed "SYNCRUN_KUBE_MODE" KubeMode.ofName? d.kubeMode
  let heartbeatPort ← env.number "SYNCRUN_HEARTBEAT_PORT" Environment.below16 d.heartbeatPort
  let relayHost := env.text "SYNCRUN_RELAY_HOST" d.relayHost
  let heartbeatUrl := env.text "SYNCRUN_HEARTBEAT_URL"
    ("http://" ++ relayHost ++ ":" ++ decimal heartbeatPort)
  let pollMillis ← env.number "SYNCRUN_POLL_INTERVAL_MS" Environment.below64 5000
  let initSeconds ← env.number "SYNCRUN_INIT_READY_TIMEOUT_SECS" Environment.below64 300
  let selector ← env.parsed "SYNCRUN_ISOLATED_NODE_SELECTOR" (fun s => (selector? s).map some) none
  let relayPortStart ← env.number "SYNCRUN_RELAY_PORT_START" Environment.below16 d.relayPortStart
  let relayPortCount ← env.number "SYNCRUN_RELAY_PORT_COUNT" Environment.below16 d.relayPortCount
  let stdinRemotePort ← env.number "SYNCRUN_STDIN_REMOTE_PORT" Environment.below16 d.stdinRemotePort
  let oomLogLines ← env.number "SYNCRUN_OOM_LOG_LINES" Environment.below64 d.oomLogLines
  return {
    backend, kubeMode, heartbeatPort, relayHost, heartbeatUrl, relayPortStart, relayPortCount,
    stdinRemotePort, oomLogLines
    ns := env.text "SYNCRUN_NAMESPACE" d.ns
    kubectlBin := env.text "SYNCRUN_KUBECTL_BIN" d.kubectlBin
    dockerBin := env.text "SYNCRUN_DOCKER_BIN" d.dockerBin
    workspaceRoot := env.text "SYNCRUN_WORKSPACE_ROOT" d.workspaceRoot
    workspaceMount := env.text "SYNCRUN_WORKSPACE_MOUNT" d.workspaceMount
    dockerNetwork := env.text "SYNCRUN_DOCKER_NETWORK" d.dockerNetwork
    stagingDir := env.text "SYNCRUN_STAGING_DIR" d.stagingDir
    documentRoot := env.text "SYNCRUN_DOC_STORE_ROOT" d.documentRoot
    initImage := env.text "SYNCRUN_INIT_IMAGE" d.initImage
    socatImage := env.text "SYNCRUN_SOCAT_IMAGE" d.socatImage
    curlImage := env.text "SYNCRUN_CURL_IMAGE" d.curlImage
    imagePullPolicy := env.text "SYNCRUN_IMAGE_PULL_POLICY" d.imagePullPolicy
    socatInMainContainer := env.switch "SYNCRUN_SOCAT_IN_MAIN_CONTAINER"
    pollInterval := .ofMillis pollMillis
    initReadyTimeout := .ofSeconds initSeconds
    isolatedNodeSelector := selector }

end Config

end ConnectorSync.Launch
