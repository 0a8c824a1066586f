import ConnectorSync.Environment.SettingsFile
import ConnectorSync.Launcher.Run
import ConnectorSync.Orchestrator.Plan

/-!
# Command line

Reads the environment and the files that a call names, and tells how the call ends. The first
argument `orchestrate` asks for the orchestrator, anything else for the launcher. Nothing here can
start a command of the host, so a launch is refused.
-/

namespace ConnectorSync.CommandLine

def settingNames : List String :=
  ["BACKEND", "KUBE_MODE", "NAMESPACE", "KUBECTL_BIN", "DOCKER_BIN", "WORKSPACE_ROOT",
    "WORKSPACE_MOUNT", "DOCKER_NETWORK", "STAGING_DIR", "DOC_STORE_ROOT", "INIT_IMAGE",
    "SOCAT_IMAGE", "CURL_IMAGE", "IMAGE_PULL_POLICY", "SOCAT_IN_MAIN_CONTAINER", "RELAY_HOST",
    "RELAY_PORT_START", "RELAY_PORT_COUNT", "STDIN_REMOTE_PORT", "HEARTBEAT_PORT", "HEARTBEAT_URL",
    "POLL_INTERVAL_MS", "INIT_READY_TIMEOUT_SECS", "OOM_LOG_LINES", "ISOLATED_NODE_SELECTOR",
    "WORKFLOW_DELAY_SECS", "ACTIVITY_MAX_ATTEMPTS", "ACTIVITY_INITIAL_INTERVAL_MS",
    "ACTIVITY_MAX_INTERVAL_MS", "DEFAULT_MAX_ATTEMPTS", "CONNECTION_FILE", "SYNC_INTERVAL_SECS",
    "RUN_ON_START"].map ("SYNCRUN_" ++ ·)

def readEnvironment : IO Environment := do
  let settings ← settingNames.filterMapM fun name => do
    return (← IO.getEnv name).map fun value => (name, Text.bytes value)
  return ⟨.ofList settings⟩

/-- The tree with a file as it is on the host, if it can be read. -/
def addFile (tree : Files.Tree) (path : String) : IO Files.Tree := do
  try
    let contents ← IO.FS.readBinFile path
    match tree.resolve path with
    | .ok (place, _) => return tree.seed place contents.toList
    | .error _ => return tree
  catch _ => return tree

def readFiles (paths : List String) : IO Files.Tree := paths.foldlM addFile {}

/-- The environment with the settings of a file in the working directory, unless one of them cannot
be made. -/
def withSettingsFile (env : Environment) : IO (Option Environment) := do
  match (← readFiles [".env"]).readFile ".env" with
  | .ok file => return env.withSettings file
  | .error _ => return some env

def refusal : String := "commands cannot be started from here"

def answer : (r : Launcher.Request) → IO r.Answer
  | .launch _ => return .error (.startFailed refusal)
  | .awaitEnd => return some (.error .notTerminated)
  | .waitFor => return .error .notTerminated
  | .output => return .ok none
  | .passOutput | .passInput | .destroy => return

def tellFailure (message : String) : IO UInt32 := do
  IO.eprintln ("Error: " ++ message)
  return UInt32.ofNat Launcher.failureStatus

def inputPaths (args : List String) : List String :=
  match Launcher.Arguments.read args with
  | .ok a => [a.config, a.catalog, a.state].filterMap id
  | .error _ => []

def launcher (env : Environment) (args : List String) : IO UInt32 := do
  let files ← readFiles (inputPaths args)
  let conclusion ← (Launcher.call env files args).perform answer
  IO.print conclusion.stdout
  match conclusion.failure with
  | some failure => tellFailure failure.message
  | none => return UInt32.ofNat conclusion.status

def orchestrator (env : Environment) : IO UInt32 := do
  let files ← readFiles (env.get? "SYNCRUN_CONNECTION_FILE").toList
  match Orchestrator.plan env files with
  | .error failure => tellFailure failure.message
  | .ok _ => tellFailure refusal

end ConnectorSync.CommandLine

def main (args : List String) : IO UInt32 := do
  let env? ← ConnectorSync.CommandLine.withSettingsFile
    (← ConnectorSync.CommandLine.readEnvironment)
  match env?, args with
  | none, _ => return UInt32.ofNat ConnectorSync.Launcher.breakdownStatus
  | some env, "orchestrate" :: _ => ConnectorSync.CommandLine.orchestrator env
  | some env, args => ConnectorSync.CommandLine.launcher env args
