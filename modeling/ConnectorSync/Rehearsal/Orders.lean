import ConnectorSync.Error
import ConnectorSync.Files.Tree
import ConnectorSync.Launch.Pod
import ConnectorSync.Rehearsal.Script

/-!
# Scripted orders, settings and errors

The parts of scripts that say what is launched, under which settings, and what goes wrong.
-/

namespace ConnectorSync.Rehearsal

open Json

def resources (v : Value) : Launch.Resources :=
  let amount (name : String) := text? (part v name)
  ⟨amount "cpu_request", amount "cpu_limit", amount "memory_request", amount "memory_limit"⟩

def addToOrder (o : Launch.Order) (call : Value) : Launch.Order :=
  let first := item call 1
  let second := text (item call 2)
  match text (item call 0) with
  | "config" => { o with config := some (text first) }
  | "catalog" => { o with catalog := some (text first) }
  | "state" => { o with state := some (text first) }
  | "arg" => { o with extraArgs := o.extraArgs ++ [text first] }
  | "file" => { o with files := o.files.insert (text first) second }
  | "env" => { o with env := o.env.insert (text first) second }
  | "resources" => { o with resources := resources first }
  | "allowed_hosts" => { o with allowedHosts := texts first }
  | "isolated" => { o with isolated := truth first }
  | "connection_id" => { o with connectionId := some (uuid first) }
  | "workspace_id" => { o with workspaceId := some (uuid first) }
  | _ => o

/-- A descriptor: in its written form, or as an order. -/
def descriptor (v : Value) : Except Json.Fault Launch.Descriptor :=
  match part v "json" with
  | .string written => Json.read Launch.Descriptor.decoder written
  | _ =>
    let order : Launch.Order := {
      image := text (part v "image")
      step := step (part v "step")
      jobId := text (part v "job_id")
      attempt := natural (part v "attempt") }
    .ok ((items (part v "calls")).foldl addToOrder order).descriptor

def launchConfig (v : Value) : Launch.Config :=
  let d : Launch.Config := {}
  let word (name default : String) := given (part v name) text default
  let number (name : String) (default : Nat) := given (part v name) natural default
  { backend := ((text? (part v "backend")).bind Launch.Backend.ofName?).getD d.backend
    kubeMode := ((text? (part v "kube_mode")).bind Launch.KubeMode.ofName?).getD d.kubeMode
    ns := word "namespace" d.ns
    kubectlBin := word "kubectl_bin" d.kubectlBin
    dockerBin := word "docker_bin" d.dockerBin
    workspaceRoot := word "workspace_root" d.workspaceRoot
    workspaceMount := word "workspace_mount" d.workspaceMount
    dockerNetwork := word "docker_network" d.dockerNetwork
    stagingDir := word "staging_dir" d.stagingDir
    documentRoot := word "doc_store_root" d.documentRoot
    initImage := word "init_image" d.initImage
    socatImage := word "socat_image" d.socatImage
    curlImage := word "curl_image" d.curlImage
    imagePullPolicy := word "image_pull_policy" d.imagePullPolicy
    socatInMainContainer := given (part v "socat_in_main_container") truth d.socatInMainContainer
    relayHost := word "relay_host" d.relayHost
    relayPortStart := number "relay_port_start" d.relayPortStart
    relayPortCount := number "relay_port_count" d.relayPortCount
    stdinRemotePort := number "stdin_remote_port" d.stdinRemotePort
    heartbeatPort := number "heartbeat_port" d.heartbeatPort
    heartbeatUrl := word "heartbeat_url" d.heartbeatUrl
    pollInterval := durationOr v "poll_interval_ms" d.pollInterval
    initReadyTimeout := durationOr v "init_ready_timeout_ms" d.initReadyTimeout
    oomLogLines := number "oom_log_lines" d.oomLogLines
    isolatedNodeSelector := given (part v "isolated_node_selector")
      (fun pair => some (text (item pair 0), text (item pair 1))) d.isolatedNodeSelector }

def environment (v : Value) : Environment :=
  ⟨.ofList ((members v).map fun (name, value) => (name, bytes value))⟩

/-- The fault of an object that breaks off after its opening brace. -/
def brokenOff : Json.Fault := ⟨.endInObject, some ⟨1, 1⟩⟩

def clusterError (v : Value) : Cluster.Error :=
  let message := text (part v "message")
  match text (part v "error") with
  | "command" =>
    .command (given (part v "command") text "kubectl") (given (part v "status") integer 1) message
  | "io" => .io (.other message)
  | "json" => .json brokenOff
  | _ => .rejected message

def launchError (v : Value) : Launch.Error :=
  let message := text (part v "message")
  match text (part v "error") with
  | "image_not_found" => .imageNotFound message
  | "pod_rejected" => .podRejected message
  | "no_ports" => .noPortsAvailable
  | "init_timeout" => .initTimeout message (natural (part v "secs"))
  | "terminated" => .terminatedDuringStartup message
  | "start_failed" => .startFailed message
  | _ => .cluster (clusterError (part v "cause"))

def documentsError (v : Value) : Documents.Error :=
  match text (part v "error") with
  | "json" => .json brokenOff
  | _ => .invalidKey (text (part v "message"))

def workloadError (v : Value) : Workload.Error :=
  match text (part v "error") with
  | "timeout" => .timeout
  | "cluster" => .cluster (clusterError (part v "cause"))
  | "invalid_key" => .documents (.invalidKey (text (part v "message")))
  | _ => .notTerminated

def activityError (v : Value) : Sync.ActivityError :=
  let message := text (part v "message")
  match text (part v "error") with
  | "not_found" => .notFound message
  | "launch" => .launch (launchError (part v "cause"))
  | "process" => .process (workloadError (part v "cause"))
  | _ => .unavailable message

/-- Files below a directory, which is there even without any. -/
def filesBelow (root : Files.Place) (files : Value) : Files.Tree :=
  let base : Files.Tree := (List.range root.length).foldl
    (fun t n => t.put (root.take (n + 1)) .directory) {}
  (members files).foldl (fun t (path, contents) =>
    let names := ((Files.splitSlashes path.toList).map String.ofList).filter (· ≠ "")
    t.seed (root ++ names) (bytes contents)) base

end ConnectorSync.Rehearsal
