import ConnectorSync.Cluster.Kubectl
import ConnectorSync.Documents.Store
import ConnectorSync.Environment.SettingsFile
import ConnectorSync.Rehearsal.CrewRun
import ConnectorSync.Rehearsal.Keeper
import ConnectorSync.Rehearsal.ScriptedHost
import ConnectorSync.Workload.Kept
import ConnectorSync.Workload.Pod.Watch

/-!
# Machines

A host that plays its part with keepers for the workloads that are launched from it: containers by
its docker client, pods by its kubectl client, documents in one of its directories.
-/

namespace ConnectorSync.Rehearsal

open Json Launch Workload

/-- A host with the keepers of its workloads and the ports that they share. -/
structure Machine where
  host : ScriptedHost
  ports : Ports := {}
  keepers : List Keeper := []
  /-- The names of the workloads, by the numbers of their keepers. -/
  names : List String := []

namespace Machine

def hostPart : Part Machine ScriptedHost := ⟨host, fun host m => { m with host }⟩

def portsPart : Part Machine Ports := ⟨ports, fun ports m => { m with ports }⟩

def keeperPart (n : Nat) : Part Machine Keeper where
  get m := m.keepers[n]?.getD {}
  set k m := { m with keepers := m.keepers.set n k }

def askHost (r : Host.Request) : Play Machine r.Answer :=
  Play.within hostPart (ScriptedHost.answer r)

def askDocuments {α : Type} (read : Files.Tree → α) : Play Machine α := do
  return read (← Play.look).2.host.files

def containerHouse (n : Nat) : ContainerHouse Machine where
  keeper := keeperPart n
  host := askHost

def podHouse (config : Config) (n : Nat) : PodHouse Machine where
  keeper := keeperPart n
  ports := portsPart
  cluster r := ((⟨config.kubectlBin, config.stagingDir⟩ : Cluster.Kubectl).answer r).perform askHost
  document key := askDocuments fun files => (⟨config.documentRoot⟩ : Documents.Folder).read files key
  output id := askDocuments fun files => (⟨config.documentRoot⟩ : Documents.Folder).output files id

def answer (config : Config) (n : Nat) : (r : Kept.Request) → Play Machine r.Answer
  | .container r => (containerHouse n).answer r
  | .pod r => (podHouse config n).answer r

/-- How often a keeper looks at a workload before it gives up. -/
def longestTalk : Nat := 10000000

/-- Talk of a keeper without a bound, or a result in place of talk that is too long. -/
def converse {σ α : Type} (config : Config) (n : Nat) (turns : Kept.Turns σ α) (start : σ)
    (otherwise : α) : Play Machine α := do
  let result ← Play.repeated (fun s => (turns s).perform (answer config n)) longestTalk start
  return result.getD otherwise

/-! ### Workloads -/

structure Placed where
  keeper : Nat
  kept : Kept

def launch (config : Config) (d : Descriptor) : Play Machine (Except Launch.Error Placed) := do
  let (n, name) ← Play.update fun _ m =>
    let n := m.keepers.length
    let name := d.processName (suffixOf n) config.nameLimit
    ((n, name), { m with keepers := m.keepers ++ [{}], names := m.names ++ [name] })
  let result ← converse config n (Kept.launch config d name) (.first config)
    (.error (.initTimeout name config.initReadyTimeout.seconds))
  return result.map (⟨n, ·⟩)

def waitFor (config : Config) (w : Placed) : Play Machine (Except Workload.Error Int) :=
  converse config w.keeper w.kept.waitFor Kept.openWait (.error .timeout)

def destroy (config : Config) (w : Placed) : Play Machine Unit :=
  w.kept.destroy.perform (answer config w.keeper)

def output (config : Config) (w : Placed) :
    Play Machine (Except Workload.Error (Option String)) :=
  w.kept.output.perform (answer config w.keeper)

/-- The standard input of a workload is taken; answers whether there was one. -/
def takeStdin (config : Config) (w : Placed) : Play Machine Bool :=
  match w.kept with
  | .container c => Play.within hostPart (Play.update fun _ h => h.takeInput c.child)
  | .attached _ => answer config w.keeper (.pod .takeStdin)
  | .detached _ => return false

/-- An output stream of a workload is taken; answers whether there was one. -/
def takeStream (config : Config) (w : Placed) (stream : Pod.Stream) : Play Machine Bool :=
  match w.kept with
  | .container _ => return true
  | .attached _ => answer config w.keeper (.pod (.takeStream stream))
  | .detached _ => return false

def feed (w : Placed) (bs : Bytes) : Play Machine Unit :=
  match w.kept with
  | .container c => Play.within hostPart (Play.update fun _ h => ((), h.feed c.child bs))
  | _ => return

def closeStdin (w : Placed) : Play Machine Unit :=
  match w.kept with
  | .container c => Play.within hostPart (Play.update fun clock h => ((), h.closeInput c.child clock))
  | _ => return

/-! ### Watches -/

/-- The watch that the keeper of a number may set, which begins when it is set. -/
def watch (config : Config) (n : Nat) : Turn Machine Nat Unit := fun failed => do
  let isSet (m : Machine) : Bool := (m.keepers[n]?).any (·.isWatched)
  let (_, m) ← Play.look
  if ! isSet m then
    Play.rest (fun _ _ => none) isSet
  let (_, m) ← Play.look
  match m.names[n]? with
  | some name =>
    (Pod.watch ⟨config.ns, name⟩ config.pollInterval config.oomLogLines failed).perform fun r =>
      answer config n (.pod r)
  | none => return .inr ()

end Machine

def workingDirectory : Files.Place := ["work"]

/-- A machine from its script: files in the working directory, and how commands behave. -/
def machine (v : Value) : Machine where
  host := {
    files := { filesBelow workingDirectory (part v "files") with workingDirectory }
    responses := responses (part v "responses") }

def baseSettings : List (String × String) :=
  [("SYNCRUN_WORKSPACE_ROOT", "ws"), ("SYNCRUN_STAGING_DIR", "staging"),
    ("SYNCRUN_DOC_STORE_ROOT", "docs"), ("SYNCRUN_POLL_INTERVAL_MS", "20"),
    ("SYNCRUN_HEARTBEAT_PORT", "0"), ("SYNCRUN_RELAY_PORT_COUNT", "0")]

/-- An environment from its script, over the settings that programs have in rehearsals, unless the
settings file breaks the program down. -/
def programEnvironment (v : Value) (files : Files.Tree) : Option Environment :=
  let settings := baseSettings.map (fun (name, value) => (name, Text.bytes value)) ++
    (members v).map (fun (name, value) => (name, bytes value))
  let env : Environment := ⟨.ofList settings⟩
  match files.readFile ".env" with
  | .ok file => env.withSettings file
  | .error _ => some env

def sharedPorts (config : Config) : Ports where
  pool := config.ports

end ConnectorSync.Rehearsal
