import ConnectorSync.Cluster.Request

/-!
# Simulated clusters

A cluster that keeps its pods in memory. Pods start at once, or stay pending until they are told
otherwise; requests can be made to fail.
-/

namespace ConnectorSync.Cluster

open Json

/-- A pod of a simulated cluster. -/
structure SimulatedPod where
  manifest : Value
  status : PodStatus
  logs : List (String × List String) := []
  copies : List CopiedFile := []

structure Simulated where
  pods : List (PodKey × SimulatedPod) := []
  deleted : List PodKey := []
  failingReads : Nat := 0
  rejectsPods : Bool := false
  startsPods : Bool := true
  podIp : String := "127.0.0.1"

namespace Simulated

def pod? (c : Simulated) (key : PodKey) : Option SimulatedPod :=
  (c.pods.find? (·.1 = key)).map (·.2)

def modify (c : Simulated) (key : PodKey) (f : SimulatedPod → SimulatedPod) : Simulated :=
  { c with pods := c.pods.map fun (k, p) => if k = key then (k, f p) else (k, p) }

/-- The cluster without a pod. -/
def remove (c : Simulated) (key : PodKey) : Simulated :=
  { c with pods := c.pods.filter (·.1 ≠ key) }

def containerNames (manifest : Value) (list : String) : List String :=
  match (manifest.member? "spec").bind (·.member? list) with
  | some (.array containers) => containers.filterMap fun c =>
    match c.member? "name" with
    | some (.string name) => some name
    | _ => none
  | _ => []

def startedStatus (c : Simulated) (manifest : Value) : PodStatus where
  phase := .running
  podIp := some c.podIp
  initContainers := (containerNames manifest "initContainers").map fun name =>
    { name, running := true }
  containers := (containerNames manifest "containers").map fun name =>
    { name, running := true, ready := true }

def nameOf? (manifest : Value) : Option String :=
  match (manifest.member? "metadata").bind (·.member? "name") with
  | some (.string name) => some name
  | _ => none

/-! ### Requests -/

def create (c : Simulated) (ns : String) (manifest : Value) : Except Error Unit × Simulated :=
  if c.rejectsPods then (.error (.rejected "admission denied"), c)
  else match nameOf? manifest with
    | none => (.error (.rejected "manifest has no name"), c)
    | some name =>
      let key : PodKey := ⟨ns, name⟩
      if (c.pod? key).isSome then (.error (.rejected ("pod " ++ name ++ " already exists")), c)
      else
        let status := if c.startsPods then c.startedStatus manifest else {}
        (.ok (), { c with pods := c.pods ++ [(key, { manifest, status })] })

def read (c : Simulated) (key : PodKey) : Except Error (Option PodStatus) × Simulated :=
  match c.failingReads with
  | left + 1 => (.error (.rejected "api server unavailable"), { c with failingReads := left })
  | 0 => (.ok ((c.pod? key).map (·.status)), c)

/-- A pod deleted; answers whether it was there. -/
def delete (c : Simulated) (key : PodKey) : Bool × Simulated :=
  if (c.pod? key).isSome then (true, { c.remove key with deleted := c.deleted ++ [key] })
  else (false, c)

def copy (c : Simulated) (key : PodKey) (file : CopiedFile) : Except Error Unit × Simulated :=
  if (c.pod? key).isSome then
    (.ok (), c.modify key fun p => { p with copies := p.copies ++ [file] })
  else (.error (.rejected ("pod " ++ key.name ++ " not found")), c)

def tail (c : Simulated) (key : PodKey) (container : String) (count : Nat) : List String :=
  let lines := ((c.pod? key).bind fun p =>
    (p.logs.find? (·.1 = container)).map (·.2)).getD []
  lines.drop (lines.length - count)

def copiedFile? (c : Simulated) (key : PodKey) (path : String) : Option Bytes :=
  (c.pod? key).bind fun p => (p.copies.find? (·.path = path)).map (·.contents)

def answer (c : Simulated) : (r : Request) → r.Answer × Simulated
  | .create ns manifest => c.create ns manifest
  | .read key => c.read key
  | .delete key =>
    let (deleted, c) := c.delete key
    (.ok deleted, c)
  | .copy key file => c.copy key file
  | .tail key container count => (.ok (c.tail key container count), c)

/-! ### Events -/

/-- What can happen to a pod by itself. -/
inductive PodEvent
  | startInit (container : String)
  | setPhase (phase : Phase)
  | terminate (container : String) (code : Int) (reason : Option String)
  | vanish
  | setLogs (container : String) (lines : List String)
  | setStatus (status : PodStatus)

/-- A container that has ended, in place of the one of its name or after the others. -/
def endContainer (ended : ContainerStatus) : List ContainerStatus → List ContainerStatus
  | [] => [ended]
  | c :: rest => if c.name = ended.name then ended :: rest else c :: endContainer ended rest

def happen (c : Simulated) (key : PodKey) : PodEvent → Simulated
  | .startInit container => c.modify key fun p =>
    { p with status := { p.status with initContainers := [{ name := container, running := true }] } }
  | .setPhase phase => c.modify key fun p => { p with status := { p.status with phase } }
  | .terminate container code reason => c.modify key fun p =>
    { p with status := { p.status with
        containers := endContainer { name := container, exitCode := some code, reason }
          p.status.containers
        phase := if code = 0 then .succeeded else .failed } }
  | .vanish => c.remove key
  | .setLogs container lines => c.modify key fun p =>
    { p with logs := (container, lines) :: p.logs.filter (·.1 ≠ container) }
  | .setStatus status => c.modify key fun p => { p with status }

end Simulated

end ConnectorSync.Cluster
