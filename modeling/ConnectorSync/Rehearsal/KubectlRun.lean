import ConnectorSync.Cluster.Kubectl
import ConnectorSync.Rehearsal.CrewRun
import ConnectorSync.Rehearsal.Orders
import ConnectorSync.Rehearsal.ScriptedHost

/-!
# Rehearsals of the cluster's command-line client

Requests to a cluster whose client plays its part.
-/

namespace ConnectorSync.Rehearsal

open Json Cluster

def stagedMark : String := "<staged>"

def hideStaged (staged : Option String) : Cluster.Error → Cluster.Error
  | .command line status stderr =>
    .command ((staged.map fun path => line.replace path stagedMark).getD line) status stderr
  | e => e

/-- A request by the client, and what is told of its result. -/
def kubectlRequest (k : Kubectl) (v : Value) : Host.Talk (Except Cluster.Error Value) := do
  let key : PodKey := ⟨text (item v 1), text (item v 2)⟩
  match text (item v 0) with
  | "create" => return (← k.create key.ns (item v 2)).map fun () => .null
  | "get" => return (← k.read key).map fun p => .orNull (p.map tellPod)
  | "delete" => return (← k.delete key).map .bool
  | "copy" =>
    return (← k.copy key ⟨text (item v 3), text (item v 4), bytes (item v 5)⟩).map fun () => .null
  | _ => return (← k.tail key (text (item v 3)) (natural (item v 4))).map tellAll

def kubectlStep (k : Kubectl) (s : Stage ScriptedHost Unit) (v : Value) :
    Value × Stage ScriptedHost Unit :=
  let before := s.world.calls.length
  let (r, s) := s.perform ((kubectlRequest k v).perform ScriptedHost.answer) longestQuestion
  let staged := (s.world.calls.drop before).findSome? fun c =>
    match c.key, c.args with
    | "cp", _ :: source :: _ => some source
    | _, _ => none
  let told := orHang (r.map fun r => goodOr .ofCluster id (r.mapError (hideStaged staged)))
  let left := (s.world.files.below ["staging"]).filter fun (_, e) => e != .directory
  (.object [("r", told), ("calls", .array (s.world.tellCalls stagingDir before)),
    ("staged_left", .nat left.length)], s)

def rehearseKubectl (v : Value) : Value :=
  let k : Kubectl := ⟨given (part v "binary") text "kubectl", stagingDir⟩
  let host : ScriptedHost := { responses := responses (part v "responses") }
  let (reports, _) := (items (part v "steps")).foldl (fun (reports, s) st =>
    let (r, s) := kubectlStep k s st
    (r :: reports, s)) (([] : List Value), ({ world := host } : Stage ScriptedHost Unit))
  .array reports.reverse

end ConnectorSync.Rehearsal
