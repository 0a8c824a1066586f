import ConnectorSync.Cluster.Simulated
import ConnectorSync.Rehearsal.Report
import ConnectorSync.Rehearsal.Script

/-!
# Rehearsals of a simulated cluster

Requests to a cluster in memory, and events that happen to its pods.
-/

namespace ConnectorSync.Rehearsal

open Json Cluster

def simulatedCluster (v : Value) : Simulated where
  rejectsPods := text (part v "mode") = "rejecting"
  startsPods := text (part v "mode") ≠ "stalled"
  podIp := given (part v "pod_ip") text "127.0.0.1"

def podEvent? (v : Value) : Option Simulated.PodEvent :=
  let container (default : String) := given (part v "container") text default
  match text (part v "ev") with
  | "start_init" => some (.startInit (container "init"))
  | "set_phase" => some (.setPhase (Phase.ofName (text (part v "phase"))))
  | "terminate" =>
    some (.terminate (container "main") (integer (part v "code")) (text? (part v "reason")))
  | "remove_pod" => some .vanish
  | "set_logs" => some (.setLogs (container "main") (texts (part v "lines")))
  | "set_status" =>
    (PodStatus.ofPod (.object [("status", part v "status")])).toOption.map .setStatus
  | _ => none

/-- An event of a pod or of the cluster as a whole. -/
def clusterEvent (c : Simulated) (key : PodKey) (v : Value) : Simulated :=
  match podEvent? v with
  | some e => c.happen key e
  | none =>
    if text (part v "ev") = "fail_gets" then { c with failingReads := natural (part v "n") } else c

def tellCluster (c : Simulated) (rename : String → String) : Value :=
  .object [
    ("pods", tellAll ((c.pods.map fun p => rename p.1.name).mergeSort fun a b => a ≤ b)),
    ("deleted", tellAll (c.deleted.map fun k => rename k.name))]

/-- The files copied to a pod: each path with what was first copied to it. -/
def tellCopies (c : Simulated) (key : PodKey) : Value :=
  let paths := ((c.pod? key).map fun p => p.copies.map (·.path)).getD []
  .ofList (fun path => .array [tell path, .orNull ((c.copiedFile? key path).map tellBytes)]) paths

def clusterStep (c : Simulated) (v : Value) : Value × Simulated :=
  let ns := text (item v 1)
  let key : PodKey := ⟨ns, text (item v 2)⟩
  let complaining (r : Except Cluster.Error Unit × Simulated) : Value × Simulated :=
    (valueOr .ofCluster (r.1.map fun () => tell "ok"), r.2)
  match text (item v 0) with
  | "create" => complaining (c.create ns (item v 2))
  | "get" =>
    let (r, c) := c.read key
    (goodOr .ofCluster (fun p => .orNull (p.map tellPod)) r, c)
  | "delete" =>
    let (r, c) := c.delete key
    (.bool r, c)
  | "copy" => complaining (c.copy key ⟨text (item v 3), text (item v 4), bytes (item v 5)⟩)
  | "tail" => (tellAll (c.tail key (text (item v 3)) (natural (item v 4))), c)
  | "copies" => (tellCopies c key, c)
  | "copied_file" => (.orNull ((c.copiedFile? key (text (item v 3))).map tellBytes), c)
  | "manifest" => (.orNull ((c.pod? key).map (·.manifest)), c)
  | _ => (.bool true, clusterEvent c key (item v 3))

def rehearseCluster (v : Value) : Value :=
  let (reports, c) := (items (part v "steps")).foldl (fun (reports, c) st =>
    let (r, c) := clusterStep c st
    (r :: reports, c)) (([] : List Value), simulatedCluster (part v "cluster"))
  .object [("steps", .array reports.reverse), ("end", tellCluster c id)]

end ConnectorSync.Rehearsal
