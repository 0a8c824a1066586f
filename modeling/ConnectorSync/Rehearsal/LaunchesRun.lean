import ConnectorSync.Rehearsal.PodStage
import ConnectorSync.Workload.Pod.Attached
import ConnectorSync.Workload.Pod.Detached

/-!
# Rehearsals of launches into a cluster

One connector after the other is launched as a pod of the same cluster, under a generated name.
-/

namespace ConnectorSync.Rehearsal

open Json Cluster Launch Workload.Pod

/-- A launch of a connector as a pod; answers the pod's identity. -/
def launchPod (s : PodStage) (config : Config) (d : Descriptor) (name : String) :
    Except Launch.Error Workload.Info × PodStage :=
  let unlessHung {α : Type} (r : Option (Except Launch.Error α)) (f : α → Workload.Info) :=
    (r.getD (.error (.startFailed "hang"))).map f
  match config.kubeMode with
  | .attached =>
    let (r, s) := s.converse (Attached.create config d name) .asked
    (unlessHung r Attached.info, s)
  | .detached =>
    let (r, s) := s.converse (Detached.create config d name) .asked
    (unlessHung r Detached.info, s)

def tellLaunch (c : Simulated) (d : Descriptor) (info : Workload.Info) (key : PodKey) : Value :=
  let manifest := ((c.pod? key).map (·.manifest)).getD .null
  mapTexts (hideNames [info.name]) <| .object
    [("info", tell info.encode.render), ("len", .nat info.name.length),
      ("copies", tellCopies c key), ("metadata", part manifest "metadata"),
      ("workload_id", tell d.workloadId)]

def rehearseLaunches (v : Value) : Value :=
  let base := launchConfig (part v "config")
  let kubeMode : KubeMode := if text (part v "kind") = "async" then .detached else .attached
  let config := { base with backend := .kube, kubeMode }
  let (reports, last) := (items (part v "descriptors")).zipIdx.foldl (fun (reports, last) (dv, n) =>
    match descriptor dv with
    | .error fault => ((Complaint.ofJson "Json" fault).report :: reports, last)
    | .ok d =>
      let name := d.processName (suffixOf n) podNameLimit
      let world : PodWorld := { cluster := last.world.cluster }
      let (r, s) := launchPod { world, isHalted := last.isHalted } config d name
      let report := match r with
        | .ok info => tellLaunch s.world.cluster d info ⟨config.ns, name⟩
        | .error e => { Complaint.ofLaunch e with text := none }.report
      (report :: reports, s))
    (([] : List Value), ({ world := { cluster := simulatedCluster (part v "cluster") } } : PodStage))
  let cluster := last.world.cluster
  last.tellUnlessHalted <| .object [("backend", tell config.launcherName), ("created", .array reports.reverse),
    ("deleted", .nat cluster.deleted.length), ("pods", .nat cluster.pods.length)]

end ConnectorSync.Rehearsal
