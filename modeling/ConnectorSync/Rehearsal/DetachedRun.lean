import ConnectorSync.Rehearsal.PodStage
import ConnectorSync.Workload.Pod.Detached

/-!
# Rehearsals of a detached pod

A detached pod is launched or attached to, and its keeper is asked one question after the other
while events happen.
-/

namespace ConnectorSync.Rehearsal

open Json Cluster Workload Workload.Pod

/-- A question to the keeper of a detached pod, or something that happens. -/
def detachedStep (p : Detached) (s : PodStage) (v : Value) : Value × PodStage :=
  let complaining {α : Type} (f : α → Value) (r : Option (Except Workload.Error α) × PodStage) :
      Value × PodStage := (goodOrHang .ofWorkload f r.1, r.2)
  match text (item v 0) with
  | "exit_value" => complaining .int (s.talk p.exitValue)
  | "has_exited" =>
    let (r, s) := s.talk p.exitValue
    (.bool (isGood r), s)
  | "wait_for" => complaining .int (s.converse p.waitFor (.begun Detached.longestWait))
  | "wait_for_timeout" =>
    let (found, s) := s.converse p.awaitExit (.begun (duration (item v 1)))
    (orHang (found.map fun found => good (.bool found)), s)
  | "destroy" =>
    let (_, s) := s.talk p.destroy
    (good .null, s)
  | "output" => complaining tellOr (s.talk p.output)
  | "info" => (tell p.info.encode.render, s)
  | "workload_id" => (tell p.workloadId, s)
  | "doc_status" =>
    let (r, s) := s.talk p.status
    (orHang (r.map fun r => valueOr .ofWorkload (r.map fun status => tell status.name)), s)
  | "event" => (.bool true, (s.mapWorld fun w => w.happen p.key (item v 1)).settle)
  | "doc_faults" => (.null, s.addDocumentMishaps (item v 1))
  | "sleep" => (.null, s.advance (restTicks (duration (item v 1))))
  | "take_stdin" => (.bool false, s)
  | _ => (.null, s)

def rehearseDetached (v : Value) : Value :=
  let config := launchConfig (part v "config")
  let name := text (part v "name")
  let key : PodKey := ⟨config.ns, name⟩
  let stage := PodStage.schedule { world := podWorld v } key (items (part v "events"))
  let report (answer : Value) (p : Option Detached) (s : PodStage) : Value :=
    let s := s.settle
    let create : Value :=
      .object [("r", answer), ("t", .nat s.clock), ("copies", tellPodCopies s key)]
    let steps := if p.isSome then items (part v "steps") else []
    let (reports, s) := steps.foldl (fun (reports, s) st =>
      match p with
      | none => (reports, s)
      | some p =>
        let (r, s) := detachedStep p s st
        let s := s.settle
        (Value.object [("r", r), ("t", .nat s.clock)] :: reports, s)) (([] : List Value), s)
    s.tellUnlessHalted <| .object [("create", create), ("steps", .array reports.reverse),
      ("end", tellCluster s.world.cluster id)]
  match part v "attach" with
  | .null => valueOr (.ofJson "Json") do
    let d ← descriptor (part v "descriptor")
    return match stage.converse (Detached.create config d name) .asked with
    | (some (.ok p), s) => report (tell "ok") p s
    | (some (.error e), s) => report (Complaint.ofLaunch e).report none s
    | (none, s) => report (tell "hang") none s
  | attach =>
    report (tell "attached")
      (Detached.attach config name (text (part attach "image")) (text (part attach "workload_id")))
      stage

end ConnectorSync.Rehearsal
