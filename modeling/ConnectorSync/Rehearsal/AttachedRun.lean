import ConnectorSync.Rehearsal.PodStage
import ConnectorSync.Workload.Pod.Attached
import ConnectorSync.Workload.Pod.Watch

/-!
# Rehearsals of an attached pod

An attached pod is launched, and its keeper is asked one question after the other while events
happen and the watch goes on.
-/

namespace ConnectorSync.Rehearsal

open Json Cluster Workload Workload.Pod

/-- How many ticks pass after each step: enough for the watch to take note of what happened. -/
def breath : Nat := 50

/-- A question to the keeper of an attached pod, or something that happens. -/
def attachedStep (p : Attached) (s : PodStage) (v : Value) : Value × PodStage :=
  match text (item v 0) with
  | "exit_value" =>
    let (r, s) := s.talk p.exitValue
    (goodOrHang .ofWorkload .int r, s)
  | "has_exited" =>
    let (r, s) := s.talk p.exitValue
    (.bool (isGood r), s)
  | "wait_for" =>
    let (code, s) := s.talk (p.waitFor none)
    (orHang (code.join.map fun code => good (.int code)), s)
  | "wait_for_timeout" =>
    let (code, s) := s.talk (p.waitFor (some (duration (item v 1))))
    (orHang (code.map fun code => good (.bool code.isSome)), s)
  | "destroy" =>
    let (_, s) := s.talk p.destroy
    (good .null, s)
  | "close" =>
    let (first, s) := s.talk p.close
    (orHang (first.map .bool), s)
  | "output" => (good .null, s)
  | "info" => (tell p.info.encode.render, s)
  | "event" => (.bool true, s.mapWorld fun w => w.happen p.key (item v 1))
  | "sleep" => (.null, s.advance (duration (item v 1)).ticks)
  | "take_stdin" =>
    let (taken, s) := s.talk (ask .takeStdin)
    (orHang (taken.map .bool), s)
  | "read_stdout" =>
    let (_, s) := s.talk (ask (.takeStream .stdout))
    (.null, s)
  | "read_stderr" =>
    let (_, s) := s.talk (ask (.takeStream .stderr))
    (.null, s)
  | "connect_stdout" | "connect_stderr" => (.bool false, s)
  | _ => (.null, s)

/-- The scripts of a pod's containers: each name with the third word of its command. -/
def tellScripts (manifest : Value) : Value :=
  .ofList (fun c => .array [part c "name", item (part c "command") 2])
    (items (part (part manifest "spec") "containers"))

/-- What happened before a pod was launched: events, and the same pod created already. -/
def happenBefore (key : PodKey) (w : PodWorld) (event : Value) : PodWorld :=
  if text (part event "ev") = "create" then
    let manifest : Value := .object [("metadata", .object [("name", tell key.name)])]
    { w with cluster := (w.cluster.create key.ns manifest).2 }
  else w.happen key event

def attachedWorld (v : Value) (key : PodKey) : PodWorld :=
  let w := { podWorld v with ports := {
    pool := .bounded ((items (part v "ports")).map natural)
    busy := (items (part v "busy")).map natural } }
  (items (part v "before")).foldl (happenBefore key) w

def rehearseAttached (v : Value) : Value := valueOr (.ofJson "Json") do
  let config := launchConfig (part v "config")
  let name := text (part v "name")
  let key : PodKey := ⟨config.ns, name⟩
  let d ← descriptor (part v "descriptor")
  let stage := PodStage.schedule { world := attachedWorld v key } key (items (part v "events"))
  let stage := PodStage.beside stage (fun w => w.keeper.isWatched)
    (watch key config.pollInterval config.oomLogLines)
  let (launched, stage) := PodStage.converse stage (Attached.create config d name) .asked
  let stage := stage.settle
  let free (s : PodStage) : Value := .nat s.world.ports.pool.available
  let ports (ps : List Nat) : Value := .ofList .nat ps
  let (answer, p) := match launched with
    | some (.ok p) => (tell "ok", some p)
    | some (.error e) => ((Complaint.ofLaunch e).report, none)
    | none => (tell "hang", none)
  let scripts := (stage.world.cluster.pod? key).map fun pod => tellScripts pod.manifest
  let relay := p.map fun p => ("relay", ports [p.relay.stdout, p.relay.stderr])
  let create : Value := .object ([("r", answer), ("copies", tellPodCopies stage key),
    ("available", free stage), ("scripts", .orNull scripts)] ++ relay.toList)
  let steps := if p.isSome then items (part v "steps") else []
  let (reports, stage) := steps.foldl (fun (reports, s) st =>
    match p with
    | none => (reports, s)
    | some p =>
      let (r, s) := attachedStep p s st
      let s := s.advance breath
      (Value.object [("r", r), ("closed", .bool s.world.keeper.isReleased), ("available", free s)]
        :: reports, s)) (([] : List Value), stage)
  return stage.tellUnlessHalted <| .object [("create", create), ("steps", .array reports.reverse),
    ("end", .object (members (tellCluster stage.world.cluster id) ++
      [("pool", ports stage.world.ports.pool.free)]))]

end ConnectorSync.Rehearsal
