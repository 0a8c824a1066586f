import ConnectorSync.Documents.Store
import ConnectorSync.Rehearsal.ClusterRun
import ConnectorSync.Rehearsal.CrewRun
import ConnectorSync.Rehearsal.Keeper
import ConnectorSync.Rehearsal.Mishaps

/-!
# Stages for the keepers of pods

The surroundings of one pod's keeper: a simulated cluster, documents in memory, a pool of ports, and
events that happen at their times.
-/

namespace ConnectorSync.Rehearsal

open Json Cluster Documents Launch Workload

/-- The surroundings of a pod's keeper. -/
structure PodWorld where
  cluster : Simulated
  clusterMishaps : Mishaps Cluster.Error := []
  shelf : Shelf := {}
  documentMishaps : Mishaps Documents.Error := []
  ports : Ports := {}
  keeper : Keeper := {}

abbrev PodStage := Stage PodWorld Nat

namespace PodWorld

def callName : Cluster.Request → String
  | .create .. => "create"
  | .read _ => "get"
  | .delete _ => "delete"
  | .copy .. => "copy"
  | .tail .. => "logs"

/-- A request to the cluster, unless a mishap comes first. -/
def answerCluster (w : PodWorld) (r : Cluster.Request) : r.Answer × PodWorld :=
  let (mishap, left) := w.clusterMishaps.take (callName r)
  let w := { w with clusterMishaps := left }
  match mishap with
  | some e => (.error e, w)
  | none =>
    let (answer, cluster) := w.cluster.answer r
    (answer, { w with cluster })

/-- Something read from the shelf, unless a mishap comes first. -/
def readShelf {α : Type} (w : PodWorld) (call : String) (f : Shelf → α) :
    Except Documents.Error α × PodWorld :=
  let (mishap, left) := w.documentMishaps.take call
  let w := { w with documentMishaps := left }
  match mishap with
  | some e => (.error e, w)
  | none => (.ok (f w.shelf), w)

/-- What happens to a pod: an event of the cluster, or something that its workload writes. -/
def happen (w : PodWorld) (key : PodKey) (event : Value) : PodWorld :=
  match text (part event "ev") with
  | "write_status" =>
    let status := (Documents.Status.ofName? (text (part event "status"))).getD .notStarted
    { w with shelf := w.shelf.writeStatus key.ns key.name status (text (part event "contents")) }
  | "write_output" =>
    match Json.parse (text (part event "value")) with
    | .ok output => { w with shelf := w.shelf.writeOutput (text (part event "id")) output }
    | .error _ => w
  | _ => { w with cluster := clusterEvent w.cluster key event }

end PodWorld

def podHouse : PodHouse PodWorld where
  keeper := ⟨PodWorld.keeper, fun keeper w => { w with keeper }⟩
  ports := ⟨PodWorld.ports, fun ports w => { w with ports }⟩
  cluster r := Play.update fun _ w => w.answerCluster r
  document key := Play.update fun _ w => w.readShelf "read" fun s => s.read key
  output workloadId := Play.update fun _ w => w.readShelf "output" fun s => s.output workloadId

namespace PodStage

/-- Talk of the keeper, unless it takes too long. -/
def talk {α : Type} (s : PodStage) (t : Pod.Talk α) : Option α × PodStage :=
  s.perform (t.perform podHouse.answer) longestQuestion

/-- Talk without a bound, unless it takes too long. -/
def converse {σ α : Type} (s : PodStage) (turns : Pod.Turns σ α) (start : σ) :
    Option α × PodStage :=
  s.performTurns (fun state => (turns state).perform podHouse.answer) start longestQuestion

/-- Turns beside the keeper, which begin when the world is ready for them. -/
def beside (s : PodStage) (ready : PodWorld → Bool) (turns : Pod.Turns Nat Unit) : PodStage :=
  s.enter (fun state => do
    let (_, w) ← Play.look
    if ! ready w then
      Play.rest (fun _ _ => none) ready
    (turns state).perform podHouse.answer) 0

def schedule (s : PodStage) (key : PodKey) (events : List Value) : PodStage :=
  events.foldl (fun s event => s.enter (fun _ => do
    Play.restFor (natural (part event "at_ms"))
    let _ ← Play.change fun _ w => w.happen key event
    return .inr ()) 0) s

def addDocumentMishaps (s : PodStage) (v : Value) : PodStage :=
  s.mapWorld fun w =>
    { w with documentMishaps := w.documentMishaps.append (mishaps documentsError v) }

end PodStage

def podWorld (v : Value) : PodWorld where
  cluster := simulatedCluster (part v "cluster")
  clusterMishaps := mishaps clusterError (part v "cluster_faults")
  documentMishaps := mishaps documentsError (part v "doc_faults")

def tellPodCopies (s : PodStage) (key : PodKey) : Value := tellCopies s.world.cluster key

end ConnectorSync.Rehearsal
