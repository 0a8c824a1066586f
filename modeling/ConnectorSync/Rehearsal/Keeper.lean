import ConnectorSync.Docker.Container
import ConnectorSync.Rehearsal.Stage
import ConnectorSync.Workload.ExitCell
import ConnectorSync.Workload.Pod.Request

/-!
# Keepers of workloads

What the keeper of one workload has at hand, whether that is a pod or a container, and the ports
that keepers share. No pod of a rehearsal can be reached over the network.
-/

namespace ConnectorSync.Rehearsal

open Launch Workload

/-- What the keeper of a workload has at hand. -/
structure Keeper where
  exit : ExitCell := {}
  isKillNoted : Bool := false
  isWatched : Bool := false
  isReleased : Bool := false
  takenStreams : List Pod.Stream := []

structure Ports where
  pool : PortPool := .ephemeral
  busy : List Port := []

namespace Keeper

def exitCode : Play Keeper (Option Int) := do return (← Play.look).2.exit.code

/-- An exit code is put down if there is none. -/
def complete (code : Int) : Play Keeper Bool := Play.update fun _ k =>
  let (done, exit) := k.exit.complete code
  (done, { k with exit })

/-- A wait for the exit code, for as long as a limit allows. -/
def awaitExit (limit : Option Duration) : Play Keeper (Option Int) := do
  Play.rest (fun clock _ => limit.map fun span => clock + span.ticks) fun k => k.exit.code.isSome
  exitCode

def pauseWatch (span : Duration) : Play Keeper Bool := do
  Play.rest (fun clock _ => some (clock + span.ticks)) Keeper.isReleased
  return ! (← Play.look).2.isReleased

/-- An output stream is taken: since no relay ever connects, there is none, which shows when the
exit code is known. -/
def takeStream (stream : Pod.Stream) : Play Keeper Bool := do
  let (_, k) ← Play.look
  if ! (k.isReleased || k.takenStreams.contains stream) then
    let _ ← Play.change fun _ k => { k with takenStreams := stream :: k.takenStreams }
    let _ ← awaitExit none
  return false

end Keeper

namespace Ports

def take : Play Ports (Option Port) := Play.update fun _ p =>
  let (port, pool) := p.pool.take
  (port, { p with pool })

def offer (port : Port) : Play Ports Unit :=
  Play.update fun _ p => ((), { p with pool := p.pool.offer port })

/-- Ports to listen on, unless others do already. -/
def listen (p : Ports) (ports : RelayPorts) : Except Files.Fault RelayPorts :=
  if p.busy.contains ports.stdout || p.busy.contains ports.stderr then .error .addressInUse
  else .ok ports

end Ports

def timeOnStage {World : Type} : Play World Duration := do
  return .ofMillis (Duration.earlierTicks + (← Play.look).1)

/-- What the keeper of a pod has at hand in a world: its own things, ports, a cluster and
documents. -/
structure PodHouse (World : Type) where
  keeper : Part World Keeper
  ports : Part World Ports
  cluster : (r : Cluster.Request) → Play World r.Answer
  document : String → Play World (Except Documents.Error (Option String))
  output : String → Play World (Except Documents.Error (Option Json.Value))

def PodHouse.answer {World : Type} (h : PodHouse World) : (r : Pod.Request) → Play World r.Answer
  | .cluster r => h.cluster r
  | .document key => h.document key
  | .output workloadId => h.output workloadId
  | .exitCode => Play.within h.keeper Keeper.exitCode
  | .complete code => Play.within h.keeper (Keeper.complete code)
  | .awaitExit limit => Play.within h.keeper (Keeper.awaitExit limit)
  | .time => timeOnStage
  | .breakDown => Play.halt
  | .pause span => Play.restFor span.ticks
  | .takePort => Play.within h.ports Ports.take
  | .offerPort port => Play.within h.ports (Ports.offer port)
  | .listen ports => do return (h.ports.get (← Play.look).2).listen ports
  | .setWatch => Play.within h.keeper (Play.update fun _ k => ((), { k with isWatched := true }))
  | .pauseWatch span => Play.within h.keeper (Keeper.pauseWatch span)
  | .connect _ _ => return .error .networkUnreachable
  | .release => Play.within h.keeper <|
    Play.update fun _ k => (! k.isReleased, { k with isReleased := true })
  | .takeStdin => return false
  | .takeStream stream => Play.within h.keeper (Keeper.takeStream stream)

/-- What the keeper of a container has at hand in a world: its own things and the host. -/
structure ContainerHouse (World : Type) where
  keeper : Part World Keeper
  host : (r : Host.Request) → Play World r.Answer

def ContainerHouse.answer {World : Type} (h : ContainerHouse World) :
    (r : Docker.Request) → Play World r.Answer
  | .host r => h.host r
  | .exitCode => Play.within h.keeper Keeper.exitCode
  | .complete code => Play.within h.keeper (Keeper.complete code)
  | .noteKill => Play.within h.keeper <|
    Play.update fun _ k => (! k.isKillNoted, { k with isKillNoted := true })
  | .time => timeOnStage
  | .breakDown => Play.halt
  | .pause span => Play.restFor span.ticks

end ConnectorSync.Rehearsal
