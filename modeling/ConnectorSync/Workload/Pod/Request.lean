import ConnectorSync.Cluster.Request
import ConnectorSync.Dialogue
import ConnectorSync.Documents.Error
import ConnectorSync.Duration
import ConnectorSync.Launch.PodScript
import ConnectorSync.Launch.PortPool

/-!
# What the keeper of a pod asks

A pod is kept by asking: the cluster about the pod, the stores about its documents, and the place
it is kept at for time, ports and the one cell in which its exit code is put down.
-/

namespace ConnectorSync.Workload.Pod

open Launch

/-- An output stream of a pod, which reaches its keeper by a relay. -/
inductive Stream
  | stdout
  | stderr
  deriving DecidableEq, Repr

/-- What the keeper of a pod asks. -/
inductive Request
  | cluster (request : Cluster.Request)
  | document (key : String)
  | output (workloadId : String)
  | exitCode
  /-- Puts an exit code down if there is none; answers whether it did. -/
  | complete (code : Int)
  /-- Waits until an exit code is put down, for as long as the limit allows. -/
  | awaitExit (limit : Option Duration)
  | time
  /-- Breaks the keeper down; no answer follows. -/
  | breakDown
  | pause (span : Duration)
  | takePort
  | offerPort (port : Port)
  /-- Listens for both relays, or for neither; answers the ports on which it does. -/
  | listen (ports : RelayPorts)
  | setWatch
  /-- Pauses the watch unless it is to end; answers whether it goes on. -/
  | pauseWatch (span : Duration)
  | connect (address : String) (port : Port)
  /-- Ends the watch and lets go of listeners and streams, the first time it is asked; answers
  whether it was the first time. -/
  | release
  /-- Takes the pod's standard input; answers whether there was one to take. -/
  | takeStdin
  /-- Takes an output stream, once its relay is there or the pod has ended; answers whether there
  was one to take. -/
  | takeStream (stream : Stream)

abbrev Request.Answer : Request → Type
  | cluster r => r.Answer
  | document _ => Except Documents.Error (Option String)
  | output _ => Except Documents.Error (Option Json.Value)
  | exitCode | awaitExit _ => Option Int
  | complete _ | pauseWatch _ | release | takeStdin | takeStream _ => Bool
  | time => Duration
  | breakDown => Empty
  | pause _ | offerPort _ | setWatch => Unit
  | takePort => Option Port
  | listen _ => Except Files.Fault RelayPorts
  | connect .. => Except Files.Fault Unit

abbrev Talk := Dialogue Request Request.Answer

/-- Talk without a bound on its length. -/
abbrev Turns := Dialogue.Turns Request Request.Answer

abbrev ask (r : Request) : Talk r.Answer := Dialogue.request r

abbrev askCluster (r : Cluster.Request) : Talk r.Answer := Dialogue.request (Request.cluster r)

end ConnectorSync.Workload.Pod
