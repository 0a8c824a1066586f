import ConnectorSync.Workload.Error
import ConnectorSync.Workload.Pod.Startup

/-!
# Attached pods

An attached pod looks like a local process to its keeper. Its output streams reach the keeper by
relays that connect to two leased ports, and its standard input is fed through a relay of the pod.
A watch puts its exit code down. The leased ports are given back once, when the keeper is closed.
-/

namespace ConnectorSync.Workload.Pod

open Launch Cluster

/-- An attached pod as its keeper knows it. -/
structure Attached where
  key : PodKey
  info : Info
  leased : List Port
  relay : RelayPorts
  deriving DecidableEq

namespace Attached

/-! ### Launching -/

def offerAll : List Port → Talk Unit
  | [] => return ()
  | port :: rest => do
    ask (.offerPort port)
    offerAll rest

/-- Two ports are leased and listened on; if that fails they are given back. -/
def lease (config : Config) (d : Descriptor) (name : String) :
    Talk (Except Launch.Error Attached) := do
  let some stdout ← ask .takePort | return .error .noPortsAvailable
  let some stderr ← ask .takePort
    | offerAll [stdout]
      return .error .noPortsAvailable
  match ← ask (.listen ⟨stdout, stderr⟩) with
  | .error fault =>
    offerAll [stdout, stderr]
    return .error (.io fault)
  | .ok relay =>
    return .ok ⟨⟨config.ns, name⟩, infoOf config name d.image, [stdout, stderr], relay⟩

def connectTries : Nat := 20

/-- The relay of standard input is tried some number of times, with a pause after each failure; the
last failure is the one that counts. -/
def connect (address : String) (port : Port) (last : Option Files.Fault) :
    Nat → Talk (Except Launch.Error Unit)
  | 0 => return .error ((last.map Launch.Error.io).getD (.startFailed "stdin relay unreachable"))
  | tries + 1 => do
    match ← ask (.connect address port) with
    | .ok () => return .ok ()
    | .error fault => do
      ask (.pause startupPause)
      connect address port (some fault) tries

/-- Feeds standard input to a pod that reads it and has not ended. -/
def connectStdin (p : Attached) (config : Config) (d : Descriptor) (status : PodStatus) :
    Talk (Except Launch.Error Unit) :=
  if d.step.usesStdin && ! status.isTerminal then
    match status.podIp with
    | none => return .error (.startFailed ("pod " ++ p.key.name ++ " has no IP"))
    | some address => connect address config.stdinRemotePort none connectTries
  else return .ok ()

/-- How far the start of a pod is. -/
inductive Starting
  | asked
  | initializing (deadline : Duration)
  | running (deadline : Duration)

/-- Whether the connector's container is ready, or will not be any more. -/
def mainSettled (status : PodStatus) : Bool := status.isReady mainContainer || status.isTerminal

/-- The start of a pod: creation and the watch, the wait for its init container, the input, the wait
for the connector's container, standard input. A pod that is gone by then did start if its exit code
is known. -/
def start (p : Attached) (config : Config) (d : Descriptor) :
    Turns Starting (Except Launch.Error Unit)
  | .asked => do
    match ← createPod p.key (attachedPod p.key.name d config p.relay) with
    | .error e => return .inr (.error e)
    | .ok () =>
      ask .setWatch
      let deadline ← deadlineAfter (ask .time) (ask .breakDown) config.initReadyTimeout
      return .inl (.initializing deadline)
  | .initializing deadline => do
    match ← awaitStatus p.key initRuns config.initReadyTimeout deadline with
    | .inl deadline => return .inl (.initializing deadline)
    | .inr (.error e) => return .inr (.error e)
    | .inr (.ok _) =>
      match ← upload p.key (uploads d p.info) with
      | .error e => return .inr (.error e)
      | .ok () =>
        let deadline ← deadlineAfter (ask .time) (ask .breakDown) config.initReadyTimeout
        return .inl (.running deadline)
  | .running deadline => do
    match ← awaitStatus p.key mainSettled config.initReadyTimeout deadline with
    | .inl deadline => return .inl (.running deadline)
    | .inr (.error (.terminatedDuringStartup pod)) =>
      if (← ask .exitCode).isSome then return .inr (.ok ())
      else return .inr (.error (.terminatedDuringStartup pod))
    | .inr (.error e) => return .inr (.error e)
    | .inr (.ok status) => return .inr (← p.connectStdin config d status)

/-- Lets go of the watch, the listeners and the streams and gives the leased ports back, the first
time; answers whether it was the first time. -/
def close (p : Attached) : Talk Bool := do
  if ← ask .release then
    offerAll p.leased
    return true
  else return false

/-- How far a launch is: before the lease, or in the start of a pod. -/
inductive Launching
  | asked
  | starting (pod : Attached) (stage : Starting)

/-- The launch of a connector as an attached pod. If its start fails the pod is deleted and the
keeper closed. -/
def create (config : Config) (d : Descriptor) (name : String) :
    Turns Launching (Except Launch.Error Attached)
  | .asked => do
    match ← lease config d name with
    | .error e => return .inr (.error e)
    | .ok p => return .inl (.starting p .asked)
  | .starting p stage => do
    match ← p.start config d stage with
    | .inl stage => return .inl (.starting p stage)
    | .inr (.ok ()) => return .inr (.ok p)
    | .inr (.error e) =>
      let _ ← askCluster (.delete p.key)
      let _ ← p.close
      return .inr (.error e)

/-! ### The end of a pod -/

/-- The exit code, if it is known; the keeper is then closed. -/
def exitValue (p : Attached) : Talk (Except Workload.Error Int) := do
  match ← ask .exitCode with
  | some code =>
    let _ ← p.close
    return .ok code
  | none => return .error .notTerminated

/-- Waits for the exit code; the keeper is then closed. -/
def waitFor (p : Attached) (limit : Option Duration) : Talk (Option Int) := do
  let code ← ask (.awaitExit limit)
  if code.isSome then
    let _ ← p.close
  return code

/-- Deletes the pod and closes the keeper. A pod without an exit code counts as killed. That it
cannot be deleted is no error. -/
def destroy (p : Attached) : Talk Unit := do
  let _ ← askCluster (.delete p.key)
  let _ ← ask (.complete exitKilled)
  let _ ← p.close

end Attached

end ConnectorSync.Workload.Pod
