import ConnectorSync.Docker.Container
import ConnectorSync.Workload.Pod.Attached
import ConnectorSync.Workload.Pod.Detached
import ConnectorSync.Workload.Pod.Watch

/-!
# Kept workloads

A workload that was launched on any of the backends, with what its keeper knows of it. The settings
say which kind of workload a launch leads to; after that all kinds are asked the same questions.
-/

namespace ConnectorSync.Workload

/-- A workload with what its keeper knows of it. -/
inductive Kept
  | container (c : Docker.Container)
  | attached (p : Pod.Attached)
  | detached (p : Pod.Detached)

namespace Kept

/-- What the keeper of a workload asks. -/
inductive Request
  | container (r : Docker.Request)
  | pod (r : Pod.Request)

abbrev Request.Answer : Request → Type
  | container r => r.Answer
  | pod r => r.Answer

abbrev Talk := Dialogue Request Request.Answer

/-- Talk without a bound on its length. -/
abbrev Turns := Dialogue.Turns Request Request.Answer

/-- The talk of a container's keeper as one of a keeper. -/
def ofContainer {α : Type} (t : Docker.Talk α) : Talk α :=
  t.perform fun r => Dialogue.request (Request.container r)

/-- The talk of a pod's keeper as one of a keeper. -/
def ofPod {α : Type} (t : Pod.Talk α) : Talk α :=
  t.perform fun r => Dialogue.request (Request.pod r)

def info : Kept → Info
  | container c => c.info
  | attached p => p.info
  | detached p => p.info

/-! ### Launching -/

inductive Launching
  | container
  | attached (stage : Pod.Attached.Launching)
  | detached (stage : Pod.Detached.Launching)

def Launching.first (config : Launch.Config) : Launching :=
  match config.backend, config.kubeMode with
  | .docker, _ => container
  | .kube, .attached => attached .asked
  | .kube, .detached => detached .asked

/-- The launch of a connector as a workload of some name. -/
def launch (config : Launch.Config) (d : Launch.Descriptor) (name : String) :
    Turns Launching (Except Launch.Error Kept)
  | .container => do
    return .inr ((← ofContainer (Docker.Container.create config d name)).map container)
  | .attached stage => do
    match ← ofPod (Pod.Attached.create config d name stage) with
    | .inl stage => return .inl (.attached stage)
    | .inr result => return .inr (result.map attached)
  | .detached stage => do
    match ← ofPod (Pod.Detached.create config d name stage) with
    | .inl stage => return .inl (.detached stage)
    | .inr result => return .inr (result.map detached)

/-! ### The end of a workload -/

def exitValue : Kept → Talk (Except Workload.Error Int)
  | container c => ofContainer c.exitValue
  | attached p => ofPod p.exitValue
  | detached p => ofPod p.exitValue

def openWait : Wait := .begun Pod.Detached.longestWait

/-- Waits for the exit code. Only the wait for a detached pod has a limit. -/
def waitFor : Kept → Turns Wait (Except Workload.Error Int)
  | container c => fun wait => do
    match ← ofContainer (c.waitFor ()) with
    | .inl () => return .inl wait
    | .inr result => return .inr result
  | attached p => fun wait => do
    match ← ofPod (p.waitFor none) with
    | some code => return .inr (.ok code)
    | none => return .inl wait
  | detached p => fun wait => ofPod (p.waitFor wait)

/-- Waits for the exit code, though no longer than a limit allows; answers whether it is known. -/
def awaitExit : Kept → Turns Wait (Except Workload.Error Bool)
  | container c => fun wait => ofContainer (c.awaitExit wait)
  | attached p => fun
    | .begun limit | .until limit => do
      return .inr (.ok (← ofPod (p.waitFor (some limit))).isSome)
  | detached p => fun wait => do return (← ofPod (p.awaitExit wait)).map id .ok

/-- The watch on a workload; only attached pods have one. -/
def watch (pollInterval : Duration) (oomLogLines : Nat) : Kept → Turns Nat Unit
  | attached p => fun failed => ofPod (Pod.watch p.key pollInterval oomLogLines failed)
  | container _ | detached _ => fun _ => return .inr ()

def destroy : Kept → Talk Unit
  | container c => ofContainer c.destroy
  | attached p => ofPod p.destroy
  | detached p => ofPod p.destroy

/-- What a connector left as its output; only detached pods leave any. -/
def output : Kept → Talk (Except Workload.Error (Option String))
  | container _ | attached _ => return .ok none
  | detached p => ofPod p.output

end Kept

end ConnectorSync.Workload
