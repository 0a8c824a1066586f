import ConnectorSync.Docker.Workspace
import ConnectorSync.Launch.Error
import ConnectorSync.Launch.ProcessName
import ConnectorSync.Workload.Error
import ConnectorSync.Workload.Info
import ConnectorSync.Workload.Wait

/-!
# Containers

A connector that runs in a container of the host. Its keeper is the client that started it: the
container has ended when the client has.
-/

namespace ConnectorSync.Docker

open Launch Workload

/-- What the keeper of a container asks: the host, and the place it is kept at. -/
inductive Request
  | host (r : Host.Request)
  | exitCode
  /-- Puts an exit code down if there is none; answers whether it did. -/
  | complete (code : Int)
  /-- Notes that the container is killed; answers whether this was the first time. -/
  | noteKill
  | time
  /-- Breaks the keeper down; no answer follows. -/
  | breakDown
  | pause (span : Duration)

abbrev Request.Answer : Request → Type
  | host r => r.Answer
  | exitCode => Option Int
  | complete _ | noteKill => Bool
  | time => Duration
  | breakDown => Empty
  | pause _ => Unit

abbrev Talk := Dialogue Request Request.Answer

/-- Talk without a bound on its length. -/
abbrev Turns := Dialogue.Turns Request Request.Answer

abbrev ask (r : Request) : Talk r.Answer := Dialogue.request r

abbrev askHost (r : Host.Request) : Talk r.Answer := Dialogue.request (Request.host r)

def onHost {α : Type} (t : Host.Talk α) : Talk α := t.perform fun r => askHost r

theorem onHost_ask_bind {α : Type} (r : Host.Request) (f : r.Answer → Host.Talk α) :
    onHost (Host.ask r >>= f) = askHost r >>= fun a => onHost (f a) := rfl

/-- A container as its keeper knows it. -/
structure Container where
  info : Info
  dockerBin : String
  jobRoot : String
  child : Host.Child

namespace Container

def lookPause : Duration := .ofMillis 100

def hasImage (dockerBin image : String) : Talk (Except Files.Fault Bool) := do
  return (← askHost (.run ⟨dockerBin, ["image", "inspect", image], none⟩)).map (·.isGood)

/-- The launch of a connector in a container of some name. Its image must be there already; if the
client does not start, the input files are removed again. -/
def create (config : Config) (d : Descriptor) (name : String) :
    Talk (Except Launch.Error Container) := do
  match ← hasImage config.dockerBin d.image with
  | .error fault => return .error (.startFailed (Workload.Error.io fault).message)
  | .ok false => return .error (.imageNotFound d.image)
  | .ok true =>
    let dir := Docker.jobRoot config.workspaceRoot d
    match ← onHost (materialize dir d) with
    | .error fault => return .error (.io fault)
    | .ok () =>
      match ← askHost (.spawn ⟨config.dockerBin, runArgs config d name, none⟩) with
      | .error fault =>
        onHost (removeJobRoot dir)
        return .error (.startFailed fault.message)
      | .ok child => return .ok ⟨{ name, image := d.image }, config.dockerBin, dir, child⟩

/-- The exit code, once it is known: the one put down, or that of the client, which is then put
down. A client that a signal ended counts as killed. -/
def pollExit (c : Container) : Talk (Except Workload.Error (Option Int)) := do
  match ← ask .exitCode with
  | some code => return .ok (some code)
  | none =>
    match ← askHost (.status c.child) with
    | .error fault => return .error (.io fault)
    | .ok none => return .ok none
    | .ok (some code) =>
      let _ ← ask (.complete (code.getD exitKilled))
      return .ok (← ask .exitCode)

def exitValue (c : Container) : Talk (Except Workload.Error Int) := do
  match ← c.pollExit with
  | .error e => return .error e
  | .ok none => return .error .notTerminated
  | .ok (some code) => return .ok code

def waitFor (c : Container) : Turns Unit (Except Workload.Error Int) := fun () => do
  match ← c.pollExit with
  | .error e => return .inr (.error e)
  | .ok (some code) => return .inr (.ok code)
  | .ok none =>
    ask (.pause lookPause)
    return .inl ()

/-- Waits for the exit code, though no longer than to a deadline; answers whether it is known. -/
def awaitExit (c : Container) : Turns Wait (Except Workload.Error Bool)
  | .begun limit => do
    return .inl (.until (← deadlineAfter (ask .time) (ask .breakDown) limit))
  | .until deadline => do
    match ← c.pollExit with
    | .error e => return .inr (.error e)
    | .ok (some _) => return .inr (.ok true)
    | .ok none =>
      let now ← ask .time
      if deadline ≤ now then return .inr (.ok false)
      else
        ask (.pause ((deadline.minus now).min lookPause))
        return .inl (.until deadline)

/-- Kills the container and its client and removes the input files, the first time. -/
def destroy (c : Container) : Talk Unit := do
  if ← ask .noteKill then
    let _ ← askHost (.run ⟨c.dockerBin, ["kill", c.info.name], none⟩)
    askHost (.kill c.child)
    onHost (removeJobRoot c.jobRoot)

end Container

end ConnectorSync.Docker
