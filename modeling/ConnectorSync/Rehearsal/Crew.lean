import ConnectorSync.Launch.Error
import ConnectorSync.Rehearsal.Orders
import ConnectorSync.Rehearsal.Report
import ConnectorSync.Rehearsal.Stage
import ConnectorSync.Sync.Execution
import ConnectorSync.Workload.Error
import ConnectorSync.Workload.ExitCell

/-!
# Crews

Connectors that only play their parts: each runs for a time and ends with a code, as its step's
behaviour says. A crew keeps what it launched and what was fed to it.
-/

namespace ConnectorSync.Rehearsal

open Json Workload

/-- How the connectors of a step behave. -/
structure Behavior where
  exitCode : Int := exitSuccess
  stdout : Bytes := []
  runTime : Duration := .ofMillis 10
  neverEnds : Bool := false

def behavior (v : Value) : Behavior where
  exitCode := integer (part v "exit_code")
  stdout := bytes (part v "stdout")
  runTime := durationOr v "run_ms" (.ofMillis 10)
  neverEnds := truth (part v "never_complete")

structure Member where
  descriptor : Launch.Descriptor
  behavior : Behavior
  launchedAt : Nat
  exit : ExitCell := {}
  destroyed : Bool := false
  stdin : Bytes := []
  stdinTaken : Bool := false
  /-- Whether who took its standard input can still write to it. -/
  stdinOpen : Bool := false
  stdoutTaken : Bool := false

namespace Member

def endsAt (m : Member) : Option Nat :=
  if m.behavior.neverEnds then none else some (m.launchedAt + restTicks m.behavior.runTime)

/-- The code with which the connector has ended by some time. -/
def exitCode (m : Member) (clock : Nat) : Option Int :=
  m.exit.code <|> if m.endsAt.any (· ≤ clock) then some m.behavior.exitCode else none

/-- The connector is killed, unless it has ended. -/
def destroy (m : Member) (clock : Nat) : Member :=
  let code := (m.exitCode clock).getD exitKilled
  { m with destroyed := true, exit := m.exit.filled code }

def info (m : Member) : Info := { name := m.descriptor.workloadId, image := m.descriptor.image }

def report (m : Member) : Value :=
  .object [("descriptor", tell m.descriptor.encode.render), ("destroyed", .bool m.destroyed),
    ("stdin", tellBytes m.stdin)]

end Member

/-- Connectors launched so far, and how those to come will behave. -/
structure Crew where
  behaviors : List (Launch.Step × Behavior) := []
  failingLaunches : Nat := 0
  launched : List Member := []
  committed : List ((Sync.JobId × Nat) × Nat) := []
  connections : List Sync.Connection := []

namespace Crew

def behaviorOf (c : Crew) (s : Launch.Step) : Behavior :=
  ((c.behaviors.find? (·.1 = s)).map (·.2)).getD {}

def setBehavior (c : Crew) (s : Launch.Step) (b : Behavior) : Crew :=
  { c with behaviors := (s, b) :: c.behaviors }

/-- A connector is launched, unless launches are to fail. -/
def launch (c : Crew) (d : Launch.Descriptor) (clock : Nat) :
    Except Launch.Error Sync.Handle × Crew :=
  match c.failingLaunches with
  | left + 1 => (.error (.startFailed "mock launch failure"), { c with failingLaunches := left })
  | 0 =>
    let member : Member :=
      { descriptor := d, behavior := c.behaviorOf d.step, launchedAt := clock }
    (.ok c.launched.length, { c with launched := c.launched ++ [member] })

def member? (c : Crew) (h : Sync.Handle) : Option Member := c.launched[h]?

def modify (c : Crew) (h : Sync.Handle) (f : Member → Member) : Crew :=
  { c with launched := c.launched.modify h f }

/-- A connector's standard input, which can be taken once. -/
def takeStdin (c : Crew) (h : Sync.Handle) : Bool × Crew :=
  (! (c.member? h).all (·.stdinTaken), c.modify h fun m =>
    { m with stdinTaken := true, stdinOpen := m.stdinOpen || ! m.stdinTaken })

/-- A connector's output, which can be taken once. -/
def takeStdout (c : Crew) (h : Sync.Handle) : Option Bytes × Crew :=
  (((c.member? h).filter (! ·.stdoutTaken)).map (·.behavior.stdout),
    c.modify h fun m => { m with stdoutTaken := true })

def feed (c : Crew) (h : Sync.Handle) (bs : Bytes) : Crew :=
  c.modify h fun m => { m with stdin := m.stdin ++ bs }

def copy (c : Crew) (source destination : Sync.Handle) : Nat × Crew :=
  let bs := ((c.member? source).map (·.behavior.stdout)).getD []
  (bs.length, c.feed destination bs)

/-- The connection of a number; of several the last one counts. -/
def connection? (c : Crew) (id : Uuid) : Option Sync.Connection :=
  c.connections.reverse.find? (·.id = id)

def steps (c : Crew) : Value := tellAll (c.launched.map (·.descriptor.step.name))

def report (c : Crew) : Value := .ofList Member.report c.launched

end Crew

/-- A crew from its script: connections, behaviours by step, and how many launches fail. -/
def crew (v : Value) : Except Json.Fault Crew := do
  let connections ← (items (part v "definitions")).mapM fun d =>
    Json.read Sync.Connection.decoder (text d)
  return {
    connections
    behaviors := (members (part v "behaviors")).map fun (name, b) =>
      (step (.string name), behavior b)
    failingLaunches := natural (part v "fail_launches") }

end ConnectorSync.Rehearsal
