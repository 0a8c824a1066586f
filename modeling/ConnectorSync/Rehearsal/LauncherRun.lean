import ConnectorSync.Launcher.Run
import ConnectorSync.Rehearsal.Machine

/-!
# Rehearsals of the launcher

The launcher is called with arguments, settings and files on a machine that plays its part, and may
be interrupted while its connector runs.
-/

namespace ConnectorSync.Rehearsal

open Json Launch

/-- The surroundings of a call of the launcher. -/
structure LauncherWorld where
  machine : Machine
  input : Bytes := []
  /-- The settings and the workload, once that is launched. -/
  launched : Option (Config × Machine.Placed) := none
  isInterrupted : Bool := false

namespace LauncherWorld

def machinePart : Part LauncherWorld Machine := ⟨machine, fun machine w => { w with machine }⟩

def onMachine {α : Type} (p : Play Machine α) : Play LauncherWorld α := Play.within machinePart p

/-- A play about the workload, or a result in its place before there is one. -/
def onLaunched {α : Type} (otherwise : α) (p : Config → Machine.Placed → Play LauncherWorld α) :
    Play LauncherWorld α := do
  match (← Play.look).2.launched with
  | some (config, w) => p config w
  | none => return otherwise

def waitFor : Play LauncherWorld (Except Workload.Error Int) :=
  onLaunched (.error .notTerminated) fun config w => onMachine (Machine.waitFor config w)

def answer : (r : Launcher.Request) → Play LauncherWorld r.Answer
  | .launch plan => do
    let _ ← Play.change fun _ w =>
      { w with machine := { w.machine with ports := sharedPorts plan.config } }
    match ← onMachine (Machine.launch plan.config plan.descriptor) with
    | .error e => return .error e
    | .ok placed =>
      let _ ← Play.change fun _ w => { w with launched := some (plan.config, placed) }
      return .ok ()
  | .passOutput => onLaunched () fun config w => do
    let _ ← onMachine (Machine.takeStream config w .stdout)
    let _ ← onMachine (Machine.takeStream config w .stderr)
  | .passInput => onLaunched () fun config w => do
    if ← onMachine (Machine.takeStdin config w) then
      let input := (← Play.look).2.input
      onMachine (Machine.feed w input)
      onMachine (Machine.closeStdin w)
  | .awaitEnd => Play.orCut isInterrupted waitFor
  | .waitFor => waitFor
  | .destroy => onLaunched () fun config w => onMachine (Machine.destroy config w)
  | .output => onLaunched (.ok none) fun config w => onMachine (Machine.output config w)

end LauncherWorld

/-- How many ticks after a launch an interrupt comes: before any connector ends that waits for
nothing. -/
def interruptDelay : Nat := 5

def interrupt : Play LauncherWorld Unit := do
  Play.rest (fun _ _ => none) fun w => w.launched.isSome
  Play.restFor interruptDelay
  let _ ← Play.change fun _ w => { w with isInterrupted := true }

/-- What is told of a call: of a pod to be created only what it is called and marked with. -/
def tellProgramCall (call : Value) : Value :=
  match text (part call "key"), call with
  | "create", .object ms => .object (ms.map fun (name, v) =>
    match name, v with
    | "stdin", .string manifest =>
      (name, (Json.parse manifest).toOption.elim .null (part · "metadata"))
    | _, _ => (name, v))
  | _, _ => call

/-- What is told of the calls of programs, without those that only look. -/
def tellProgramCalls (h : ScriptedHost) (stagingDir : String) : List Value :=
  ((h.tellCalls stagingDir 0).filter fun call =>
    ! ["get", "logs"].contains (text (part call "key"))).map tellProgramCall

/-- The first line of a text, without a carriage return at its end. -/
def firstLine (s : String) : String :=
  let line := s.toList.takeWhile (· ≠ '\n')
  String.ofList (if line.getLast? = some '\x0d' then line.dropLast else line)

/-- What is told of a failure: the first line of its text. -/
def tellFailure (message : Option String) : Value :=
  tellOr (message.map fun m => firstLine ("Error: " ++ m))

/-- What is told of a call of the launcher, if it ended at all. -/
def tellConclusion : Option Launcher.Conclusion → List (String × Value)
  | some c => [("code", .nat c.status), ("stdout", tell c.stdout),
    ("failure", tellFailure (c.failure.map (·.message)))]
  | none => [("code", .null), ("stdout", tell ""), ("failure", .null)]

/-- What is told of the machine after a call of the launcher. -/
def tellMachine (machine : Machine) (stagingDir : String) : List (String × Value) :=
  [("calls", .array (tellProgramCalls machine.host stagingDir)),
    ("workspace", tellTree machine.host.files (workingDirectory ++ ["ws"]))]

/-- A launcher that runs in an environment on a machine: its conclusion, and the machine after it. -/
def runLauncher (v : Value) (env : Environment) (machine : Machine) :
    Option Launcher.Conclusion × Machine :=
  let files := machine.host.files
  let config := ((Config.ofEnvironment env).toOption).getD {}
  let world : LauncherWorld := { machine, input := bytes (part v "stdin") }
  let stage : Stage LauncherWorld Nat := { world }
  let stage := stage.enter
    (fun failed => Play.within LauncherWorld.machinePart (Machine.watch config 0 failed)) 0
  let stage := match part v "interrupt_at" with
    | .null => stage
    | _ => stage.enter (fun _ => do return .inr (← interrupt)) 0
  let (conclusion, stage) := stage.perform
    ((Launcher.call env files (texts (part v "args"))).perform LauncherWorld.answer) longestQuestion
  (if stage.isHalted then some .brokenDown else conclusion, stage.world.machine)

def rehearseLauncher (v : Value) : Value :=
  let machine := machine v
  match programEnvironment (part v "env") machine.host.files with
  | none => .object (tellConclusion (some .brokenDown) ++ tellMachine machine "")
  | some env =>
    let config := ((Config.ofEnvironment env).toOption).getD {}
    let (conclusion, machine) := runLauncher v env machine
    mapTexts (hideNames machine.names)
      (.object (tellConclusion conclusion ++ tellMachine machine config.stagingDir))

end ConnectorSync.Rehearsal
