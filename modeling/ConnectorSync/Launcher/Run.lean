import ConnectorSync.Dialogue
import ConnectorSync.Launcher.Plan

/-!
# A run of the launcher

The launcher launches one workload, passes its streams on and waits for it to end. An interrupt ends
the workload first. In the end the launcher may print what the connector left as its output.
-/

namespace ConnectorSync.Launcher

/-- What the launcher asks about the one workload that it launches. -/
inductive Request
  | launch (plan : Plan)
  | passOutput
  | passInput
  /-- Waits for the end of the workload, or for an interrupt. -/
  | awaitEnd
  | waitFor
  | destroy
  | output

/-- What each request answers; to an interrupted wait, nothing. -/
abbrev Request.Answer : Request → Type
  | launch _ => Except Launch.Error Unit
  | passOutput | passInput | destroy => Unit
  | awaitEnd => Option (Except Workload.Error Int)
  | waitFor => Except Workload.Error Int
  | output => Except Workload.Error (Option String)

abbrev Talk := Dialogue Request Request.Answer

abbrev Run := ExceptT Failure Talk

def ask (r : Request) : Run r.Answer := liftM (Dialogue.request r : Talk r.Answer)

/-- An answer that does not fail. -/
def orFail {α ε : Type} (failure : ε → Failure) : Except ε α → Run α
  | .ok a => return a
  | .error e => throw (failure e)

def exitOf : Run Int := do
  match ← ask .awaitEnd with
  | some result => orFail .workload result
  | none =>
    ask .destroy
    orFail .workload (← ask .waitFor)

/-- A run of the launcher: the exit code of its connector, and what is to be printed. -/
def run (plan : Plan) (printOutput : Bool) : Run (Int × Option String) := do
  orFail .launch (← ask (.launch plan))
  ask .passOutput
  ask .passInput
  let code ← exitOf
  if printOutput then
    let output ← orFail .workload (← ask .output)
    return (code, output)
  else return (code, none)

/-- How a call of the launcher ends. -/
structure Conclusion where
  status : Nat
  stdout : String := ""
  failure : Option Failure := none

def Conclusion.brokenDown : Conclusion := { status := breakdownStatus }

def Conclusion.ofRun : Except Failure (Int × Option String) → Conclusion
  | .ok (code, output) =>
    { status := exitStatus code, stdout := (output.map (· ++ "\n")).getD "" }
  | .error failure => { status := failureStatus, failure := some failure }

/-- The end of a call that asks for something else than a run. -/
def Conclusion.ofAside : Aside → Conclusion
  | .version => { status := 0, stdout := versionLine ++ "\n" }
  | .help => { status := 0 }
  | .misuse => { status := misuseStatus }

def call (env : Environment) (files : Files.Tree) (args : List String) : Talk Conclusion :=
  match Arguments.read args with
  | .error aside => return .ofAside aside
  | .ok a =>
    match plan env files a with
    | .error failure => return .ofRun (.error failure)
    | .ok plan => do return .ofRun (← (run plan a.printOutput).run)

end ConnectorSync.Launcher
