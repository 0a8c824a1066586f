import ConnectorSync.Rehearsal.Crew

/-!
# Executions by a crew

The deeds of an execution as plays on any stage whose world has a crew in it and knows whether the
execution is cancelled.
-/

namespace ConnectorSync.Rehearsal

open Sync

/-- Where a world keeps its crew, and whether it has cancelled the execution. -/
structure CrewView (World : Type) where
  crew : World → Crew
  setCrew : Crew → World → World
  isCancelled : World → Bool

namespace CrewView

variable {World : Type} (view : CrewView World)

def update {α : Type} (f : Nat → Crew → α × Crew) : Play World α :=
  Play.update fun clock w =>
    let (a, crew) := f clock (view.crew w)
    (a, view.setCrew crew w)

/-- A rest until a connector has ended or the execution is cancelled; answers the exit code. An
execution cancelled before gets none. -/
def awaitEnd (h : Handle) : Play World (Option Int) := do
  let (_, w) ← Play.look
  if view.isCancelled w then return none
  Play.rest (fun _ w => ((view.crew w).member? h).bind Member.endsAt)
    fun w => view.isCancelled w || ((view.crew w).member? h).all (·.exit.code.isSome)
  let (clock, w) ← Play.look
  return ((view.crew w).member? h).bind (·.exitCode clock)

def deed : (d : Deed) → Play World d.Answer
  | .launch d => view.update fun clock c => c.launch d clock
  | .takeStdin h => view.update fun _ c => c.takeStdin h
  | .takeStdout h => view.update fun _ c =>
    let (taken, c) := c.takeStdout h
    (taken.isSome, c)
  | .takeStderr _ => return false
  | .copy source destination => do
    let (_, w) ← Play.look
    if view.isCancelled w then return none
    else
      let n ← view.update fun _ c => c.copy source destination
      return some (.ok n)
  | .waitFor h => do return (← view.awaitEnd h).map .ok
  | .destroy h => view.update fun clock c => (.ok (), c.modify h (·.destroy clock))
  | .output _ => return .ok none
  | .closeStdin _ => return
  | .commit job attempt n => view.update fun _ c =>
    ((), { c with committed := ((job, attempt), n) :: c.committed })
  | .time => return present

def check (context : AttemptContext) (side : Side) :
    Play World (Except ActivityError CheckOutcome) := do
  let (_, w) ← Play.look
  (Execution.check ((view.crew w).connection? context.connectionId) context side).perform view.deed

def execute (context : AttemptContext) : Play World (Except ActivityError AttemptOutcome) := do
  let (_, w) ← Play.look
  (Execution.execute ((view.crew w).connection? context.connectionId) context).perform view.deed

end CrewView

def tellCheck : CheckOutcome → Json.Value
  | .succeeded => tell "succeeded"
  | .cancelled => tell "cancelled"
  | .failed reason => .object [("failed", reason.encode)]

def tellAttempt : AttemptOutcome → Json.Value
  | .succeeded output => .object [("succeeded", output.encode)]
  | .cancelled => tell "cancelled"
  | .failed failures partialSuccess =>
    .object [("failed", .object [("failures", .ofList FailureReason.encode failures),
      ("partial_success", .bool partialSuccess)])]

end ConnectorSync.Rehearsal
