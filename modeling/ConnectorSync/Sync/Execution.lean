import ConnectorSync.Dialogue
import ConnectorSync.Json.Writer
import ConnectorSync.Launch.Descriptor
import ConnectorSync.Sync.Connection
import ConnectorSync.Workload.Info

/-!
# Execution of attempts

An attempt is executed by launching the connectors of its connection: the source's output is copied
to the destination's input until both have ended. Whatever happens, every connector launched is
destroyed before the execution ends.
-/

namespace ConnectorSync.Sync

open Text Workload

/-- A connector that was launched, by the number its launcher gave it. -/
abbrev Handle := Nat

/-- What an execution asks of those who run connectors. -/
inductive Deed
  | launch (d : Launch.Descriptor)
  /-- Takes an end of a connector's streams; answers whether there was one. -/
  | takeStdin (h : Handle)
  | takeStdout (h : Handle)
  | takeStderr (h : Handle)
  | copy (source destination : Handle)
  | closeStdin (h : Handle)
  | waitFor (h : Handle)
  | destroy (h : Handle)
  | output (h : Handle)
  | commit (job : JobId) (attempt bytes : Nat)
  | time

/-- What they answer. A copy or a wait that is cancelled answers nothing. -/
abbrev Deed.Answer : Deed → Type
  | launch _ => Except Launch.Error Handle
  | takeStdin _ | takeStdout _ | takeStderr _ => Bool
  | copy .. => Option (Except Files.Fault Nat)
  | waitFor _ => Option (Except Workload.Error Int)
  | destroy _ => Except Workload.Error Unit
  | output _ => Except Workload.Error (Option String)
  | closeStdin _ | commit .. => Unit
  | time => Timestamp

abbrev Doing := Dialogue Deed Deed.Answer

inductive Stop
  | cancelled
  | failed (error : ActivityError)

abbrev Stoppable := ExceptT Stop Doing

namespace Execution

def demand (d : Deed) : Doing d.Answer := Dialogue.request d

def descriptor (c : Connection) (side : Side) (step : Launch.Step) (context : AttemptContext) :
    Launch.Descriptor :=
  let connector := c.connector side
  let withCatalog := step = .read ∨ step = .write
  let order : Launch.Order := {
    image := connector.image
    step := step
    jobId := decimalInt context.jobId
    attempt := context.attempt
    connectionId := some c.id
    workspaceId := c.workspaceId
    config := some connector.config.render
    catalog := if withCatalog then some c.catalog.render else none
    state := if step = .read then c.state.map Json.Value.render else none
    resources := connector.resources }
  order.descriptor

/-- The failure of a connector that ended with a code other than zero. -/
def exitFailure (side : Side) (step : Launch.Step) (code : Int) (now : Timestamp) :
    FailureReason :=
  let how :=
    if code = exitOutOfMemory then "ran out of memory"
    else if code = exitKilled then "was killed"
    else "exited with code " ++ decimalInt code
  .ofMessage side.origin .systemError (side.origin.label ++ " " ++ step.name ++ " " ++ how) now

def checkOutcome (context : AttemptContext) (side : Side) (code : Int) (now : Timestamp) :
    CheckOutcome :=
  let failed (reason : FailureReason) : CheckOutcome :=
    .failed (reason.forAttempt (some context.jobId) (some context.attempt))
  if code = exitSuccess then .succeeded
  else if code = exitFailed then
    failed (.ofMessage side.origin .configError
      (side.origin.label ++ " rejected its configuration") now)
  else failed (exitFailure side .check code now)

/-- The error for a connection that is not there. -/
def missingConnection (id : Uuid) : ActivityError := .notFound ("connection " ++ id.render)

def check (c : Option Connection) (context : AttemptContext) (side : Side) :
    Doing (Except ActivityError CheckOutcome) := do
  match c with
  | none => return .error (missingConnection context.connectionId)
  | some c =>
    match ← demand (.launch (descriptor c side .check context)) with
    | .error error => return .error (.launch error)
    | .ok h =>
      let code ← demand (.waitFor h)
      let _ ← demand (.destroy h)
      match code with
      | none => return .ok .cancelled
      | some (.error error) => return .error (.process error)
      | some (.ok code) => return .ok (checkOutcome context side code (← demand .time))

def attempting (d : Deed) : Stoppable d.Answer := liftM (demand d)

def exitOf (h : Handle) : Stoppable Int := do
  match ← attempting (.waitFor h) with
  | none => throw .cancelled
  | some (.error error) => throw (.failed (.process error))
  | some (.ok code) => return code

/-- The source's output is copied to the destination's input, which is closed after it, and both
ends are awaited; answers the number of bytes copied and the codes. -/
def pump (source : Option Handle) (destination : Handle) : Stoppable (Nat × Option Int × Int) := do
  let _ ← attempting (.takeStderr destination)
  let _ ← attempting (.takeStdout destination)
  if let some source := source then
    let _ ← attempting (.takeStderr source)
  let stdin ← attempting (.takeStdin destination)
  let stdout ← match source with
    | some source => attempting (.takeStdout source)
    | none => pure false
  let bytes ← match source, stdin && stdout with
    | some source, true => do
      match ← attempting (.copy source destination) with
      | none => throw .cancelled
      | some (.error fault) => throw (.failed (.io fault))
      | some (.ok bytes) => pure bytes
    | _, _ => pure 0
  if stdin then
    attempting (.closeStdin destination)
  let sourceCode ← match source with
    | some source => some <$> exitOf source
    | none => pure none
  let destinationCode ← exitOf destination
  return (bytes, sourceCode, destinationCode)

/-- The failures of the connectors that ended with a code other than zero. -/
def exitFailures (context : AttemptContext) (sourceCode : Option Int) (destinationCode : Int)
    (now : Timestamp) : List FailureReason :=
  let failure (side : Side) (step : Launch.Step) (code : Int) : List FailureReason :=
    if code = exitSuccess then []
    else [(exitFailure side step code now).forAttempt (some context.jobId) (some context.attempt)]
  (sourceCode.map (failure .source .read)).getD [] ++ failure .destination .write destinationCode

/-- The source of an attempt is launched; a reset has none. -/
def launchSource (c : Connection) (context : AttemptContext) :
    Doing (Except Launch.Error (Option Handle)) := do
  if context.isReset then return .ok none
  else
    match ← demand (.launch (descriptor c .source .read context)) with
    | .ok h => return .ok (some h)
    | .error error => return .error error

def settle (context : AttemptContext) (source : Option Handle) (bytes : Nat)
    (sourceCode : Option Int) (destinationCode : Int) :
    Doing AttemptOutcome := do
  demand (.commit context.jobId context.attempt bytes)
  let failures := exitFailures context sourceCode destinationCode (← demand .time)
  if failures.isEmpty then
    let state ← match source with
      | some h => do
        match ← demand (.output h) with
        | .ok state => pure state
        | .error _ => pure none
      | none => pure none
    return .succeeded ⟨.ofNat bytes, state⟩
  else return .failed failures (0 < bytes)

/-- The connectors of an attempt are launched and run to their ends. -/
def execute (c : Option Connection) (context : AttemptContext) :
    Doing (Except ActivityError AttemptOutcome) := do
  match c with
  | none => return .error (missingConnection context.connectionId)
  | some c =>
    match ← launchSource c context with
    | .error error => return .error (.launch error)
    | .ok source =>
      match ← demand (.launch (descriptor c .destination .write context)) with
      | .error error =>
        destroySource source
        return .error (.launch error)
      | .ok destination =>
        let result ← (pump source destination).run
        destroySource source
        let _ ← demand (.destroy destination)
        match result with
        | .error .cancelled => return .ok .cancelled
        | .error (.failed error) => return .error error
        | .ok (bytes, sourceCode, destinationCode) =>
          return .ok (← settle context source bytes sourceCode destinationCode)
where
  destroySource : Option Handle → Doing Unit
    | some h => do let _ ← demand (.destroy h)
    | none => return

/-- The bytes that an attempt has moved, by the amounts that were committed, the last one first. -/
def bytesCommitted (committed : List ((JobId × Nat) × Nat)) (job : JobId) (attempt : Nat) : Nat :=
  ((committed.find? (·.1 = (job, attempt))).map (·.2)).getD 0

/-- Whether an attempt counts as one that has made progress: it does if it has moved any bytes. -/
def hasProgress (committed : List ((JobId × Nat) × Nat)) (job : JobId) (attempt : Nat) : Bool :=
  0 < bytesCommitted committed job attempt

end Execution

end ConnectorSync.Sync
