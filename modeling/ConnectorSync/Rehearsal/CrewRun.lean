import ConnectorSync.Rehearsal.CrewPlay

/-!
# Rehearsals with a crew

Connectors of a crew are launched and handled one by one, or by executions of attempts, while time
passes.
-/

namespace ConnectorSync.Rehearsal

open Json Sync Workload

/-- A crew and whether the execution in progress is cancelled. -/
structure Troupe where
  crew : Crew
  isCancelled : Bool := false

abbrev TroupeStage := Stage Troupe Unit

def troupeView : CrewView Troupe where
  crew := Troupe.crew
  setCrew crew w := { w with crew }
  isCancelled := Troupe.isCancelled

def day : Nat := 86400000

def longestQuestion : Nat := 30 * day

/-- An answer, or that there was none in time. -/
def orHang (answer : Option Value) : Value := answer.getD (tell "hang")

/-- What is told of what went on upon a stage: if something broke down, nothing but that. -/
def Stage.tellUnlessHalted {World σ : Type} (s : Stage World σ) (told : Value) : Value :=
  if s.isHalted then tellBreakdown else told

/-- Whether a question had an answer that is no error. -/
def isGood {ε α : Type} : Option (Except ε α) → Bool
  | some (.ok _) => true
  | _ => false

/-- The answer to a question that may fail, or that it hangs. -/
def goodOrHang {ε α : Type} (complain : ε → Complaint) (f : α → Value) :
    Option (Except ε α) → Value
  | some r => goodOr complain f r
  | none => tell "hang"

def onCrew (s : TroupeStage) (f : Crew → Value × Crew) : Value × TroupeStage :=
  let (v, crew) := f s.world.crew
  (v, s.mapWorld fun w => { w with crew })

/-- An exit code, or that there is none yet. -/
def tellExit (code : Option Int) : Value :=
  match code with
  | some code => good (.int code)
  | none => (Complaint.ofWorkload .notTerminated).report

def askMember (s : TroupeStage) (h : Handle) (question : Value) : Value × TroupeStage :=
  let member? := s.world.crew.member? h
  let code := member?.bind (·.exitCode s.clock)
  match text (item question 0) with
  | "exit_value" => (tellExit code, s)
  | "has_exited" => (.bool code.isSome, s)
  | "wait_for" =>
    let (answer, s) := s.perform (troupeView.awaitEnd h) longestQuestion
    (orHang (answer.map tellExit), s)
  | "wait_for_timeout" =>
    match code, restTicks (duration (item question 1)) with
    | some _, _ => (good (.bool true), s)
    | none, 0 => (good (.bool false), s)
    | none, ticks + 1 =>
      match s.perform (troupeView.awaitEnd h) ticks with
      | (some (some _), s) => (good (.bool true), s)
      | (_, s) => (good (.bool false), { s with clock := s.clock + 1 })
  | "destroy" => onCrew s fun c => (good .null, c.modify h (·.destroy s.clock))
  | "output" => (good .null, s)
  | "info" => (.orNull (member?.map fun m => tell m.info.encode.render), s)
  | "take_stdin" => onCrew s fun c =>
    let (taken, c) := c.takeStdin h
    (.bool taken, c)
  | "write_stdin" => onCrew s fun c =>
    if member?.any (·.stdinOpen) then (tell "ok", c.feed h (bytes (item question 1)))
    else (.null, c)
  | "close_stdin" => onCrew s fun c => (.null, c.modify h fun m => { m with stdinOpen := false })
  | "read_stdout" => onCrew s fun c =>
    let (bs, c) := c.takeStdout h
    (.orNull (bs.map fun bs => .object [("bytes", tellBytes bs)]), c)
  | _ => (.null, s)

def crewStep (s : TroupeStage) (v : Value) : Value × TroupeStage :=
  match text (item v 0) with
  | "behavior" => onCrew s fun c =>
    (.null, c.setBehavior (step (item v 1)) (behavior (item v 2)))
  | "fail_launches" => onCrew s fun c => (.null, { c with failingLaunches := natural (item v 1) })
  | "create" =>
    match descriptor (item v 1) with
    | .error fault => ((Complaint.ofJson "Json" fault).report, s)
    | .ok d => onCrew s fun c =>
      match c.launch d s.clock with
      | (.ok _, c) => (tell "ok", c)
      | (.error e, c) => ((Complaint.ofLaunch e).report, c)
  | "sleep" => (.null, s.advance (restTicks (duration (item v 1))))
  | "steps" => (s.world.crew.steps, s)
  | _ => askMember s (natural (item v 1)) (item v 2)

/-- A rehearsal with a crew whose connectors are handled one by one. -/
def rehearseCrew (v : Value) : Value :=
  let (reports, s) := (items (part v "steps")).foldl (fun (reports, s) st =>
    let (r, s) := crewStep s st
    (Value.object [("r", r), ("t", .nat s.clock)] :: reports, s))
    (([] : List Value), ({ world := ⟨{}, false⟩ } : TroupeStage))
  .object [("backend", tell "mock"), ("steps", .array reports.reverse),
    ("processes", s.world.crew.report)]

/-! ### Executions -/

/-- A call of an execution, which may be cancelled after a time. -/
def executionCall (s : TroupeStage) (v : Value)
    (play : AttemptContext → Play Troupe (Except ActivityError Value)) : Value × TroupeStage :=
  let context : AttemptContext :=
    ⟨uuid (part v "connection_id"), integer (part v "job_id"), natural (part v "attempt"),
      truth (part v "is_reset")⟩
  let cancelAfter := optionally (fun d => (duration d).ticks) (part v "cancel_after_ms")
  let s := s.mapWorld fun w => { w with isCancelled := cancelAfter = some 0 }
  let s := match cancelAfter with
    | some ticks => s.enter (fun _ => do
        Play.restFor ticks
        let _ ← Play.change fun _ w => { w with isCancelled := true }
        return .inr ()) ()
    | none => s
  let (answer, s) := s.perform (play context) day
  (orHang (answer.map (valueOr .ofActivity)), { s with players := [] })

def executionStep (s : TroupeStage) (v : Value) : Value × TroupeStage :=
  match text (part v "call") with
  | "check" => executionCall s v fun context => do
    return (← troupeView.check context
      (if text (part v "side") = "destination" then .destination else .source)).map tellCheck
  | "run" => executionCall s v fun context => do
    return (← troupeView.execute context).map tellAttempt
  | "progress" =>
    (.bool (Execution.hasProgress s.world.crew.committed (integer (part v "job_id"))
      (natural (part v "attempt"))), s)
  | "behavior" => onCrew s fun c =>
    (.null, c.setBehavior (step (part v "step")) (behavior (part v "behavior")))
  | _ => onCrew s fun c => (.null, { c with failingLaunches := natural (part v "n") })

def rehearseExecution (v : Value) : Value :=
  valueOr (.ofJson "Json") do
    let crew ← crew v
    let (reports, s) := (items (part v "steps")).foldl (fun (reports, s) st =>
      let (r, s) := executionStep s st
      (Value.object [("r", hideTimes r), ("t", .nat s.clock)] :: reports, s))
      (([] : List Value), ({ world := ⟨crew, false⟩ } : TroupeStage))
    return .object [("steps", .array reports.reverse), ("launched", s.world.crew.steps),
      ("processes", s.world.crew.report)]

end ConnectorSync.Rehearsal
