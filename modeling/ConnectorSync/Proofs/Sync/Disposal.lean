import ConnectorSync.Proofs.Surroundings
import ConnectorSync.Sync.Execution

/-!
# What was launched is destroyed

An execution keeps a roll of the connectors it has launched and destroyed. Whatever it is answered,
and wherever the copying and waiting between two connectors is cut off, the roll of an execution that
has ended tells of some launches and then of the destructions of the same connectors.
-/

namespace ConnectorSync.Sync

open Execution

inductive Mark
  | launched (h : Handle)
  | destroyed (h : Handle)
  deriving DecidableEq, Repr

abbrev Roll := List Mark

/-- A launch that failed leaves nothing to destroy; a destruction counts whether or not it failed. -/
def Roll.after (roll : Roll) : (d : Deed) → d.Answer → Roll
  | .launch _, .ok h => roll ++ [.launched h]
  | .destroy h, _ => roll ++ [.destroyed h]
  | _, _ => roll

/-- Launchers and connectors that answer whatever they like. -/
def anybody : Surroundings Deed Deed.Answer Roll where
  Happens _ _ := False
  Answers roll d answer after := after = roll.after d answer

/-- Some connectors were launched, and then all of them were destroyed. -/
def Roll.IsClear (roll : Roll) : Prop :=
  ∃ hs : List Handle, roll = hs.map .launched ++ hs.map .destroyed

/-! ### Copying and waiting that is cut off -/

/-- A dialogue that is cancelled before its request of the given number, if it comes to that. -/
def cutOff {α : Type} : Nat → Doing (Except Stop α) → Doing (Except Stop α)
  | _, .done result => .done result
  | 0, .ask .. => .done (.error .cancelled)
  | n + 1, .ask d next => .ask d fun answer => cutOff n (next answer)

/-- What is done with the connectors of an attempt until both have ended. -/
abbrev Pumping := Option Handle → Handle → Doing (Except Stop (Nat × Option Int × Int))

/-- An execution that copies and waits in a given way. -/
def executeBy (pumping : Pumping) (c : Option Connection) (context : AttemptContext) :
    Doing (Except ActivityError AttemptOutcome) := do
  match c with
  | none => return .error (missingConnection context.connectionId)
  | some c =>
    match ← launchSource c context with
    | .error error => return .error (.launch error)
    | .ok source =>
      match ← demand (.launch (descriptor c .destination .write context)) with
      | .error error =>
        execute.destroySource source
        return .error (.launch error)
      | .ok destination =>
        let result ← pumping source destination
        execute.destroySource source
        let _ ← demand (.destroy destination)
        match result with
        | .error .cancelled => return .ok .cancelled
        | .error (.failed error) => return .error error
        | .ok (bytes, sourceCode, destinationCode) =>
          return .ok (← settle context source bytes sourceCode destinationCode)

theorem execute_eq (c : Option Connection) (context : AttemptContext) :
    execute c context =
      executeBy (fun source destination => (pump source destination).run) c context :=
  rfl

/-- An execution cancelled while it copies or waits, before so many requests of that part. -/
def executeUntil (patience : Nat) : Option Connection → AttemptContext →
    Doing (Except ActivityError AttemptOutcome) :=
  executeBy fun source destination => cutOff patience (pump source destination).run

/-! ### Deeds that do not concern the roll -/

def Deed.IsQuiet : Deed → Prop
  | .launch _ | .destroy _ => False
  | _ => True

theorem Roll.after_quiet {roll : Roll} {d : Deed} {answer : d.Answer} (quiet : d.IsQuiet) :
    roll.after d answer = roll := by
  cases d with
  | launch | destroy => exact quiet.elim
  | _ => rfl

variable {α : Type} {roll : Roll}

theorem lasts_anybody (P : Roll → Prop) : anybody.Lasts P := fun _ _ _ happens => happens.elim

theorem leads_quiet {d : Doing α} (quiet : d.Within Deed.IsQuiet fun _ => True) :
    anybody.Leads (fun _ after => after = roll) d roll := by
  refine (Surroundings.Leads.of_within quiet (lasts_anybody (· = roll)) ?_ rfl).mono
    fun _ _ h => h.2
  rintro _ d answer _ quiet rfl rfl
  exact Roll.after_quiet quiet

theorem within_cutOff {d : Doing (Except Stop α)} (quiet : d.Within Deed.IsQuiet fun _ => True)
    (n : Nat) : (cutOff n d).Within Deed.IsQuiet fun _ => True := by
  induction d generalizing n with
  | done result => cases n <;> exact trivial
  | ask d next ih =>
    cases n with
    | zero => exact trivial
    | succ n => exact ⟨quiet.1, fun answer => ih answer (quiet.2 answer) n⟩

theorem within_exitOf (h : Handle) : (exitOf h).run.Within Deed.IsQuiet fun _ => True := by
  refine .liftRun ⟨trivial, fun _ => trivial⟩ fun answer => ?_
  rcases answer with _ | error | code <;> exact trivial

theorem within_exitOf_some (h : Handle) :
    (some <$> exitOf h).run.Within Deed.IsQuiet fun _ => True := by
  rw [← bind_pure_comp]
  exact .bindRun (within_exitOf h) fun _ => trivial

/-- The end of the part in which an execution waits, from the closing of the input on. -/
theorem within_waiting (stdin : Bool) {sourceCode : Stoppable (Option Int)}
    (quiet : sourceCode.run.Within Deed.IsQuiet fun _ => True) (destination : Handle) (bytes : Nat) :
    (do
      if stdin then
        attempting (.closeStdin destination)
      let sourceCode ← sourceCode
      let destinationCode ← exitOf destination
      return (bytes, sourceCode, destinationCode) : Stoppable (Nat × Option Int × Int)).run.Within
      Deed.IsQuiet fun _ => True := by
  have codes : (do
      let sourceCode ← sourceCode
      let destinationCode ← exitOf destination
      return (bytes, sourceCode, destinationCode) : Stoppable (Nat × Option Int × Int)).run.Within
      Deed.IsQuiet fun _ => True :=
    .bindRun quiet fun _ => .bindRun (within_exitOf destination) fun _ => trivial
  cases stdin with
  | false => exact codes
  | true => exact .liftRun ⟨trivial, fun _ => trivial⟩ fun _ => codes

theorem within_pump (source : Option Handle) (destination : Handle) :
    (pump source destination).run.Within Deed.IsQuiet fun _ => True := by
  have quiet {d : Deed} (h : d.IsQuiet) : (demand d).Within Deed.IsQuiet fun _ => True :=
    ⟨h, fun _ => trivial⟩
  unfold pump
  refine .liftRun (quiet trivial) fun _ => .liftRun (quiet trivial) fun _ => ?_
  cases source with
  | none =>
    have none : (pure none : Stoppable (Option Int)).run.Within Deed.IsQuiet fun _ => True := trivial
    exact .liftRun (quiet trivial) fun stdin => within_waiting stdin none destination 0
  | some source =>
    refine .liftRun (quiet trivial) fun _ => .liftRun (quiet trivial) fun stdin => ?_
    refine .liftRun (quiet trivial) fun stdout => ?_
    have waiting := fun bytes => within_waiting stdin (within_exitOf_some source) destination bytes
    dsimp only
    cases stdin && stdout with
    | false => exact waiting 0
    | true =>
      refine .liftRun (quiet trivial) fun answer => ?_
      rcases answer with _ | fault | bytes
      · exact trivial
      · exact trivial
      · exact waiting bytes

theorem within_settle (context : AttemptContext) (source : Option Handle) (bytes : Nat)
    (sourceCode : Option Int) (destinationCode : Int) :
    (settle context source bytes sourceCode destinationCode).Within Deed.IsQuiet fun _ => True := by
  unfold settle
  refine .request trivial fun _ => .request trivial fun now => ?_
  dsimp only
  split
  · cases source with
    | none => exact trivial
    | some h => exact .request trivial fun answer => by cases answer <;> exact trivial
  · exact trivial

/-! ### From the first launch to the last destruction -/

theorem leads_launch_any (d : Launch.Descriptor) :
    anybody.Leads (fun answer after => after = roll.after (.launch d) answer)
      (demand (.launch d)) roll :=
  .ask (lasts_anybody (· = roll)) rfl fun _ _ _ same answers => same ▸ answers

theorem leads_destroy_any (h : Handle) :
    anybody.Leads (fun _ after => after = roll ++ [.destroyed h]) (demand (.destroy h)) roll :=
  .ask (lasts_anybody (· = roll)) rfl fun _ _ _ same answers => same ▸ answers

theorem leads_destroySource_any (source : Option Handle) :
    anybody.Leads (fun _ after => after = roll ++ source.toList.map .destroyed)
      (execute.destroySource source) roll := by
  cases source with
  | none => exact (List.append_nil roll).symm
  | some h => exact .bind (leads_destroy_any h) fun _ _ same => same

theorem leads_launchSource_any (c : Connection) (context : AttemptContext) :
    anybody.Leads
      (fun result after => after = match result with
        | .ok source => source.toList.map .launched
        | .error _ => [])
      (launchSource c context) [] := by
  unfold launchSource
  split
  · rfl
  · refine .bind (leads_launch_any _) fun answer after same => ?_
    cases answer with
    | error error => exact same
    | ok h => exact same

theorem leads_check (c : Option Connection) (context : AttemptContext) (side : Side) :
    anybody.Leads (fun _ => Roll.IsClear) (check c context side) [] := by
  cases c with
  | none => exact ⟨[], rfl⟩
  | some c =>
    refine .bind (leads_launch_any _) fun answer roll same => ?_
    cases answer with
    | error error => exact ⟨[], same⟩
    | ok h =>
      cases same
      refine .bind (leads_quiet (d := demand (.waitFor h)) ⟨trivial, fun _ => trivial⟩) ?_
      rintro code _ rfl
      refine .bind (leads_destroy_any h) ?_
      rintro _ _ rfl
      have clear : Roll.IsClear [.launched h, .destroyed h] := ⟨[h], rfl⟩
      rcases code with _ | error | code
      · exact clear
      · exact clear
      · refine .bind (leads_quiet (d := demand .time) ⟨trivial, fun _ => trivial⟩) ?_
        rintro now _ rfl
        exact clear

theorem leads_executeBy {pumping : Pumping}
    (quiet : ∀ source destination, (pumping source destination).Within Deed.IsQuiet fun _ => True)
    (c : Option Connection) (context : AttemptContext) :
    anybody.Leads (fun _ => Roll.IsClear) (executeBy pumping c context) [] := by
  cases c with
  | none => exact ⟨[], rfl⟩
  | some c =>
    refine .bind (leads_launchSource_any c context) fun launched roll same => ?_
    cases launched with
    | error error => exact ⟨[], same⟩
    | ok source =>
      cases same
      refine .bind (leads_launch_any _) fun answer roll same => ?_
      cases answer with
      | error error =>
        cases same
        exact .bind (leads_destroySource_any source) fun _ _ same => ⟨source.toList, same⟩
      | ok destination =>
        cases same
        refine .bind (leads_quiet (quiet source destination)) ?_
        rintro result _ rfl
        refine .bind (leads_destroySource_any source) ?_
        rintro _ _ rfl
        refine .bind (leads_destroy_any destination) ?_
        rintro _ _ rfl
        have clear : Roll.IsClear (source.toList.map .launched ++ [.launched destination] ++
            source.toList.map .destroyed ++ [.destroyed destination]) :=
          ⟨source.toList ++ [destination], by simp⟩
        -- Everything is destroyed by now; what came of the copying decides only what else is asked.
        rcases result with (_ | error) | ⟨bytes, sourceCode, destinationCode⟩
        · exact clear
        · exact clear
        · have quiet := within_settle context source bytes sourceCode destinationCode
          refine .bind (leads_quiet quiet) ?_
          rintro outcome _ rfl
          exact clear

/-- Whatever a check or an execution is answered, and whether or not it is cut off while it copies or
waits, it ends only after some launches and the destruction of every connector launched. -/
theorem launched_all_destroyed (c : Option Connection) (context : AttemptContext) :
    (∀ (side : Side) {result roll},
      anybody.Steps ⟨check c context side, []⟩ ⟨.done result, roll⟩ → roll.IsClear) ∧
    (∀ {result roll}, anybody.Steps ⟨execute c context, []⟩ ⟨.done result, roll⟩ →
      roll.IsClear) ∧
    ∀ (patience : Nat) {result roll},
      anybody.Steps ⟨executeUntil patience c context, []⟩ ⟨.done result, roll⟩ → roll.IsClear := by
  have lasts (_ : Except ActivityError AttemptOutcome) := lasts_anybody Roll.IsClear
  refine ⟨fun side _ _ steps => ?_, fun steps => ?_, fun patience _ _ steps => ?_⟩
  · exact (leads_check c context side).ended (fun _ => lasts_anybody _) steps
  · rw [execute_eq] at steps
    exact (leads_executeBy within_pump c context).ended lasts steps
  · have quiet (source : Option Handle) (destination : Handle) :=
      within_cutOff (within_pump source destination) patience
    exact (leads_executeBy quiet c context).ended lasts steps

/-! ### Runs -/

/-- Answers of a launcher that does not fail, and of connectors with which everything else does. -/
def failing (roll : Roll) : (d : Deed) → d.Answer
  | .launch _ => .ok roll.length
  | .takeStdin _ | .takeStdout _ | .takeStderr _ => true
  | .copy .. => some (.error .notFound)
  | .waitFor _ => some (.error .timeout)
  | .destroy _ => .error .timeout
  | .output _ => .error .timeout
  | .closeStdin _ | .commit .. => ()
  | .time => default

def failed (d : Doing α) (answers : Nat) : Surroundings.Scene Deed Deed.Answer Roll α :=
  Surroundings.served (fun roll d => some (failing roll d, roll.after d (failing roll d))) answers
    ⟨d, []⟩

theorem steps_failed (d : Doing α) (answers : Nat) : anybody.Steps ⟨d, []⟩ (failed d answers) :=
  Surroundings.steps_served (by rintro _ _ _ _ ⟨⟩; rfl) answers _

def sampleConnection : Option Connection :=
  some { id := Uuid.zero
         source := { image := "source", config := .null }
         destination := { image := "destination", config := .null } }

def sampleContext : AttemptContext := ⟨Uuid.zero, 1, 1, false⟩

theorem launched_all_destroyed_failing :
    ((failed (check sampleConnection sampleContext .source) 3).state = [.launched 0, .destroyed 0] ∧
      (failed (check sampleConnection sampleContext .source) 3).state.IsClear) ∧
    ((failed (execute sampleConnection sampleContext) 10).state =
        [.launched 0, .launched 1, .destroyed 0, .destroyed 1] ∧
      (failed (execute sampleConnection sampleContext) 10).state.IsClear) ∧
    ((failed (executeUntil 3 sampleConnection sampleContext) 7).state =
        [.launched 0, .launched 1, .destroyed 0, .destroyed 1] ∧
      (failed (executeUntil 3 sampleConnection sampleContext) 7).state.IsClear) :=
  have ⟨checked, executed, cut⟩ := launched_all_destroyed sampleConnection sampleContext
  ⟨⟨rfl, checked .source (steps_failed _ 3)⟩, ⟨rfl, executed (steps_failed _ 10)⟩,
    ⟨rfl, cut 3 (steps_failed _ 7)⟩⟩

end ConnectorSync.Sync
