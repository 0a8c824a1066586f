import ConnectorSync.Rehearsal.CrewRun
import ConnectorSync.Rehearsal.Keeper
import ConnectorSync.Rehearsal.ScriptedHost
import ConnectorSync.Workload.Wire

/-!
# Rehearsals of a container

A connector is launched in a container of a host that plays its part, and the container's keeper is
asked one question after the other.
-/

namespace ConnectorSync.Rehearsal

open Json Docker

/-- The surroundings of a container's keeper. -/
structure ContainerWorld where
  host : ScriptedHost
  keeper : Keeper := {}

def hostPart : Part ContainerWorld ScriptedHost :=
  ⟨ContainerWorld.host, fun host w => { w with host }⟩

def containerHouse : ContainerHouse ContainerWorld where
  keeper := ⟨ContainerWorld.keeper, fun keeper w => { w with keeper }⟩
  host r := Play.within hostPart (ScriptedHost.answer r)

abbrev ContainerStage := Stage ContainerWorld Unit

namespace ContainerStage

/-- Talk of the keeper, unless it takes too long. -/
def talk {α : Type} (s : ContainerStage) (t : Docker.Talk α) : Option α × ContainerStage :=
  s.perform (t.perform containerHouse.answer) longestQuestion

/-- Talk without a bound, unless it takes too long. -/
def converse {σ α : Type} (s : ContainerStage) (turns : Docker.Turns σ α) (start : σ) :
    Option α × ContainerStage :=
  s.performTurns (fun state => (turns state).perform containerHouse.answer) start longestQuestion

def onHost {α : Type} (s : ContainerStage) (f : Nat → ScriptedHost → α × ScriptedHost) :
    α × ContainerStage :=
  let (a, host) := f s.clock s.world.host
  (a, s.mapWorld fun w => { w with host })

end ContainerStage

/-- An output stream of a child that was not taken before, read to its end. -/
def readStream (s : ContainerStage) (child : Host.Child) (isTaken : ScriptedChild → Bool)
    (take : ScriptedChild → ScriptedChild) (stream : Response → Bytes) : Value × ContainerStage :=
  match s.world.host.child? child with
  | none => (.null, s)
  | some c =>
    if isTaken c then (.null, s)
    else
      let ((), s) := s.onHost fun _ h => ((), h.modify child take)
      let (ended, s) := s.perform
        (Play.within hostPart (ScriptedHost.awaitChild child fun _ => false)) longestQuestion
      (orHang (ended.map fun () => .object [("bytes", tellBytes (stream c.response))]), s)

def containerStep (c : Container) (s : ContainerStage) (v : Value) : Value × ContainerStage :=
  match text (item v 0) with
  | "exit_value" =>
    let (r, s) := s.talk c.exitValue
    (goodOrHang .ofWorkload .int r, s)
  | "has_exited" =>
    let (r, s) := s.talk c.exitValue
    (.bool (isGood r), s)
  | "wait_for" =>
    let (r, s) := s.converse c.waitFor ()
    (goodOrHang .ofWorkload .int r, s)
  | "wait_for_timeout" =>
    let (r, s) := s.converse c.awaitExit (.begun (duration (item v 1)))
    (goodOrHang .ofWorkload .bool r, s)
  | "destroy" =>
    let (_, s) := s.talk c.destroy
    (good .null, s)
  | "output" => (good .null, s)
  | "info" => (tell c.info.encode.render, s)
  | "take_stdin" =>
    let (taken, s) := s.onHost fun _ h => h.takeInput c.child
    (.bool taken, s)
  | "write_stdin" =>
    if (s.world.host.child? c.child).any (·.isInputOpen) then
      let ((), s) := s.onHost fun _ h => ((), h.feed c.child (bytes (item v 1)))
      (tell "ok", s)
    else (.null, s)
  | "close_stdin" =>
    let ((), s) := s.onHost fun clock h => ((), h.closeInput c.child clock)
    (.null, s)
  | "read_stdout" => readStream s c.child (·.isStdoutTaken)
    (fun c => { c with isStdoutTaken := true }) (·.stdout)
  | "read_stderr" => readStream s c.child (·.isStderrTaken)
    (fun c => { c with isStderrTaken := true }) (·.stderr)
  | "sleep" => (.null, s.advance (duration (item v 1)).ticks)
  | _ => (.null, s)

def workspacePlace : Files.Place := ["work", "ws"]

/-- A rehearsal of how input files are written into a workspace that may have files already. -/
def rehearseInputFiles (v : Value) : Value := valueOr (.ofJson "Json") do
  let d ← descriptor (part v "descriptor")
  let host : ScriptedHost := { files := filesBelow workspacePlace (part v "existing") }
  let dir := jobRoot ("/" ++ String.intercalate "/" workspacePlace) d
  let (r, s) := Stage.perform ({ world := host } : Stage ScriptedHost Unit)
    ((materialize dir d).perform ScriptedHost.answer) longestQuestion
  let told := orHang (r.map fun r => valueOr (.ofFault "Io") (r.map fun () => tell "ok"))
  return .object [("r", told), ("tree", tellTree s.world.files workspacePlace)]

def rehearseContainer (v : Value) : Value := valueOr (.ofJson "Json") do
  let d ← descriptor (part v "descriptor")
  let config := { launchConfig (part v "config") with
    backend := .docker
    workspaceRoot := "/" ++ String.intercalate "/" workspacePlace }
  let host : ScriptedHost :=
    { files := filesBelow workspacePlace .null, responses := responses (part v "responses") }
  let name := d.processName (suffixOf 0) config.nameLimit
  let (created, s) :=
    ContainerStage.talk { world := { host } } (Container.create config d name)
  let ends (s : ContainerStage) : List (String × Value) :=
    [("calls", .array (s.world.host.tellCalls stagingDir 0)),
      ("tree", tellTree s.world.host.files workspacePlace)]
  let report : Value := match created with
    | some (.ok c) =>
      let (reports, s) := (items (part v "steps")).foldl (fun (reports, s) st =>
        let (r, s) := containerStep c s st
        let files := (s.world.host.files.below workspacePlace).length
        (Value.object [("r", r), ("files", .nat files)] :: reports, s)) (([] : List Value), s)
      s.tellUnlessHalted <| .object ([("backend", tell config.launcherName), ("create", tell "ok"),
        ("steps", .array reports.reverse)] ++ ends s)
    | some (.error e) => .object ([("create", (Complaint.ofLaunch e).report)] ++ ends s)
    | none => .object ([("create", tell "hang")] ++ ends s)
  return mapTexts (hideNames [name]) report

end ConnectorSync.Rehearsal
