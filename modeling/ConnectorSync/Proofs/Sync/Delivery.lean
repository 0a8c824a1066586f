import ConnectorSync.Proofs.Surroundings
import ConnectorSync.Sync.Execution

/-!
# What reaches the destination

The source writes to its output for as long as it likes and the destination is given what is copied.
An attempt succeeds by the codes of both connectors, so whether the source's bytes have reached the
destination depends on whether both ends of the stream were there to be taken.
-/

namespace ConnectorSync.Sync

open Execution

/-- What went through the streams of a connector, and what was said when they were to be taken. -/
structure Streams where
  written : Bytes := []
  isOver : Bool := false
  received : Bytes := []
  stdin : Option Bool := none
  stdout : Option Bool := none

abbrev Crew := List Streams

inductive Streams.Goes : Streams → Streams → Prop
  | write (s : Streams) (bytes : Bytes) (going : s.isOver = false) :
    Goes s { s with written := s.written ++ bytes }
  | close (s : Streams) : Goes s { s with isOver := true }

namespace Crew

def Happens (crew after : Crew) : Prop :=
  ∃ h s t, crew[h]? = some s ∧ s.Goes t ∧ after = crew.set h t

inductive Copies (source destination : Streams) : Option (Except Files.Fault Nat) → Streams → Prop
  | whole (ended : source.isOver = true) :
    Copies source destination (some (.ok source.written.length))
      { destination with received := destination.received ++ source.written }
  | fault (part : Bytes) (begins : part <+: source.written) (fault : Files.Fault) :
    Copies source destination (some (.error fault))
      { destination with received := destination.received ++ part }
  | cancelled (part : Bytes) (begins : part <+: source.written) :
    Copies source destination none
      { destination with received := destination.received ++ part }

inductive Answers (crew : Crew) : (d : Deed) → d.Answer → Crew → Prop
  | launched (d : Launch.Descriptor) : Answers crew (.launch d) (.ok crew.length)
      (crew ++ [({} : Streams)])
  | notLaunched (d : Launch.Descriptor) (e : Launch.Error) :
    Answers crew (.launch d) (.error e) crew
  | takeStdin (h : Handle) (there : Bool) :
    Answers crew (.takeStdin h) there (crew.modify h ({ · with stdin := some there }))
  | takeStdout (h : Handle) (there : Bool) :
    Answers crew (.takeStdout h) there (crew.modify h ({ · with stdout := some there }))
  | copied (h k : Handle) (s d d' : Streams) (answer : Option (Except Files.Fault Nat))
    (source : crew[h]? = some s) (destination : crew[k]? = some d) (copies : Copies s d answer d') :
    Answers crew (.copy h k) answer (crew.set k d')
  | takeStderr (h : Handle) (there : Bool) : Answers crew (.takeStderr h) there crew
  | closeStdin (h : Handle) : Answers crew (.closeStdin h) () crew
  | ended (h : Handle) (answer : Option (Except Workload.Error Int)) :
    Answers crew (.waitFor h) answer crew
  | destroyed (h : Handle) (answer : Except Workload.Error Unit) :
    Answers crew (.destroy h) answer crew
  | output (h : Handle) (answer : Except Workload.Error (Option String)) :
    Answers crew (.output h) answer crew
  | committed (job : JobId) (attempt bytes : Nat) : Answers crew (.commit job attempt bytes) () crew
  | time (now : Timestamp) : Answers crew .time now crew

end Crew

/-- The connectors of attempts, whatever they do with their streams. -/
def crews : Surroundings Deed Deed.Answer Crew where
  Happens := Crew.Happens
  Answers := Crew.Answers

/-! ### What both connectors have done -/

structure Stable (P : Streams → Streams → Prop) : Prop where
  source : ∀ {s t d}, P s d → s.Goes t → P t d
  destination : ∀ {s d e}, P s d → d.Goes e → P s e

def Pair (P : Streams → Streams → Prop) (crew : Crew) : Prop :=
  ∃ source destination, crew = [source, destination] ∧ P source destination

variable {P : Streams → Streams → Prop}

theorem Stable.lasts (stable : Stable P) : crews.Lasts (Pair P) := by
  rintro _ _ ⟨source, destination, rfl, h⟩ ⟨number, s, t, found, goes, rfl⟩
  match number, found with
  | 0, found =>
    cases found
    exact ⟨t, destination, rfl, stable.source h goes⟩
  | 1, found =>
    cases found
    exact ⟨source, t, rfl, stable.destination h goes⟩

/-- Both ends of the stream between the connectors were there to be taken. -/
def Joined (source destination : Streams) : Prop :=
  destination.stdin = some true ∧ source.stdout = some true

structure Ready (stdin stdout : Option Bool) (source destination : Streams) : Prop where
  stdin : destination.stdin = stdin
  stdout : source.stdout = stdout
  nothing : destination.received = []

structure Moved (bytes : Nat) (source destination : Streams) : Prop where
  count : bytes = destination.received.length
  joined : Joined source destination →
    source.isOver = true ∧ destination.received = source.written
  apart : ¬ Joined source destination → destination.received = []

theorem stable_ready (stdin stdout : Option Bool) : Stable (Ready stdin stdout) where
  source h goes := by cases goes <;> exact ⟨h.stdin, h.stdout, h.nothing⟩
  destination h goes := by cases goes <;> exact ⟨h.stdin, h.stdout, h.nothing⟩

theorem stable_moved (bytes : Nat) : Stable (Moved bytes) where
  source {s t d} h goes := by
    cases goes with
    | write more going =>
      refine ⟨h.count, fun joined => ?_, h.apart⟩
      rw [(h.joined joined).1] at going
      contradiction
    | close => exact ⟨h.count, fun joined => ⟨rfl, (h.joined joined).2⟩, h.apart⟩
  destination h goes := by cases goes <;> exact ⟨h.count, h.joined, h.apart⟩

/-! ### From the launches to the outcome -/

variable {crew : Crew} {α : Type}

/-- A deed that changes nothing of what went through the streams. -/
def Idle (d : Deed) : Prop := ∀ crew answer after, Crew.Answers crew d answer after → after = crew

theorem idle_takeStderr (h : Handle) : Idle (.takeStderr h) := by rintro _ _ _ ⟨⟩; rfl

theorem idle_closeStdin (h : Handle) : Idle (.closeStdin h) := by rintro _ _ _ ⟨⟩; rfl

theorem idle_waitFor (h : Handle) : Idle (.waitFor h) := by rintro _ _ _ ⟨⟩; rfl

theorem idle_destroy (h : Handle) : Idle (.destroy h) := by rintro _ _ _ ⟨⟩; rfl

theorem idle_output (h : Handle) : Idle (.output h) := by rintro _ _ _ ⟨⟩; rfl

theorem idle_commit (job : JobId) (attempt bytes : Nat) : Idle (.commit job attempt bytes) := by
  rintro _ _ _ ⟨⟩; rfl

theorem idle_time : Idle .time := by rintro _ _ _ ⟨⟩; rfl

theorem leads_idle {d : Deed} (idle : Idle d) {C : Crew → Prop} (lasts : crews.Lasts C)
    (h : C crew) : crews.Leads (fun _ => C) (demand d) crew := by
  refine .ask lasts h fun before answer after h answers => ?_
  rw [idle _ _ _ answers]
  exact h

theorem leads_exitOf (h : Handle) {C : Crew → Prop} (lasts : crews.Lasts C) (holds : C crew) :
    crews.Leads (fun _ => C) (exitOf h).run crew := by
  refine .liftRun (leads_idle (idle_waitFor h) lasts holds) fun answer after holds => ?_
  rcases answer with _ | error | code <;> exact holds

theorem leads_drain (h : Pair (Ready none none) crew) :
    crews.Leads (fun _ => Pair (Ready none none)) (demand (.takeStdout 1)) crew := by
  refine .ask (stable_ready none none).lasts h ?_
  rintro _ there _ ⟨source, destination, rfl, ready⟩ ⟨⟩
  exact ⟨source, _, rfl, ready.stdin, ready.stdout, ready.nothing⟩

theorem leads_takeStdin (h : Pair (Ready none none) crew) :
    crews.Leads (fun there => Pair (Ready (some there) none)) (demand (.takeStdin 1)) crew := by
  refine .ask (stable_ready none none).lasts h ?_
  rintro _ there _ ⟨source, destination, rfl, ready⟩ ⟨⟩
  exact ⟨source, _, rfl, rfl, ready.stdout, ready.nothing⟩

theorem leads_takeStdout {stdin : Option Bool} (h : Pair (Ready stdin none) crew) :
    crews.Leads (fun there => Pair (Ready stdin (some there))) (demand (.takeStdout 0)) crew := by
  refine .ask (stable_ready stdin none).lasts h ?_
  rintro _ there _ ⟨source, destination, rfl, ready⟩ ⟨⟩
  exact ⟨_, destination, rfl, ready.stdin, rfl, ready.nothing⟩

theorem moved_of_ready {stdin stdout : Bool} {source destination : Streams}
    (ready : Ready (some stdin) (some stdout) source destination)
    (apart : (stdin && stdout) = false) : Moved 0 source destination where
  count := by rw [ready.nothing, List.length_nil]
  joined joined := by
    obtain ⟨hasStdin, hasStdout⟩ := joined
    rw [ready.stdin, Option.some.injEq] at hasStdin
    rw [ready.stdout, Option.some.injEq] at hasStdout
    rw [hasStdin, hasStdout] at apart
    contradiction
  apart _ := ready.nothing

def Counted (result : Option (Except Files.Fault Nat)) (crew : Crew) : Prop :=
  ∀ bytes, result = some (.ok bytes) → Pair (Moved bytes) crew

theorem leads_copy (h : Pair (Ready (some true) (some true)) crew) :
    crews.Leads Counted (demand (.copy 0 1)) crew := by
  refine .ask (stable_ready _ _).lasts h ?_
  rintro _ answer _ ⟨source, destination, rfl, ready⟩ answers bytes same
  cases answers with
  | copied _ _ s d d' _ isSource isDestination copies =>
    cases isSource
    cases isDestination
    cases copies with
    | whole ended =>
      cases same
      refine ⟨source, _, rfl, ?_, fun _ => ⟨ended, ?_⟩, fun apart => ?_⟩
      · rw [ready.nothing, List.nil_append]
      · rw [ready.nothing, List.nil_append]
      · exact absurd ⟨ready.stdin, ready.stdout⟩ apart
    | fault => cases same
    | cancelled => cases same

def Pumped (result : Except Stop (Nat × Option Int × Int)) (crew : Crew) : Prop :=
  ∀ ended, result = .ok ended → Pair (Moved ended.1) crew

theorem lasts_pumped (result : Except Stop (Nat × Option Int × Int)) :
    crews.Lasts (Pumped result) :=
  fun _ _ h happens ended same => (stable_moved ended.1).lasts (h ended same) happens

theorem leads_codes {bytes : Nat} (h : Pair (Moved bytes) crew) :
    crews.Leads Pumped (do
      let sourceCode ← some <$> exitOf 0
      let destinationCode ← exitOf 1
      return (bytes, sourceCode, destinationCode) : Stoppable _).run crew := by
  rw [bind_map_left]
  have lasts := (stable_moved bytes).lasts
  refine .bindRun (leads_exitOf 0 lasts h) (fun _ _ _ => nofun) fun sourceCode _ h => ?_
  refine .bindRun (leads_exitOf 1 lasts h) (fun _ _ _ => nofun) fun destinationCode _ h => ?_
  rintro _ ⟨⟩
  exact h

theorem leads_close {bytes : Nat} (h : Pair (Moved bytes) crew) :
    crews.Leads Pumped (do
      attempting (.closeStdin 1)
      let sourceCode ← some <$> exitOf 0
      let destinationCode ← exitOf 1
      return (bytes, sourceCode, destinationCode) : Stoppable _).run crew :=
  .liftRun (leads_idle (idle_closeStdin 1) (stable_moved bytes).lasts h) fun _ _ h => leads_codes h

theorem leads_pump (h : Pair (Ready none none) crew) :
    crews.Leads Pumped (pump (some 0) 1).run crew := by
  unfold pump
  have lasts := (stable_ready none none).lasts
  refine .liftRun (leads_idle (idle_takeStderr 1) lasts h) fun _ _ h => ?_
  refine .liftRun (leads_drain h) fun _ _ h => ?_
  refine .liftRun (leads_idle (idle_takeStderr 0) lasts h) fun _ _ h => ?_
  refine .liftRun (leads_takeStdin h) fun stdin _ h => ?_
  refine .liftRun (leads_takeStdout h) fun stdout _ h => ?_
  have apart (not : (stdin && stdout) = false) (crew : Crew)
      (h : Pair (Ready (some stdin) (some stdout)) crew) : Pair (Moved 0) crew := by
    obtain ⟨source, destination, same, ready⟩ := h
    exact ⟨source, destination, same, moved_of_ready ready not⟩
  cases stdin with
  | false => exact leads_codes (apart rfl _ h)
  | true =>
    cases stdout with
    | false => exact leads_close (apart rfl _ h)
    | true =>
      refine .liftRun (leads_copy h) fun answer _ h => ?_
      rcases answer with _ | fault | bytes
      · nofun
      · nofun
      · exact leads_close (h bytes rfl)

def Told (outcome : Except ActivityError AttemptOutcome) (crew : Crew) : Prop :=
  ∀ output, outcome = .ok (.succeeded output) →
    ∃ bytes, output.bytesSynced = .ofNat bytes ∧ Pair (Moved bytes) crew

theorem lasts_told (outcome : Except ActivityError AttemptOutcome) :
    crews.Lasts (Told outcome) := by
  intro _ _ h happens output same
  obtain ⟨bytes, count, moved⟩ := h output same
  exact ⟨bytes, count, (stable_moved bytes).lasts moved happens⟩

theorem leads_settle (context : AttemptContext) (sourceCode : Option Int) (destinationCode : Int)
    {bytes : Nat} (h : Pair (Moved bytes) crew) :
    crews.Leads (fun outcome => Told (.ok outcome))
      (settle context (some 0) bytes sourceCode destinationCode) crew := by
  unfold settle
  have lasts := (stable_moved bytes).lasts
  refine .bind (leads_idle (idle_commit _ _ _) lasts h) fun _ _ h => ?_
  refine .bind (leads_idle idle_time lasts h) fun now _ h => ?_
  dsimp only
  split
  · refine .bind (leads_idle (idle_output 0) lasts h) fun answer _ h => ?_
    cases answer with
    | error e =>
      rintro _ ⟨⟩
      exact ⟨bytes, rfl, h⟩
    | ok state =>
      rintro _ ⟨⟩
      exact ⟨bytes, rfl, h⟩
  · nofun

def Launched (C : Crew → Prop) (answer : Except Launch.Error Handle) (crew : Crew) : Prop :=
  ∀ number, answer = .ok number →
    ∃ before : Crew, C before ∧ number = before.length ∧ crew = before ++ [({} : Streams)]

theorem leads_launch {C : Crew → Prop} (d : Launch.Descriptor) (lasts : crews.Lasts C)
    (h : C crew) : crews.Leads (Launched C) (demand (.launch d)) crew := by
  refine .ask lasts h ?_
  intro before answer after h answers number same
  cases answers with
  | launched =>
    cases same
    exact ⟨before, h, rfl, rfl⟩
  | notLaunched => cases same

def Alone (crew : Crew) : Prop := ∃ source : Streams, crew = [source] ∧ source.stdout = none

theorem lasts_nobody : crews.Lasts (· = []) := by
  rintro _ _ rfl ⟨number, s, t, found, -, -⟩
  contradiction

theorem lasts_alone : crews.Lasts Alone := by
  rintro _ _ ⟨source, rfl, untaken⟩ ⟨number, s, t, found, goes, rfl⟩
  match number, found with
  | 0, found =>
    cases found
    cases goes <;> exact ⟨_, rfl, untaken⟩

theorem leads_launchSource (c : Connection) {context : AttemptContext}
    (sync : context.isReset = false) :
    crews.Leads
      (fun launched crew => ∀ source, launched = .ok source → source = some 0 ∧ Alone crew)
      (launchSource c context) [] := by
  unfold launchSource
  simp only [sync, Bool.false_eq_true, if_false]
  refine .bind (leads_launch _ lasts_nobody rfl) fun answer crew launched => ?_
  cases answer with
  | error e => nofun
  | ok number =>
    rintro _ ⟨⟩
    obtain ⟨_, rfl, rfl, rfl⟩ := launched number rfl
    exact ⟨rfl, _, rfl, rfl⟩

theorem leads_destroySource {C : Crew → Prop} (lasts : crews.Lasts C) (h : C crew) :
    crews.Leads (fun _ => C) (execute.destroySource (some 0)) crew :=
  .bind (leads_idle (idle_destroy 0) lasts h) fun _ _ h => h

theorem leads_execute (c : Option Connection) (context : AttemptContext)
    (sync : context.isReset = false) : crews.Leads Told (execute c context) [] := by
  cases c with
  | none => nofun
  | some c =>
    refine .bind (leads_launchSource c sync) fun launched crew h => ?_
    cases launched with
    | error e => nofun
    | ok source =>
      obtain ⟨rfl, alone⟩ := h source rfl
      refine .bind (leads_launch _ lasts_alone alone) fun answer crew launched => ?_
      cases answer with
      | error e =>
        exact .bind (leads_destroySource (Surroundings.lasts_const True) trivial) fun _ _ _ => nofun
      | ok number =>
        obtain ⟨_, ⟨source, rfl, untaken⟩, rfl, rfl⟩ := launched number rfl
        have ready : Pair (Ready none none) [source, {}] := ⟨source, _, rfl, rfl, untaken, rfl⟩
        refine .bind (leads_pump ready) fun result _ pumped => ?_
        have lasts := lasts_pumped result
        refine .bind (leads_destroySource lasts pumped) fun _ _ pumped => ?_
        refine .bind (leads_idle (idle_destroy 1) lasts pumped) fun _ _ pumped => ?_
        rcases result with (_ | error) | ⟨bytes, sourceCode, destinationCode⟩
        · nofun
        · nofun
        · refine .bind (leads_settle context sourceCode destinationCode (pumped _ rfl)) ?_
          exact fun _ _ told => told

/-- When an attempt that is no reset succeeds, the bytes that reached the destination are those that
the source wrote if and only if both ends of the stream between them were there to be taken, or the
source wrote nothing. -/
theorem received_eq_written_iff (c : Option Connection) (context : AttemptContext)
    (sync : context.isReset = false) {output : SyncOutput}
    (steps : crews.Steps ⟨execute c context, []⟩ ⟨.done (.ok (.succeeded output)), crew⟩) :
    ∃ source destination : Streams, crew = [source, destination] ∧
      output.bytesSynced = .ofNat destination.received.length ∧
      (destination.received = source.written ↔
        Joined source destination ∨ source.written = []) := by
  have told := (leads_execute c context sync).ended lasts_told steps
  obtain ⟨bytes, count, source, destination, rfl, moved⟩ := told output rfl
  refine ⟨source, destination, rfl, by rw [count, moved.count], ?_⟩
  by_cases joined : Joined source destination
  · exact iff_of_true (moved.joined joined).2 (.inl joined)
  · rw [moved.apart joined, or_iff_right joined]
    exact eq_comm

/-! ### Runs -/

/-- What is answered where nothing fails and no connector ends otherwise than well; whether the
destination has an input is as given. A copy is not answered before the source's output is over. -/
def Crew.reply (hasStdin : Bool) (crew : Crew) : (d : Deed) → Option (d.Answer × Crew)
  | .launch _ => some (.ok crew.length, crew ++ [({} : Streams)])
  | .takeStdin h => some (hasStdin, crew.modify h ({ · with stdin := some hasStdin }))
  | .takeStdout h => some (true, crew.modify h ({ · with stdout := some true }))
  | .takeStderr _ => some (true, crew)
  | .copy h k =>
    match crew[h]?, crew[k]? with
    | some s, some d =>
      if s.isOver then
        some (some (.ok s.written.length),
          crew.set k { d with received := d.received ++ s.written })
      else none
    | _, _ => none
  | .closeStdin _ => some ((), crew)
  | .waitFor _ => some (some (.ok Workload.exitSuccess), crew)
  | .destroy _ => some (.ok (), crew)
  | .output _ => some (.ok none, crew)
  | .commit .. => some ((), crew)
  | .time => some (default, crew)

theorem answers_reply {hasStdin : Bool} {before after : Crew} {d : Deed} {answer : d.Answer}
    (h : before.reply hasStdin d = some (answer, after)) :
    crews.Answers before d answer after := by
  unfold Crew.reply at h
  split at h
  case h_5 h k =>
    split at h
    case h_1 s d source destination =>
      split at h
      case isTrue ended =>
        cases h
        exact .copied _ _ _ _ _ _ source destination (.whole ended)
      case isFalse => cases h
    case h_2 => cases h
  all_goals
    cases h
    constructor

abbrev Run := Surroundings.Scene Deed Deed.Answer Crew (Except ActivityError AttemptOutcome)

abbrev Run.Passes : Run → Run → Prop := crews.Steps

namespace Run

def sample : Run where
  rest := execute
    (some { id := Uuid.zero
            source := { image := "source", config := .null }
            destination := { image := "destination", config := .null } })
    ⟨Uuid.zero, 1, 1, false⟩
  state := []

def serve (x : Run) (hasStdin : Bool) (answers : Nat) : Run :=
  Surroundings.served (Crew.reply hasStdin) answers x

theorem passes_serve (x : Run) (hasStdin : Bool) (answers : Nat) :
    x.Passes (x.serve hasStdin answers) :=
  Surroundings.steps_served answers_reply answers x

/-- The source writes three bytes and ends its output, between two answers. -/
def finish (x : Run) : Run :=
  ⟨x.rest, x.state.modify 0 fun s => { s with written := s.written ++ [1, 2, 3], isOver := true }⟩

theorem passes_finish {x : Run} {s : Streams} {rest : Crew} (crew : x.state = s :: rest)
    (going : s.isOver = false) : x.Passes x.finish := by
  obtain ⟨_, _⟩ := x
  cases crew
  exact .tail (.single (.happening _ ⟨0, s, _, rfl, .write s [1, 2, 3] going, rfl⟩))
    (.happening _ ⟨0, _, _, rfl, .close _, rfl⟩)

/-- An attempt during which the source writes three bytes, whether or not the destination has an
input to copy them to. -/
def whole (hasStdin : Bool) : Run := ((sample.serve hasStdin 7).finish).serve hasStdin 20

theorem passes_whole (hasStdin : Bool) : sample.Passes (whole hasStdin) := by
  have launched : ∃ s rest, (sample.serve hasStdin 7).state = s :: rest ∧ s.isOver = false :=
    ⟨_, _, rfl, rfl⟩
  obtain ⟨s, rest, crew, going⟩ := launched
  exact ((passes_serve _ _ 7).trans (passes_finish crew going)).trans (passes_serve _ _ 20)

end Run

theorem received_of_joined :
    Run.sample.Passes ⟨.done (.ok (.succeeded ⟨3, none⟩)), (Run.whole true).state⟩ ∧
      ∃ source destination : Streams, (Run.whole true).state = [source, destination] ∧
        (3 : UInt64) = .ofNat destination.received.length ∧
        (destination.received = source.written ↔
          Joined source destination ∨ source.written = []) :=
  ⟨Run.passes_whole true, received_eq_written_iff _ _ rfl (Run.passes_whole true)⟩

/-- A destination without an input gets nothing of what the source writes, and the attempt succeeds
all the same. -/
theorem written_yet_not_received :
    ∃ source destination : Streams,
      Run.sample.Passes ⟨.done (.ok (.succeeded ⟨0, none⟩)), [source, destination]⟩ ∧
        source.written = [1, 2, 3] ∧ destination.received = [] :=
  ⟨_, _, Run.passes_whole false, rfl, rfl⟩

end ConnectorSync.Sync
