import ConnectorSync.Proofs.Sync.Run

/-!
# Replays

Runs that can be computed: no call fails that need not, every wait is over at once, connectors pass
their checks, and a job is attempted at most twice.
-/

namespace ConnectorSync.Sync

/-- A call carried out on the jobs, if it can be. -/
def Call.carryOut (id : Uuid) (s : JobStore) :
    (c : Call) → Except ActivityError (c.Reply × JobStore)
  | createJob isReset => .ok (s.createJob id isReset default)
  | createAttempt job => s.createAttempt job
  | reportJobStart job => (s.reportJobStart job).map ((), ·)
  | failAttempt job attempt status summary =>
    (s.failAttempt job attempt status summary).map ((), ·)
  | failJob job reason => (s.failJob job reason).map ((), ·)
  | jobSuccess job attempt output => (s.jobSuccess job attempt output).map ((), ·)
  | jobCancelled job attempt summary => (s.jobCancelled job attempt summary).map ((), ·)
  | getJob job => (s.get job).map (·, s)
  | nonTerminalJobs => .ok (s.nonTerminalJobs id, s)
  | isLastFailure job => .ok (s.isLastFailure id job, s)
  | timeUntilNextRun => .ok (.zero, s)
  | maxAttempts => .ok (2, s)
  | hydrate _ => .ok (none, s)
  | persist .. => .ok ((), s)
  | checkProgress .. | evaluateAutoDisable => .ok (false, s)

theorem Call.effect_carryOut {id : Uuid} {s t : JobStore} {c : Call} {reply : c.Reply}
    (h : c.carryOut id s = .ok (reply, t)) : c.Effect id s reply t := by
  have mapped {α β : Type} {result : Except ActivityError α} {f : α → β} {b : β}
      (h : result.map f = .ok b) : ∃ a, result = .ok a ∧ f a = b := by
    cases result with
    | error e => cases h
    | ok a => exact ⟨a, rfl, Except.ok.inj h⟩
  cases c with
  | createJob isReset => exact ⟨default, Except.ok.inj h⟩
  | createAttempt job => exact h
  | reportJobStart | failAttempt | failJob | jobSuccess | jobCancelled =>
    obtain ⟨u, hu, he⟩ := mapped h
    cases he
    exact hu
  | getJob job =>
    obtain ⟨record, hg, he⟩ := mapped h
    cases he
    exact ⟨hg, rfl⟩
  | nonTerminalJobs | isLastFailure =>
    cases h
    exact ⟨rfl, rfl⟩
  | timeUntilNextRun | maxAttempts | hydrate | persist | checkProgress | evaluateAutoDisable =>
    cases h
    rfl

def World.serve (id : Uuid) (outcome : AttemptOutcome) (w : World) :
    (r : Request) → r.Answer × World
  | .call c =>
    match c.carryOut id w.jobs with
    | .ok (reply, jobs) => (.ok reply, { w with jobs })
    | .error e => (.error e, w)
  | .check .. => (.ok .succeeded, w)
  | .execute _ => (.ok outcome, w)
  | .enter s => ((w.control, s.apply w.control), { w with control := s.apply w.control })
  | .wait .. | .pause _ => ((), w)
  | .time => (default, w)

theorem World.answers_serve (id : Uuid) (outcome : AttemptOutcome) (w : World) (r : Request) :
    w.Answers id r (w.serve id outcome r).1 (w.serve id outcome r).2 := by
  cases r with
  | call c =>
    unfold serve
    dsimp only
    cases h : c.carryOut id w.jobs with
    | ok result => exact .carried c result.1 result.2 (Call.effect_carryOut h)
    | error e => exact .failed c e
  | check context side => exact .checked context side _
  | execute context => exact .executed context _
  | enter s => exact .entered s
  | wait span purpose => exact .waited span purpose
  | pause span => exact .paused span
  | time => exact .timed _

namespace Moment

inductive Move
  | hear (s : Signal)
  | serve (outcome : AttemptOutcome) (answers : Nat)

variable (m : Manager)

def serve (outcome : AttemptOutcome) : Nat → Moment → Moment
  | 0, a => a
  | n + 1, ⟨.done (some input), w⟩ => serve outcome n ⟨m.turn input, w⟩
  | _ + 1, ⟨.done none, w⟩ => ⟨.done none, w⟩
  | n + 1, ⟨.ask r next, w⟩ =>
    let (answer, w') := w.serve m.connectionId outcome r
    serve outcome n ⟨next answer, w'.note r answer⟩

def move (a : Moment) : Move → Moment
  | .hear s => ⟨a.rest, a.world.hear s⟩
  | .serve outcome answers => serve m outcome answers a

def replay (moves : List Move) : Moment := moves.foldl (move m) (first m [])

theorem steps_serve (outcome : AttemptOutcome) (n : Nat) (a : Moment) :
    a.Steps m (serve m outcome n a) := by
  induction n generalizing a with
  | zero => exact .refl
  | succ n ih =>
    obtain ⟨rest, w⟩ := a
    cases rest with
    | done result =>
      cases result with
      | none => exact .refl
      | some input => exact .head (.generation input w) (ih _)
    | ask r next =>
      exact .head (.answer r next w _ _ (w.answers_serve m.connectionId outcome r)) (ih _)

theorem steps_replay (moves : List Move) (a : Moment) : a.Steps m (moves.foldl (move m) a) := by
  induction moves generalizing a with
  | nil => exact .refl
  | cons mv moves ih =>
    refine .trans ?_ (ih _)
    cases mv with
    | hear s => exact .single (.signal a.rest a.world s)
    | serve outcome n => exact steps_serve m outcome n a

def refuse : Moment → Moment
  | ⟨.ask (.call c) next, w⟩ =>
    let error := .error (.unavailable "down")
    ⟨next error, w.note (.call c) error⟩
  | a => a

theorem steps_refuse (a : Moment) : a.Steps m a.refuse := by
  unfold refuse
  split
  · next c next w => exact .single (.answer (.call c) next w w _ (.failed c _))
  · exact .refl

theorem reachable_replay (moves : List Move) : (replay m moves).Reachable m :=
  ⟨[], steps_replay m moves _⟩

def request? (a : Moment) : Option Request :=
  match a.rest with
  | .ask r _ => some r
  | .done _ => none

theorem asks_of_request? {a : Moment} {r : Request} (h : a.request? = some r) : a.Asks r := by
  unfold request? at h
  split at h
  · next r' next hr =>
    cases h
    exact ⟨next, hr⟩
  · cases h

def isStopped (a : Moment) : Bool :=
  match a.rest with
  | .done none => true
  | _ => false

def isBetween (a : Moment) : Bool :=
  match a.rest with
  | .done (some _) => true
  | _ => false

theorem rest_of_isBetween {a : Moment} (h : a.isBetween) :
    ∃ input, a.rest = .done (some input) := by
  unfold isBetween at h
  split at h
  · next input same => exact ⟨input, same⟩
  · cases h

def input? (a : Moment) : Option RunInput :=
  match a.rest with
  | .done input => input
  | .ask .. => none

theorem eq_of_input? {a : Moment} {input : RunInput} (h : a.input? = some input) :
    a = ⟨.done (some input), a.world⟩ := by
  obtain ⟨rest, w⟩ := a
  cases rest with
  | done result =>
    obtain rfl : result = some input := h
    rfl
  | ask r next => cases h

theorem rest_of_isStopped {a : Moment} (h : a.isStopped) : a.rest = .done none := by
  unfold isStopped at h
  split at h
  · assumption
  · cases h

end Moment

def Manager.sample : Manager where
  connectionId := Uuid.zero

/-- A manager that tries no call again. -/
def Manager.hasty : Manager where
  connectionId := Uuid.zero
  config := { activityMaxAttempts := 1 }

end ConnectorSync.Sync
