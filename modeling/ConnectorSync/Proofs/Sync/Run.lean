import Mathlib.Logic.Relation
import ConnectorSync.Sync.JobStore
import ConnectorSync.Sync.Manager

/-!
# Runs of a manager

A manager with its jobs in memory, and signals that arrive between any two of its steps. The other
collaborators answer as they like, every call may fail, and a wait may end at any time. What has
happened is kept.
-/

namespace ConnectorSync.Sync

inductive Event
  | heard (signal : Signal) (found : Control)
  | told (request : Request) (answer : request.Answer)

/-- Whether an event tells that a generation was given up. -/
def Event.givesUp : Event → Bool
  | .told (.wait _ .recovery) _ => true
  | _ => false

structure World where
  control : Control := {}
  jobs : JobStore
  past : List Event := []

/-- What a call that does not fail replies and makes of the jobs. -/
def Call.Effect (id : Uuid) : (c : Call) → JobStore → c.Reply → JobStore → Prop
  | createJob isReset, s, job, t => ∃ now, s.createJob id isReset now = (job, t)
  | createAttempt job, s, attempt, t => s.createAttempt job = .ok (attempt, t)
  | reportJobStart job, s, _, t => s.reportJobStart job = .ok t
  | failAttempt job attempt status summary, s, _, t =>
    s.failAttempt job attempt status summary = .ok t
  | failJob job reason, s, _, t => s.failJob job reason = .ok t
  | jobSuccess job attempt output, s, _, t => s.jobSuccess job attempt output = .ok t
  | jobCancelled job attempt summary, s, _, t => s.jobCancelled job attempt summary = .ok t
  | getJob job, s, record, t => s.get job = .ok record ∧ t = s
  | nonTerminalJobs, s, jobs, t => jobs = s.nonTerminalJobs id ∧ t = s
  | isLastFailure job, s, answer, t => answer = s.isLastFailure id job ∧ t = s
  | timeUntilNextRun, s, _, t | maxAttempts, s, _, t | hydrate _, s, _, t | persist .., s, _, t
  | checkProgress .., s, _, t | evaluateAutoDisable, s, _, t => t = s

namespace World

def hear (w : World) (s : Signal) : World :=
  { w with control := w.control.signal s, past := .heard s w.control :: w.past }

def note (w : World) (r : Request) (answer : r.Answer) : World :=
  { w with past := .told r answer :: w.past }

/-- How a request can be answered, and what that makes of the world. -/
inductive Answers (id : Uuid) (w : World) : (r : Request) → r.Answer → World → Prop
  | carried (c : Call) (reply : c.Reply) (jobs : JobStore) (h : c.Effect id w.jobs reply jobs) :
    Answers id w (.call c) (.ok reply) { w with jobs }
  | failed (c : Call) (e : ActivityError) : Answers id w (.call c) (.error e) w
  | checked (context : AttemptContext) (side : Side) (result : Except ActivityError CheckOutcome) :
    Answers id w (.check context side) result w
  | executed (context : AttemptContext) (result : Except ActivityError AttemptOutcome) :
    Answers id w (.execute context) result w
  | entered (s : Section) :
    Answers id w (.enter s) (w.control, s.apply w.control) { w with control := s.apply w.control }
  | waited (span : Duration) (purpose : Wait) : Answers id w (.wait span purpose) () w
  | paused (span : Duration) : Answers id w (.pause span) () w
  | timed (now : Timestamp) : Answers id w .time now w

end World

/-- A manager in the middle of a run: what is left of its turn, and what surrounds it. -/
structure Moment where
  rest : Talk (Option RunInput)
  world : World

namespace Moment

/-- A connection's manager before its first generation, with jobs that are there already. -/
def first (m : Manager) (rows : List Job) : Moment where
  rest := .done (some (.fresh m.connectionId))
  world := { jobs := rows.foldl JobStore.insert {} }

inductive Step (m : Manager) : Moment → Moment → Prop
  | signal (rest : Talk (Option RunInput)) (w : World) (s : Signal) :
    Step m ⟨rest, w⟩ ⟨rest, w.hear s⟩
  | answer (r : Request) (next : r.Answer → Talk (Option RunInput)) (w w' : World) (a : r.Answer)
    (h : w.Answers m.connectionId r a w') : Step m ⟨.ask r next, w⟩ ⟨next a, w'.note r a⟩
  | generation (input : RunInput) (w : World) : Step m ⟨.done (some input), w⟩ ⟨m.turn input, w⟩

abbrev Steps (m : Manager) : Moment → Moment → Prop := Relation.ReflTransGen (Step m)

/-- A moment of a run that began with a first generation. -/
def Reachable (m : Manager) (a : Moment) : Prop := ∃ rows, Steps m (first m rows) a

def Asks (a : Moment) (r : Request) : Prop := ∃ next, a.rest = .ask r next

end Moment

end ConnectorSync.Sync
