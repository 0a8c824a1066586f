import ConnectorSync.Proofs.Sync.Following
import ConnectorSync.Proofs.Sync.Run

/-!
# Runs by a clock

A manager with retry budgets in memory whose collaborators answer at once and do not fail, and which
is asked for nothing but manual syncs, while no job is open. Time passes while it waits, up to the
tick at which the wait is over, and while an attempt is checked or executed.
-/

namespace ConnectorSync.Sync

/-! ### The open job -/

/-- What has become of the open job. -/
structure Tries where
  job : Option JobId := none
  /-- How often it failed without progress. -/
  failures : Nat := 0
  /-- When it failed last, until it is attempted again. -/
  failed : Option Nat := none
  /-- The time until the next run, as it was answered since. -/
  untilNext : Option Duration := none

def Tries.after (t : Tries) (now : Nat) : Event → Tries
  | .told (.call (.createJob _)) (.ok job) => { job := some job }
  | .told (.call (.createAttempt _)) (.ok _) => { t with failed := none }
  | .told (.call (.failAttempt job _ status _)) (.ok _) =>
    if t.job = some job then { t with
      failures := if status = .failed then t.failures + 1 else t.failures
      failed := some now
      untilNext := none }
    else t
  | .told (.call .timeUntilNextRun) (.ok span) => { t with untilNext := some span }
  | .told (.call (.jobSuccess job _ _)) (.ok _) | .told (.call (.jobCancelled job _ _)) (.ok _)
  | .told (.call (.failJob job _)) (.ok _) => if t.job = some job then {} else t
  | _ => t

def tries : List (Nat × Event) → Tries
  | [] => {}
  | (now, e) :: past => (tries past).after now e

/-! ### Steps -/

/-- What a call is replied and makes of the budgets that are kept. -/
def RetryStore.Serves (s : RetryStore) : (c : Call) → c.Reply → RetryStore → Prop
  | .hydrate job, budget, t => budget = s.hydrate job ∧ t = s
  | .persist job budget, _, t => t = s.persist job budget
  | _, _, t => t = s

structure TimedWorld where
  now : Nat
  control : Control := {}
  /-- The wait that has begun, with the tick at which it is over if there is one. -/
  wait : Option (Option Nat × Waiter) := none
  retries : RetryStore
  past : List (Nat × Event) := []

namespace TimedWorld

def hear (w : TimedWorld) (s : Signal) : TimedWorld :=
  { w with control := w.control.signal s, past := (w.now, .heard s w.control) :: w.past }

def ring (w : TimedWorld) : TimedWorld :=
  { w with wait := w.wait.map fun (due, waiter) => (due, waiter.ring) }

/-- An answer is given, and if that was to a wait the wait is over. -/
def note (w : TimedWorld) (r : Request) (answer : r.Answer) : TimedWorld :=
  { w with wait := none, past := (w.now, .told r answer) :: w.past }

/-- Whether time can pass before a request is answered. -/
def MayPass (w : TimedWorld) : Request → Prop
  | .check .. | .execute _ | .pause _ => True
  | .wait .. => ∃ due, w.wait = some (due, .parked false) ∧ ∀ tick, due = some tick → w.now < tick
  | .call _ | .enter _ | .time => False

/-- What can happen while a request waits for its answer. -/
inductive Goes (w : TimedWorld) : Request → TimedWorld → Prop
  | tick (r : Request) (h : w.MayPass r) : Goes w r { w with now := w.now + 1 }
  | begin (span : Duration) (purpose : Wait) (h : w.wait = none) :
    Goes w (.wait span purpose) { w with wait := some (deadline w.now span, .arriving) }
  | step (span : Duration) (purpose : Wait) (due : Option Nat) (waiter : Waiter)
    (h : w.wait = some (due, waiter)) :
    Goes w (.wait span purpose)
      { w with wait := some (due, waiter.step purpose w.control.flags (due.any (· ≤ w.now))) }

inductive Answers (w : TimedWorld) : (r : Request) → r.Answer → TimedWorld → Prop
  | carried (c : Call) (reply : c.Reply) (retries : RetryStore)
    (h : w.retries.Serves c reply retries) : Answers w (.call c) (.ok reply) { w with retries }
  | checked (context : AttemptContext) (side : Side) (result : Except ActivityError CheckOutcome) :
    Answers w (.check context side) result w
  | executed (context : AttemptContext) (result : Except ActivityError AttemptOutcome) :
    Answers w (.execute context) result w
  | entered (s : Section) :
    Answers w (.enter s) (w.control, s.apply w.control) { w with control := s.apply w.control }
  | waited (span : Duration) (purpose : Wait) (due : Option Nat) (h : w.wait = some (due, .ended)) :
    Answers w (.wait span purpose) () w
  | paused (span : Duration) : Answers w (.pause span) () w
  | timed (now : Timestamp) : Answers w .time now w

end TimedWorld

structure TimedMoment where
  rest : Talk (Option RunInput)
  world : TimedWorld

namespace TimedMoment

/-- A connection's manager before its first generation, with budgets that are kept already. -/
def first (m : Manager) (start : Nat) (retries : RetryStore) : TimedMoment where
  rest := .done (some (.fresh m.connectionId))
  world := { now := start, retries }

inductive Step (m : Manager) : TimedMoment → TimedMoment → Prop
  | signal (rest : Talk (Option RunInput)) (w : TimedWorld) (free : (tries w.past).job = none) :
    Step m ⟨rest, w⟩ ⟨rest, w.hear .manualSync⟩
  | ring (rest : Talk (Option RunInput)) (w : TimedWorld) : Step m ⟨rest, w⟩ ⟨rest, w.ring⟩
  | going (r : Request) (next : r.Answer → Talk (Option RunInput)) (w w' : TimedWorld)
    (h : w.Goes r w') : Step m ⟨.ask r next, w⟩ ⟨.ask r next, w'⟩
  | answer (r : Request) (next : r.Answer → Talk (Option RunInput)) (w w' : TimedWorld)
    (a : r.Answer) (h : w.Answers r a w') : Step m ⟨.ask r next, w⟩ ⟨next a, w'.note r a⟩
  | generation (input : RunInput) (w : TimedWorld) :
    Step m ⟨.done (some input), w⟩ ⟨m.turn input, w⟩

abbrev Steps (m : Manager) : TimedMoment → TimedMoment → Prop := Relation.ReflTransGen (Step m)

/-- A moment of a run that began with a first generation at any tick. -/
def Reachable (m : Manager) (retries : RetryStore) (a : TimedMoment) : Prop :=
  ∃ start, Steps m (first m start retries) a

def Has (m : Manager) (P : Spot → TimedWorld → Prop) (a : TimedMoment) : Prop :=
  ∃ spot, Follows m a.rest spot ∧ P spot a.world

variable {m : Manager} {a : TimedMoment} {station : Station}

theorem step_going {w : TimedWorld} (follows : Follows m a.rest station)
    (goes : a.world.Goes (station.request m) w) : a.Step m ⟨a.rest, w⟩ := by
  obtain ⟨rest, world⟩ := a
  cases follows
  exact .going _ _ _ _ goes

theorem step_answer {w : TimedWorld} {answer : (station.request m).Answer}
    (follows : Follows m a.rest station)
    (answers : a.world.Answers (station.request m) answer w) :
    ∃ b, a.Step m b ∧ Follows m b.rest (station.next m answer) ∧
      b.world = w.note (station.request m) answer := by
  obtain ⟨rest, world⟩ := a
  cases follows with
  | «at» _ rest follows => exact ⟨_, .answer _ _ _ _ _ answers, follows answer, rfl⟩

end TimedMoment

structure TimedKept (m : Manager) (P : Spot → TimedWorld → Prop) : Prop where
  hear : ∀ {spot w}, (tries w.past).job = none → P spot w → P spot (w.hear .manualSync)
  ring : ∀ {spot w}, P spot w → P spot w.ring
  going : ∀ {s : Station} {w w'}, P s w → w.Goes (s.request m) w' → P s w'
  begin : ∀ {input w}, P (.between input) w → P (.at (.beginning input)) w
  answer : ∀ {s : Station} {w w'} (a : (s.request m).Answer), P s w →
    w.Answers (s.request m) a w' → P (s.next m a) (w'.note (s.request m) a)

namespace TimedKept

variable {m : Manager} {P : Spot → TimedWorld → Prop} {a b : TimedMoment}

theorem step (hP : TimedKept m P) (h : a.Step m b) (ha : a.Has m P) : b.Has m P := by
  obtain ⟨spot, follows, hp⟩ := ha
  cases h with
  | signal rest w free => exact ⟨spot, follows, hP.hear free hp⟩
  | ring rest w => exact ⟨spot, follows, hP.ring hp⟩
  | going r next w w' goes =>
    cases follows with
    | «at» s rest h => exact ⟨s, .at s rest h, hP.going hp goes⟩
  | answer r next w w' answer hw =>
    cases follows with
    | «at» s rest h => exact ⟨s.next m answer, h answer, hP.answer answer hp hw⟩
  | generation input w =>
    cases follows with
    | between input => exact ⟨.at (.beginning input), .turn, hP.begin hp⟩

theorem steps (hP : TimedKept m P) (h : a.Steps m b) (ha : a.Has m P) : b.Has m P := by
  induction h with
  | refl => exact ha
  | tail _ h ih => exact hP.step h ih

end TimedKept

/-! ### Replays -/

namespace TimedWorld

variable (untilNext : Duration)

/-- A reply with the budgets it leaves, if no attempt makes progress and no job is left over. -/
def reply (w : TimedWorld) : (c : Call) → c.Reply × RetryStore
  | .timeUntilNextRun => (untilNext, w.retries)
  | .maxAttempts => (5, w.retries)
  | .createJob _ => (1, w.retries)
  | .createAttempt _ => ((tries w.past).failures + 1, w.retries)
  | .getJob job => (⟨job, Uuid.zero, false, .pending, [], default⟩, w.retries)
  | .nonTerminalJobs => ([], w.retries)
  | .isLastFailure _ => (decide (0 < (tries w.past).failures), w.retries)
  | .checkProgress .. | .evaluateAutoDisable => (false, w.retries)
  | .hydrate job => (w.retries.hydrate job, w.retries)
  | .persist job budget => ((), w.retries.persist job budget)
  | .reportJobStart _ | .failAttempt .. | .failJob .. | .jobSuccess .. | .jobCancelled .. =>
    ((), w.retries)

theorem serves_reply (w : TimedWorld) (c : Call) :
    w.retries.Serves c (w.reply untilNext c).1 (w.reply untilNext c).2 := by
  cases c with
  | hydrate job => exact ⟨rfl, rfl⟩
  | _ => rfl

/-- What happens next while a request waits for its answer: that, or something before it. Connectors
pass their checks, and every attempt fails. -/
def serve (w : TimedWorld) : (r : Request) → Option r.Answer × TimedWorld
  | .call c =>
    let (reply, retries) := w.reply untilNext c
    (some (.ok reply), { w with retries })
  | .check .. => (some (.ok .succeeded), w)
  | .execute _ => (some (.ok (.failed [] false)), w)
  | .enter s => (some (w.control, s.apply w.control), { w with control := s.apply w.control })
  | .wait span purpose =>
    match w.wait with
    | none => (none, { w with wait := some (deadline w.now span, .arriving) })
    | some (_, .ended) => (some (), w)
    | some (due, waiter) =>
      if waiter = .parked false ∧ ∀ tick ∈ due, w.now < tick then
        (none, { w with now := w.now + 1 })
      else
        let isDue := due.any (· ≤ w.now)
        (none, { w with wait := some (due, waiter.step purpose w.control.flags isDue) })
  | .pause _ => (some (), w)
  | .time => (some default, w)

theorem goes_or_answers (w : TimedWorld) (r : Request) :
    match w.serve untilNext r with
    | (some answer, w') => w.Answers r answer w'
    | (none, w') => w.Goes r w' := by
  cases r with
  | call c => exact .carried c _ _ (w.serves_reply untilNext c)
  | check context side => exact .checked context side _
  | execute context => exact .executed context _
  | enter s => exact .entered s
  | pause span => exact .paused span
  | time => exact .timed _
  | wait span purpose =>
    unfold serve
    cases begun : w.wait with
    | none => exact .begin span purpose begun
    | some wait =>
      obtain ⟨due, waiter⟩ := wait
      have step := Goes.step span purpose due waiter begun
      cases waiter with
      | ended => exact .waited span purpose due begun
      | arriving | registered => exact step
      | parked rung =>
        by_cases early : Waiter.parked rung = .parked false ∧ ∀ tick ∈ due, w.now < tick
        · dsimp only
          rw [if_pos early]
          have mayPass : w.MayPass (.wait span purpose) :=
            ⟨due, by rw [begun, early.1], fun tick same => early.2 tick same⟩
          have tick := Goes.tick _ mayPass
          rw [begun] at tick
          exact tick
        · dsimp only
          rw [if_neg early]
          exact step

end TimedWorld

namespace TimedMoment

def play (m : Manager) (untilNext : Duration) : Nat → TimedMoment → TimedMoment
  | 0, a => a
  | n + 1, ⟨.done (some input), w⟩ => play m untilNext n ⟨m.turn input, w⟩
  | _ + 1, ⟨.done none, w⟩ => ⟨.done none, w⟩
  | n + 1, ⟨.ask r next, w⟩ =>
    match w.serve untilNext r with
    | (some answer, w') => play m untilNext n ⟨next answer, w'.note r answer⟩
    | (none, w') => play m untilNext n ⟨.ask r next, w'⟩

theorem steps_play (m : Manager) (untilNext : Duration) (n : Nat) (a : TimedMoment) :
    a.Steps m (a.play m untilNext n) := by
  induction n generalizing a with
  | zero => exact .refl
  | succ n ih =>
    obtain ⟨rest, w⟩ := a
    cases rest with
    | done result =>
      cases result with
      | none => exact .refl
      | some input => exact .head (.generation input w) (ih _)
    | ask r next =>
      have served := w.goes_or_answers untilNext r
      unfold play
      cases happened : w.serve untilNext r with
      | mk answer w' =>
        rw [happened] at served
        cases answer with
        | none => exact .head (.going r next w w' served) (ih _)
        | some answer => exact .head (.answer r next w w' answer served) (ih _)

end TimedMoment

end ConnectorSync.Sync
