import ConnectorSync.Proofs.Sync.Fitting
import ConnectorSync.Proofs.Sync.OpenJob
import ConnectorSync.Proofs.Sync.Replay

/-!
# Single flight

At every station it is settled which job of the connection is open and what of it is running, as
long as no generation is given up. So an attempt that is checked or executed is the only one that is
running, and its job the only one that is open.
-/

namespace ConnectorSync.Sync

/-! ### Answers -/

/-- What an answer to a request makes of the jobs. -/
def Request.Effect (id : Uuid) : (r : Request) → r.Answer → JobStore → JobStore → Prop
  | .call c, .ok reply, s, t => c.Effect id s reply t
  | _, _, s, t => t = s

theorem World.Answers.effect {id : Uuid} {w w' : World} {r : Request} {a : r.Answer}
    (h : w.Answers id r a w') : r.Effect id a w.jobs w'.jobs := by
  cases h with
  | carried c reply jobs effect => exact effect
  | _ => rfl

theorem World.Answers.past_note {id : Uuid} {w w' : World} {r : Request} {a : r.Answer}
    (h : w.Answers id r a w') : (w'.note r a).past = .told r a :: w.past := by
  rw [World.note, h.past]

namespace Request

variable {id : Uuid} {s t : JobStore}

theorem Effect.ordered {r : Request} {a : r.Answer} (h : r.Effect id a s t) (ordered : s.Ordered) :
    t.Ordered := by
  cases r with
  | call c =>
    cases a with
    | ok reply => exact Call.Effect.ordered h ordered
    | error error =>
      obtain rfl : t = s := h
      exact ordered
  | _ =>
    obtain rfl : t = s := h
    exact ordered

theorem Effect.same {c : Call} {a : (Request.call c).Answer} (h : (Request.call c).Effect id a s t)
    (target : c.target = none) (old : ∀ isReset, c ≠ .createJob isReset) : t = s := by
  cases a with
  | ok reply => exact Call.Effect.same h target old
  | error error => exact h

end Request

/-! ### Stations -/

def Task.Stands (neat : Prop) (id : Uuid) (s : JobStore) : Task → Prop
  | listStale _ => neat → s.Tidy id
  | getStale _ job jobs => s.Stale neat id (job :: jobs)
  | failStaleAttempt _ job attempt attempts jobs _ =>
    s.Failing neat id job (attempt :: attempts) jobs
  | failStaleJob _ job jobs => s.Failing neat id job [] jobs
  | untilNextRun input _ => s.Aloft neat id input.jobId []
  | createJob .. | autoDisable _ => s.Aloft neat id none []
  | createAttempt _ _ job _ | failJob _ job _ => s.Aloft neat id (some job) []
  | startJob input _ context | lastFailure input _ context | succeed input _ context _ =>
    s.InFlight neat id input context
  | cancelJob input job .. => s.Aborting neat id input job
  | failAttempt input _ job .. => s.Aloft neat id (some job) [input.attempt]

def Station.Stands (neat : Prop) (id : Uuid) (s : JobStore) : Station → Prop
  | beginning input => s.Begins neat id input
  | calling task _ _ | pausing task _ _ => task.Stands neat id s
  | timingStale _ job attempt attempts jobs => s.Failing neat id job (attempt :: attempts) jobs
  | hydrating input | waiting input _ | endingWait input | hydratingAttempt input _
  | ending input => s.Aloft neat id input.jobId []
  | registering input _ context | looking input _ context | checking input _ context ..
  | executing input _ context | timingError input _ context _ | releasing input _ context _ =>
    s.InFlight neat id input context
  | persistingSuccess .. | recordingSuccess | lookingBack _ => s.Aloft neat id none []
  | timingCancel input job .. => s.Aborting neat id input job
  | checkingProgress input _ job .. => s.Aloft neat id (some job) [input.attempt]
  | persistingFailure _ _ job _ | askingMost _ job _ | recordingFailure _ job .. =>
    s.Aloft neat id (some job) []
  | recovering .. => True
  | timingRecovery .. | failingAttempt .. | failingJob .. => False

def Spot.Stands (neat : Prop) (id : Uuid) (c : Course) (s : JobStore) : Spot → Prop
  | .between input => s.Begins neat id input
  | .at station => station.Stands neat id s
  | .stopped => s.Aloft neat id c.leavesOpen []

namespace Station

variable {neat : Prop} {id : Uuid} {m : Manager} {c : Course} {s t : JobStore} {input : RunInput}
  {budget : Option RetryBudget} {context : AttemptContext}

theorem cleaning_stands {jobs : List JobId} (none : input.jobId = none)
    (h : s.Stale neat id jobs) : (cleaning m input jobs).Stands neat id s := by
  cases jobs with
  | nil =>
    show s.Aloft neat id input.jobId []
    rw [none]
    exact h.aloft
  | cons job jobs => exact h

theorem failingStale_stands {job : JobId} {jobs : List JobId} {attempts : List Nat}
    (h : s.Failing neat id job attempts jobs) :
    (failingStale m input job jobs attempts).Stands neat id s := by
  cases attempts with
  | nil => exact h
  | cons attempt attempts => exact h

theorem leaving_stands {last : Bool} (h : s.Aloft neat id input.jobId [])
    (same : c.leavesOpen = input.jobId) : (leaving last input).Stands neat id c s := by
  cases last with
  | false => exact h
  | true =>
    show s.Aloft neat id c.leavesOpen []
    rw [same]
    exact h

theorem cancelling_stands {last : Bool} (h : s.Aloft neat id input.jobId [])
    (same : c.leavesOpen = input.jobId) (failures : List FailureReason)
    (partialSuccess : Option Bool) :
    (cancelling input failures partialSuccess last).Stands neat id c s := by
  unfold cancelling
  split
  · exact leaving_stands h same
  · next job hasJob =>
    rw [hasJob] at h
    exact h.aborting

theorem opening_stands (h : s.Aloft neat id input.jobId []) (isReset : Bool) :
    (opening m input budget isReset).Stands neat id s := by
  unfold opening
  split
  · next job hasJob =>
    rw [hasJob] at h
    exact h
  · next none =>
    rw [none] at h
    exact h

theorem checkingSides_stands (h : s.InFlight neat id input context) (sides : List Side) :
    (checkingSides input budget context sides).Stands neat id s := by
  cases sides with
  | nil => exact h
  | cons side sides => exact h

theorem succeeding_stands (h : s.Aloft neat id none []) :
    (succeeding context budget).Stands neat id s := by
  cases budget with
  | none => exact h
  | some budget => exact h

theorem limiting_stands {job : JobId} (h : s.Aloft neat id (some job) [])
    (summary : FailureSummary) : (limiting input job summary budget).Stands neat id s := by
  cases budget with
  | none => exact h
  | some budget => exact h

theorem reporting_stands (h : s.InFlight neat id input context)
    (hasJob : input.jobId = some context.jobId) (flags : Flags) (outcome : AttemptOutcome) :
    (reporting m input budget context flags outcome).Stands neat id c s := by
  have cancelled (failures : List FailureReason) (partialSuccess : Option Bool) :
      (cancelling input failures partialSuccess false).Stands neat id c s := by
    unfold cancelling
    rw [hasJob]
    exact h.aborting
  cases outcome with
  | succeeded output => exact h
  | cancelled => exact cancelled _ _
  | failed failures partialSuccess =>
    unfold reporting
    dsimp only
    split
    · exact cancelled _ _
    · unfold failing
      rw [hasJob]
      show s.Aloft neat id (some context.jobId) [input.attempt]
      rw [h.attempt]
      exact h.aloft

theorem givenUp_stands (task : Task) (error : ActivityError) (h : task.Stands neat id s) :
    (givenUp task error).Stands neat id s := by
  cases task with
  | lastFailure input budget context => exact h
  | _ => exact trivial

/-- One case for each call: what it writes is the row of the job that is being failed, opened or
attempted, so the others stay over. -/
theorem carried_stands (task : Task) (reply : task.call.Reply) (fits : task.Fits c)
    (ordered : s.Ordered) (h : task.Stands neat m.connectionId s)
    (effect : task.call.Effect m.connectionId s reply t) (c' : Course) :
    (carried m task reply).Stands neat m.connectionId c' t := by
  cases task with
  | listStale input =>
    obtain ⟨rfl, rfl⟩ := effect
    exact cleaning_stands fits.2 (JobStore.stale_nonTerminalJobs ordered h)
  | getStale input job jobs =>
    obtain ⟨got, rfl⟩ := effect
    exact failingStale_stands (h.failing (JobStore.found_of_get got))
  | failStaleAttempt input job attempt attempts jobs now =>
    exact failingStale_stands (h.failAttempt (effect.revises rfl))
  | failStaleJob input job jobs => exact cleaning_stands fits.2 (h.failJob (effect.revises rfl))
  | untilNextRun input budget =>
    obtain rfl : t = s := effect
    exact h
  | createJob input budget isReset => exact h.opened effect
  | createAttempt input budget job isReset =>
    -- The number is fresh since the job's attempts are numbered from one on.
    refine ⟨h.stays (effect.revises rfl) fun row found flies => ?_, rfl, rfl⟩
    rw [effect.attempted found]
    exact flies.createAttempt
  | startJob input budget context =>
    exact ⟨h.aloft.stays (effect.revises rfl) fun _ _ flies => flies.reportJobStart, h.connection,
      h.attempt⟩
  | lastFailure input budget context =>
    obtain ⟨-, rfl⟩ := effect
    exact checkingSides_stands h _
  | succeed input budget context output =>
    exact succeeding_stands (h.aloft.lands (effect.revises rfl) nofun (fun _ => rfl)
      fun _ flies => flies.jobSuccess)
  | cancelJob input job summary last =>
    obtain ⟨flying, own, aloft⟩ := h
    exact aloft.lands (effect.revises rfl) nofun (fun _ => rfl)
      fun _ flies => flies.jobCancelled own
  | failAttempt input budget job madeProgress summary =>
    refine limiting_stands (h.stays (effect.revises rfl) fun row _ flies => ?_) summary
    cases madeProgress with
    | false => exact flies.failAttempt summary (by decide) rfl
    | true => exact flies.failAttempt summary (by decide) rfl
  | failJob input job reason =>
    exact h.lands (effect.revises rfl) nofun (fun _ => rfl) fun _ flies => flies.running
  | autoDisable input =>
    obtain rfl : t = s := effect
    exact h

theorem endingWait_stands (fits : c.Waits input) (h : s.Aloft neat id input.jobId [])
    (before control : Control) : ((endingWait input).next m (before, control)).Stands neat id
      (c.after (.told (.enter .endWait) (before, control))) s := by
  have same : (c.after (.told (.enter .endWait) (before, control))).leavesOpen = input.jobId := by
    simp only [Course.after, Course.leavesOpen, fits.report]
    exact fits.openJob
  simp only [next]
  split
  · exact cancelling_stands h same _ _
  split
  · exact h
  split
  · exact cancelling_stands h same _ _
  · exact h

theorem ending_stands (same : c.leavesOpen = input.jobId) (h : s.Aloft neat id input.jobId [])
    (before control : Control) : ((ending input).next m (before, control)).Stands neat id
      (c.after (.told (.enter .endGeneration) (before, control))) s := by
  simp only [next]
  split
  · next deleted =>
    show s.Aloft neat id (c.after _).leavesOpen []
    rw [Course.after_endGeneration_of_deleted c deleted, same]
    exact h
  · exact JobStore.Aloft.begins h

theorem next_stands (station : Station) (a : (station.request m).Answer) (fits : station.Fits c)
    (ordered : s.Ordered) (h : station.Stands neat m.connectionId s)
    (effect : (station.request m).Effect m.connectionId a s t)
    (calm : (Event.told (station.request m) a).givesUp = false) :
    (station.next m a).Stands neat m.connectionId
      (c.after (.told (station.request m) a)) t := by
  cases station with
  | beginning input =>
    obtain rfl : t = s := effect
    simp only [next]
    split
    · exact h.tidy
    · next hasJob => exact h.aloft hasJob
  | calling task left failed =>
    cases a with
    | ok reply => exact carried_stands task reply fits ordered h effect _
    | error error =>
      obtain rfl : t = s := effect
      cases left with
      | zero => exact givenUp_stands task error h
      | succ left => exact h
  | endingWait input =>
    obtain rfl : t = s := effect
    exact endingWait_stands fits h a.1 a.2
  | hydratingAttempt input isReset =>
    obtain rfl : t = s := effect.same rfl fun _ created => by cases created
    exact opening_stands h isReset
  | hydrating | checkingProgress | persistingFailure | askingMost | persistingSuccess =>
    obtain rfl : t = s := effect.same rfl fun _ created => by cases created
    exact h
  | looking input budget context =>
    obtain rfl : t = s := effect
    obtain ⟨control, _⟩ := a
    simp only [next]
    split
    · exact h
    · exact h
  | checking input budget context side sides =>
    obtain rfl : t = s := effect
    rcases a with error | (_ | reason | _)
    · exact h
    · exact checkingSides_stands h sides
    · exact h
    · exact h
  | executing input budget context =>
    obtain rfl : t = s := effect
    cases a with
    | ok outcome => exact h
    | error error => exact h
  | releasing input budget context outcome =>
    obtain rfl : t = s := effect
    cases outcome with
    | ok outcome => exact reporting_stands h fits.jobId _ outcome
    | error failure => exact trivial
  | lookingBack last =>
    obtain rfl : t = s := effect
    refine leaving_stands h ?_
    have reported := fits.report
    simp only [request, Course.after, reported]
    rfl
  | recordingFailure input job summary withinLimits =>
    obtain rfl : t = s := effect
    simp only [next]
    split
    · show t.Aloft neat m.connectionId input.jobId []
      rw [fits.jobId]
      exact h
    · exact h
  -- A new start is told of by its pause, so there is none in a run that is calm.
  | recovering input failure => cases calm
  | timingRecovery | failingAttempt | failingJob => exact h.elim
  | ending input =>
    obtain rfl : t = s := effect
    exact ending_stands fits.2.1 h a.1 a.2
  | pausing | timingStale | waiting | registering | timingError | recordingSuccess
  | timingCancel =>
    obtain rfl : t = s := effect
    exact h

end Station

/-! ### Runs -/

structure World.Flies (neat : Prop) (id : Uuid) (spot : Spot) (w : World) : Prop where
  ordered : w.jobs.Ordered
  stands : (∀ e ∈ w.past, e.givesUp = false) → spot.Stands neat id (course w.past) w.jobs

variable {neat : Prop} {id : Uuid} {m : Manager} {a : Moment} {rows : List Job}

theorem flies_answer {station : Station} {w w' : World} (a : (station.request m).Answer)
    (fits : station.Fits (course w.past)) (h : w.Flies neat m.connectionId station)
    (answers : w.Answers m.connectionId (station.request m) a w') :
    (w'.note (station.request m) a).Flies neat m.connectionId (station.next m a) := by
  refine ⟨answers.effect.ordered h.ordered, fun quiet => ?_⟩
  rw [answers.past_note] at quiet ⊢
  have before := h.stands fun e mem => quiet e (List.mem_cons_of_mem _ mem)
  exact station.next_stands a fits h.ordered before answers.effect (quiet _ List.mem_cons_self)

theorem World.Flies.hear {spot : Spot} {w : World} (signal : Signal) (h : w.Flies neat id spot) :
    (w.hear signal).Flies neat id spot :=
  ⟨h.ordered, fun quiet => h.stands fun e mem => quiet e (List.mem_cons_of_mem _ mem)⟩

theorem kept_flies (neat : Prop) (m : Manager) :
    Kept m fun spot w => spot.Fits (course w.past) ∧ w.Flies neat m.connectionId spot :=
  .withFits (fun signal h => h.hear signal) (fun h => ⟨h.ordered, h.stands⟩) flies_answer

/-- The jobs that a run begins with are tidy if their rows are. -/
theorem flies_first (m : Manager) (rows : List Job) : (Moment.first m rows).world.Flies
    (∀ row ∈ rows, row.connectionId = m.connectionId → row.Tidy) m.connectionId
    (.between (.fresh m.connectionId)) := by
  refine ⟨JobStore.ordered_foldl_insert rows .nil, fun _ neat k row found own => ?_⟩
  rcases JobStore.row_of_foldl_insert found with mem | found
  · exact neat row mem own
  · cases found

theorem flies_of_steps (steps : Moment.Steps m (.first m rows) a) :
    a.Has m fun spot w => spot.Fits (course w.past) ∧
      w.Flies (∀ row ∈ rows, row.connectionId = m.connectionId → row.Tidy) m.connectionId spot :=
  (kept_flies _ m).steps steps
    ⟨_, .between _, ⟨⟨rfl, rfl, rfl⟩, rfl, rfl, rfl, rfl⟩, flies_first m rows⟩

/-- The attempt that is checked or executed is in flight. -/
theorem inFlight_of_asks {context : AttemptContext}
    (h : a.Has m fun spot w => spot.Fits (course w.past) ∧ w.Flies neat m.connectionId spot)
    (quiet : ∀ e ∈ a.world.past, e.givesUp = false)
    (asks : a.Asks (.execute context) ∨ ∃ side, a.Asks (.check context side)) :
    ∃ input, a.world.jobs.InFlight neat m.connectionId input context := by
  rcases asks with asks | ⟨side, asks⟩
  · obtain ⟨station, request, -, flies⟩ := h.station asks
    have stands := flies.stands quiet
    cases station with
    | executing input budget context =>
      cases request
      exact ⟨input, stands⟩
    | _ => cases request
  · obtain ⟨station, request, -, flies⟩ := h.station asks
    have stands := flies.stands quiet
    cases station with
    | checking input budget context side sides =>
      cases request
      exact ⟨input, stands⟩
    | _ => cases request

/-- While an attempt is checked or executed, it is the only attempt of its connection's jobs that is
running, and its job the only one that is open, if no generation was given up so far and the jobs
that the run began with were tidy. -/
theorem single_flight {context : AttemptContext} (steps : Moment.Steps m (.first m rows) a)
    (tidy : ∀ row ∈ rows, row.connectionId = m.connectionId → row.Tidy)
    (quiet : ∀ e ∈ a.world.past, e.givesUp = false)
    (asks : a.Asks (.execute context) ∨ ∃ side, a.Asks (.check context side)) :
    context.connectionId = m.connectionId ∧
      a.world.jobs.nonTerminalJobs m.connectionId = [context.jobId] ∧
      a.world.jobs.flights m.connectionId = [(context.jobId, context.attempt)] := by
  have flies := flies_of_steps steps
  obtain ⟨input, inFlight⟩ := inFlight_of_asks flies quiet asks
  obtain ⟨-, -, -, ordered, -⟩ := flies
  exact ⟨inFlight.connection, inFlight.aloft.nonTerminalJobs ordered,
    inFlight.aloft.flights ordered tidy⟩

/-- A job that was left open while its second attempt was running. -/
def Job.leftover : Job where
  id := 7
  connectionId := Uuid.zero
  isReset := false
  status := .running
  attempts := [⟨1, .failed, none⟩, ⟨2, .running, none⟩]
  createdAt := default

/-- The leftover job was failed, and a new one is attempted for the second time. -/
def Moment.secondAttempt : Moment :=
  [.serve (.failed [] false) 41].foldl (move .sample) (first .sample [.leftover])

theorem secondAttempt_executes : Moment.secondAttempt.Asks (.execute ⟨Uuid.zero, 8, 2, false⟩) :=
  Moment.asks_of_request? (by decide +kernel)

theorem single_flight_of_secondAttempt :
    Uuid.zero = Manager.sample.connectionId ∧
      Moment.secondAttempt.world.jobs.nonTerminalJobs Manager.sample.connectionId = [8] ∧
      Moment.secondAttempt.world.jobs.flights Manager.sample.connectionId = [(8, 2)] :=
  single_flight (Moment.steps_replay .sample _ _)
    (fun row mem _ => by
      obtain rfl := List.mem_singleton.1 mem
      exact ⟨by decide, by decide⟩)
    (by decide +kernel) (.inl secondAttempt_executes)

end ConnectorSync.Sync
