import ConnectorSync.Proofs.Sync.SingleFlight
import ConnectorSync.Proofs.Sync.SkippedWaits

/-!
# Between two generations

What one generation leaves to the next one, whichever way it ends: either a job that is open, with
its last attempt, which failed, or no job at all, and then whatever was open before is over before
the wait for the schedule. During that wait the connection counts as running just if a job is open.
-/

namespace ConnectorSync.Sync

/-! ### The last attempt of a job -/

def Job.LastIs (n : Nat) (statuses : List AttemptStatus) (j : Job) : Prop :=
  ∃ a, j.attempts.getLast? = some a ∧ a.number = n ∧ a.status ∈ statuses

theorem setAttempt_concat {n : Nat} {status : AttemptStatus} {summary : Option FailureSummary}
    {attempts : List Attempt} {a : Attempt} (others : n ∉ attempts.map (·.number))
    (last : a.number = n) : JobStore.setAttempt n status summary (attempts ++ [a]) =
      attempts ++ [{ a with status, failureSummary := summary }] := by
  induction attempts with
  | nil => rw [List.nil_append, JobStore.setAttempt, if_pos last, List.nil_append]
  | cons b rest ih =>
    rw [List.map_cons, List.mem_cons, not_or] at others
    rw [List.cons_append, JobStore.setAttempt, if_neg (Ne.symm others.1), ih others.2,
      List.cons_append]

namespace Job

variable {j : Job} {job : JobId} {n : Nat} {statuses : List AttemptStatus}

theorem lastIs_createAttempt :
    ((Call.createAttempt job).revise j).LastIs (j.attempts.length + 1) [.running] :=
  ⟨_, List.getLast?_concat, rfl, List.mem_singleton_self _⟩

theorem LastIs.failAttempt {status : AttemptStatus} {summary : FailureSummary}
    (h : j.LastIs n statuses) (distinct : j.numbers.Nodup) :
    ((Call.failAttempt job n status summary).revise j).LastIs n [status] := by
  obtain ⟨a, last, number, -⟩ := h
  obtain ⟨before, split⟩ := List.getLast?_eq_some_iff.1 last
  have others : n ∉ before.map (·.number) := by
    rw [numbers, split, List.map_append, List.nodup_append] at distinct
    exact fun mem => distinct.2.2 n mem n (List.mem_singleton.2 number.symm) rfl
  refine ⟨{ a with status, failureSummary := some summary }, ?_, number, List.mem_singleton_self _⟩
  show (JobStore.setAttempt n status (some summary) j.attempts).getLast? = _
  rw [split, setAttempt_concat others number, List.getLast?_concat]

end Job

namespace JobStore

def LastIs (job : JobId) (n : Nat) (statuses : List AttemptStatus) (s : JobStore) : Prop :=
  ∃ row, s.find? job = some row ∧ row.LastIs n statuses

structure Resumes (input : RunInput) (s : JobStore) : Prop where
  fromFailure : input.fromFailure = input.jobId.isSome
  last : ∀ job, input.jobId = some job → s.LastIs job input.attempt [.failed, .incomplete]

variable {s t : JobStore} {job : JobId} {n n' : Nat} {statuses statuses' : List AttemptStatus}
  {f : Job → Job} {input : RunInput}

theorem LastIs.revised (h : s.LastIs job n statuses) (r : s.Revises job f t)
    (row : ∀ row, s.find? job = some row → row.LastIs n statuses → (f row).LastIs n' statuses') :
    t.LastIs job n' statuses' := by
  obtain ⟨old, found, last⟩ := h
  obtain ⟨old', before, after⟩ := r.found
  obtain rfl := Option.some.inj (found.symm.trans before)
  exact ⟨_, after, row old found last⟩

/-- Without a job it does not matter what becomes of the jobs. -/
theorem Resumes.of_none (h : s.Resumes input) (none : input.jobId = none) : t.Resumes input := by
  refine ⟨h.fromFailure, fun job some => ?_⟩
  rw [none] at some
  cases some

theorem resumes_of_fresh (fromFailure : input.fromFailure = false) (none : input.jobId = none) :
    s.Resumes input := by
  refine ⟨?_, fun job some => ?_⟩
  · rw [fromFailure, none]
    rfl
  · rw [none] at some
    cases some

end JobStore

/-! ### Stations -/

def Task.Resumes (s : JobStore) : Task → Prop
  | listStale input | getStale input .. | failStaleAttempt input .. | failStaleJob input ..
  | untilNextRun input _ => s.Resumes input
  | startJob input _ context | lastFailure input _ context =>
    s.LastIs context.jobId input.attempt [.running]
  | failAttempt input _ job .. => s.LastIs job input.attempt [.running]
  | createJob .. | createAttempt .. | succeed .. | cancelJob .. | failJob .. | autoDisable _ => True

def Station.Resumes (s : JobStore) : Station → Prop
  | beginning input | timingStale input .. | hydrating input | waiting input _ | endingWait input
  | ending input => s.Resumes input
  | calling task _ _ | pausing task _ _ => task.Resumes s
  | registering input _ context | looking input _ context | checking input _ context ..
  | executing input _ context | timingError input _ context _ | releasing input _ context _ =>
    s.LastIs context.jobId input.attempt [.running]
  | checkingProgress input _ job .. => s.LastIs job input.attempt [.running]
  | persistingFailure input _ job _ | askingMost input job _ | recordingFailure input job .. =>
    s.LastIs job input.attempt [.failed, .incomplete]
  | hydratingAttempt .. | persistingSuccess .. | recordingSuccess | timingCancel .. | lookingBack _
  | recovering .. | timingRecovery .. | failingAttempt .. | failingJob .. => True

def Spot.Resumes (s : JobStore) : Spot → Prop
  | .between input => s.Resumes input
  | .at station => station.Resumes s
  | .stopped => True

namespace Station

variable {neat : Prop} {id : Uuid} {m : Manager} {c : Course} {s t : JobStore} {input : RunInput}
  {budget : Option RetryBudget} {context : AttemptContext} {job : JobId}

theorem cleaning_resumes (h : s.Resumes input) (jobs : List JobId) :
    (cleaning m input jobs).Resumes s := by
  cases jobs with
  | nil => exact h
  | cons job jobs => exact h

theorem failingStale_resumes (h : s.Resumes input) (jobs : List JobId) (attempts : List Nat) :
    (failingStale m input job jobs attempts).Resumes s := by
  cases attempts with
  | nil => exact h
  | cons attempt attempts => exact h

theorem leaving_resumes {last : Bool} (h : s.Resumes input) :
    (leaving last input).Resumes s := by
  cases last with
  | false => exact h
  | true => exact trivial

theorem cancelling_resumes (h : input.jobId = none → s.Resumes input)
    (failures : List FailureReason) (partialSuccess : Option Bool) (last : Bool) :
    (cancelling input failures partialSuccess last).Resumes s := by
  unfold cancelling
  split
  · next none => exact leaving_resumes (h none)
  · exact trivial

theorem opening_resumes (isReset : Bool) : (opening m input budget isReset).Resumes s := by
  unfold opening
  split
  · exact trivial
  · exact trivial

theorem checkingSides_resumes (h : s.LastIs context.jobId input.attempt [.running])
    (sides : List Side) : (checkingSides input budget context sides).Resumes s := by
  cases sides with
  | nil => exact h
  | cons side sides => exact h

theorem succeeding_resumes : (succeeding context budget).Resumes s := by
  cases budget with
  | none => exact trivial
  | some budget => exact trivial

theorem limiting_resumes (h : s.LastIs job input.attempt [.failed, .incomplete])
    (summary : FailureSummary) : (limiting input job summary budget).Resumes s := by
  cases budget with
  | none => exact h
  | some budget => exact h

theorem reporting_resumes (h : s.LastIs context.jobId input.attempt [.running])
    (hasJob : input.jobId = some context.jobId) (flags : Flags) (outcome : AttemptOutcome) :
    (reporting m input budget context flags outcome).Resumes s := by
  have cancelled (failures : List FailureReason) (partialSuccess : Option Bool) :
      (cancelling input failures partialSuccess false).Resumes s := by
    refine cancelling_resumes (fun none => ?_) _ _ _
    rw [none] at hasJob
    cases hasJob
  cases outcome with
  | succeeded output => exact trivial
  | cancelled => exact cancelled _ _
  | failed failures partialSuccess =>
    unfold reporting
    dsimp only
    split
    · exact cancelled _ _
    · unfold failing
      rw [hasJob]
      exact h

theorem givenUp_resumes (task : Task) (error : ActivityError) (h : task.Resumes s) :
    (givenUp task error).Resumes s := by
  cases task with
  | lastFailure input budget context => exact h
  | _ => exact trivial

theorem carried_resumes (task : Task) (reply : task.call.Reply) (fits : task.Fits c)
    (stands : task.Stands neat m.connectionId s) (h : task.Resumes s)
    (effect : task.call.Effect m.connectionId s reply t) : (carried m task reply).Resumes t := by
  cases task with
  | listStale input => exact cleaning_resumes (h.of_none fits.2) _
  | getStale input job jobs => exact failingStale_resumes (h.of_none fits.2) _ _
  | failStaleAttempt input job attempt attempts jobs now =>
    exact failingStale_resumes (h.of_none fits.2) _ _
  | failStaleJob input job jobs => exact cleaning_resumes (h.of_none fits.2) _
  | untilNextRun input budget =>
    obtain rfl : t = s := effect
    exact h
  | createAttempt input budget job isReset =>
    -- The attempt that is created becomes the last one.
    obtain ⟨row, found, after⟩ := (effect.revises rfl).found
    refine ⟨_, after, ?_⟩
    show ((Call.createAttempt job).revise row).LastIs reply [.running]
    rw [effect.attempted found]
    exact Job.lastIs_createAttempt
  | startJob input budget context => exact h.revised (effect.revises rfl) fun _ _ last => last
  | lastFailure input budget context =>
    obtain ⟨-, rfl⟩ := effect
    exact checkingSides_resumes h _
  | succeed input budget context output => exact succeeding_resumes
  | failAttempt input budget job madeProgress summary =>
    refine limiting_resumes (h.revised (effect.revises rfl) fun row found last => ?_) summary
    have flies : row.Flies m.connectionId [input.attempt] := stands.flies found
    obtain ⟨a, last, number, status⟩ := last.failAttempt flies.tidy.distinct
    refine ⟨a, last, number, ?_⟩
    rw [List.mem_singleton.1 status]
    cases madeProgress with
    | false => exact List.mem_cons_self
    | true => exact List.mem_cons_of_mem _ List.mem_cons_self
  | autoDisable input => exact JobStore.resumes_of_fresh rfl rfl
  | createJob | cancelJob | failJob => exact trivial

theorem endingWait_resumes (h : s.Resumes input) (before control : Control) :
    ((endingWait input).next m (before, control)).Resumes s := by
  simp only [next]
  split
  · exact cancelling_resumes (fun _ => h) _ _ _
  split
  · exact h
  split
  · exact cancelling_resumes (fun _ => h) _ _ _
  · exact trivial

/-- One case for each station: a job is left to the next generation where its failure is recorded,
and else only if it was there when this one began. -/
theorem next_resumes (station : Station) (a : (station.request m).Answer) (fits : station.Fits c)
    (stands : station.Stands neat m.connectionId s) (h : station.Resumes s)
    (effect : (station.request m).Effect m.connectionId a s t) :
    (station.next m a).Resumes t := by
  cases station with
  | beginning input =>
    obtain rfl : t = s := effect
    have begun : t.Resumes { input with skipScheduling := false } := ⟨h.fromFailure, h.last⟩
    simp only [next]
    split
    · exact begun
    · exact begun
  | calling task left failed =>
    cases a with
    | ok reply => exact carried_resumes task reply fits stands h effect
    | error error =>
      obtain rfl : t = s := effect
      cases left with
      | zero => exact givenUp_resumes task error h
      | succ left => exact h
  | endingWait input =>
    obtain rfl : t = s := effect
    exact endingWait_resumes h a.1 a.2
  | hydratingAttempt input isReset => exact opening_resumes isReset
  | hydrating | checkingProgress | persistingFailure | askingMost =>
    obtain rfl : t = s := effect.same rfl fun _ created => by cases created
    exact h
  | looking input budget context =>
    obtain rfl : t = s := effect
    obtain ⟨control, _⟩ := a
    simp only [next]
    split
    · exact h
    · exact h
  | checking input budget context side sides =>
    obtain rfl : t = s := effect
    rcases a with error | (_ | reason | _)
    · exact h
    · exact checkingSides_resumes h sides
    · exact h
    · exact h
  | executing input budget context =>
    obtain rfl : t = s := effect
    cases a with
    | ok outcome => exact h
    | error error => exact h
  | releasing input budget context outcome =>
    obtain rfl : t = s := effect
    cases outcome with
    | ok outcome => exact reporting_resumes h fits.jobId _ outcome
    | error failure => exact trivial
  | lookingBack last => exact leaving_resumes (JobStore.resumes_of_fresh rfl rfl)
  | recordingFailure input job summary withinLimits =>
    obtain rfl : t = s := effect
    simp only [next]
    split
    · refine ⟨?_, fun job' some => ?_⟩
      · show true = input.jobId.isSome
        rw [fits.jobId]
        rfl
      · obtain rfl := Option.some.inj (fits.jobId.symm.trans some)
        exact h
    · exact trivial
  | recovering input failure =>
    simp only [next]
    split
    · exact trivial
    · exact JobStore.resumes_of_fresh rfl rfl
  | recordingSuccess | failingJob => exact JobStore.resumes_of_fresh rfl rfl
  | ending input =>
    obtain rfl : t = s := effect
    obtain ⟨before, control⟩ := a
    simp only [next]
    split
    · exact trivial
    · exact ⟨h.fromFailure, h.last⟩
  | persistingSuccess | timingCancel | timingRecovery | failingAttempt => exact trivial
  | pausing | timingStale | waiting | registering | timingError =>
    obtain rfl : t = s := effect
    exact h

end Station

/-! ### Whether the connection counts as running -/

namespace Course

/-- Until the wait is over, the flag tells whether a job was left open by the generation before. -/
def Counts (c : Course) (flags : Flags) : Prop :=
  c.waitEnd = none → flags.running = c.openJob.isSome

variable {c : Course} {input : RunInput}

theorem Waits.jobId (h : c.Waits input) : input.jobId = c.openJob := by
  rw [← h.openJob, job, h.created]
  rfl

theorem openJob_after {e : Event} (goesOn : e.endsGeneration = false) :
    (c.after e).openJob = c.openJob := by
  unfold after
  split
  · rfl
  · rfl
  · rfl
  · rfl
  · rfl
  · split
    · rfl
    · rfl
  · rfl
  · rfl
  · split
    · rfl
    · rfl
  · rfl
  · split
    · rfl
    · next notDeleted => exact absurd (by simpa [Event.endsGeneration] using goesOn) notDeleted
  · rfl

theorem Counts.same {c' : Course} {flags flags' : Flags} (h : c.Counts flags)
    (openJob : c'.openJob = c.openJob) (waitEnd : c'.waitEnd = c.waitEnd)
    (running : flags'.running = flags.running) : c'.Counts flags' := by
  intro waiting
  rw [running, openJob]
  exact h (waitEnd.symm.trans waiting)

end Course

/-- While a generation is in progress the flag is changed by the end of its wait and by an attempt
alone, and there is no attempt before that end. -/
theorem counts_answer {id : Uuid} {r : Request} {w w' : World} {a : r.Answer}
    (h : (course w.past).Counts w.control.flags) (inner : r.isInner)
    (due : r = .enter .registerAttempt → (course w.past).isDue)
    (answers : w.Answers id r a w') :
    ((course w.past).after (.told r a)).Counts w'.control.flags := by
  cases answers with
  | carried call reply jobs effect =>
    cases call with
    | failJob job reason =>
      obtain ⟨report, after⟩ := (course w.past).after_failJob job reason
      rw [after]
      exact h.same rfl rfl rfl
    | _ => exact h.same rfl rfl rfl
  | failed call e =>
    rw [Course.after_failed]
    exact h
  | entered sec =>
    cases sec with
    | beginGeneration | endGeneration => cases inner
    | endWait => exact nofun
    | registerAttempt =>
      intro waiting
      have waited := Course.waited_of_isDue (due rfl)
      have waiting : (course w.past).waitEnd = none := waiting
      rw [waiting] at waited
      cases waited
    | look =>
      obtain ⟨report, after⟩ := (course w.past).after_look w.control (Section.look.apply w.control)
      rw [after]
      exact h.same rfl rfl rfl
    | releaseAttempt | recordSuccess | recordFailure => exact h.same rfl rfl rfl
  | waited span purpose =>
    cases purpose with
    | schedule | recovery => exact h.same rfl rfl rfl
  | checked | executed | paused | timed => exact h

/-! ### Runs -/

structure World.Bounds (spot : Spot) (w : World) : Prop where
  resumes : (∀ e ∈ w.past, e.givesUp = false) → spot.Resumes w.jobs
  counts : spot.hasBegun → (course w.past).Counts w.control.flags

theorem World.Bounds.hear {spot : Spot} {w : World} (h : w.Bounds spot) (signal : Signal) :
    (w.hear signal).Bounds spot where
  resumes quiet := h.resumes fun e mem => quiet e (List.mem_cons_of_mem _ mem)
  counts begun := (h.counts begun).same rfl rfl (w.control.hears_signal signal).running

theorem next_counts {m : Manager} {station : Station} {w w' : World}
    (a : (station.request m).Answer) (fits : station.Fits (course w.past))
    (h : (station : Spot).hasBegun → (course w.past).Counts w.control.flags)
    (answers : w.Answers m.connectionId (station.request m) a w')
    (begun : (station.next m a).hasBegun) :
    ((course w.past).after (.told (station.request m) a)).Counts w'.control.flags := by
  cases station with
  | beginning input =>
    cases answers with
    | entered sec =>
      intro _
      show input.jobId.isSome = (course w.past).openJob.isSome
      rw [fits.jobId]
  | ending input =>
    cases answers with
    | entered sec =>
      by_cases deleted : w.control.flags.deleted = true
      · show ((course w.past).after (.told (.enter .endGeneration) (w.control, _))).Counts
          (Section.endGeneration.apply w.control).flags
        rw [Course.after_endGeneration_of_deleted _ deleted,
          Section.endGeneration_of_deleted deleted]
        exact h rfl
      · simp only [Station.next, if_neg deleted] at begun
        cases begun
  | _ => exact counts_answer (h rfl) rfl (Station.fits_registerAttempt fits) answers

theorem bounds_answer {neat : Prop} {m : Manager} {station : Station} {w w' : World}
    (a : (station.request m).Answer)
    (known : station.Fits (course w.past) ∧ w.Flies neat m.connectionId station)
    (h : w.Bounds station) (answers : w.Answers m.connectionId (station.request m) a w') :
    (w'.note (station.request m) a).Bounds (station.next m a) where
  resumes quiet := by
    rw [answers.past_note] at quiet
    have before : ∀ e ∈ w.past, e.givesUp = false := fun e mem =>
      quiet e (List.mem_cons_of_mem _ mem)
    exact station.next_resumes a known.1 (known.2.stands before) (h.resumes before) answers.effect
  counts begun := by
    show ((course w'.past).after _).Counts w'.control.flags
    rw [answers.past]
    exact next_counts a known.1 h.counts answers begun

theorem kept_bounds (neat : Prop) (m : Manager) : Kept m fun spot w =>
    (spot.Fits (course w.past) ∧ w.Flies neat m.connectionId spot) ∧ w.Bounds spot :=
  (kept_flies neat m).and (fun signal h => h.hear signal) (fun h => ⟨h.resumes, nofun⟩)
    fun a known h answers => bounds_answer a known h answers

theorem bounds_of_steps {m : Manager} {rows : List Job} {a : Moment}
    (steps : Moment.Steps m (.first m rows) a) : a.Has m fun spot w =>
      (spot.Fits (course w.past) ∧ w.Flies
        (∀ row ∈ rows, row.connectionId = m.connectionId → row.Tidy) m.connectionId spot) ∧
        w.Bounds spot :=
  (kept_bounds _ m).steps steps ⟨_, .between _,
    ⟨⟨⟨rfl, rfl, rfl⟩, rfl, rfl, rfl, rfl⟩, flies_first m rows⟩,
    fun _ => JobStore.resumes_of_fresh rfl rfl, nofun⟩

/-! ### Generations -/

/-- How many generations are over. -/
def generationsOver (past : List Event) : Nat := past.countP Event.endsGeneration

theorem openJob_of_goesOn {past since : List Event}
    (goesOn : ∀ e ∈ since, e.endsGeneration = false) :
    (course (since ++ past)).openJob = (course past).openJob := by
  induction since with
  | nil => rfl
  | cons e since ih =>
    rw [List.cons_append, course, Course.openJob_after (goesOn e List.mem_cons_self)]
    exact ih fun e mem => goesOn e (List.mem_cons_of_mem _ mem)

/-- As long as a generation lasts, its course knows with which job it was begun. -/
theorem openJob_of_generation {m : Manager} {a b : Moment} (steps : a.Steps m b)
    (same : generationsOver b.world.past = generationsOver a.world.past) :
    (course b.world.past).openJob = (course a.world.past).openJob := by
  obtain ⟨since, split⟩ := Moment.past_suffix steps
  rw [← split] at same ⊢
  rw [generationsOver, generationsOver, List.countP_append] at same
  have none : since.countP Event.endsGeneration = 0 := by omega
  refine openJob_of_goesOn fun e mem => ?_
  simpa using List.countP_eq_zero.1 none e mem

/-- Whether a request is made after the jobs left open from before were failed and before the wait
for the schedule has ended. -/
def Request.isPastCleaning : Request → Bool
  | .call (.hydrate none) | .call .timeUntilNextRun | .wait _ .schedule | .enter .endWait => true
  | _ => false

theorem aloft_of_pastCleaning {neat : Prop} {id : Uuid} {m : Manager} {c : Course} {s : JobStore}
    {station : Station} (cleaned : (station.request m).isPastCleaning) (fits : station.Fits c)
    (without : c.openJob = none) (stands : station.Stands neat id s) : s.Aloft neat id none [] := by
  have unchanged {input : RunInput} (waits : c.Waits input)
      (aloft : s.Aloft neat id input.jobId []) : s.Aloft neat id none [] := by
    rw [waits.jobId, without] at aloft
    exact aloft
  cases station with
  | hydrating | waiting | endingWait => exact unchanged fits stands
  | calling task left failed =>
    cases task with
    | untilNextRun => exact unchanged fits stands
    | _ => cases cleaned
  | hydratingAttempt input isReset =>
    have stands : s.Aloft neat id input.jobId [] := stands
    cases hasJob : input.jobId with
    | none =>
      rw [hasJob] at stands
      exact stands
    | some job => simp [Station.request, hasJob, Request.isPastCleaning] at cleaned
  | _ => cases cleaned

section Generation

variable {m : Manager} {rows : List Job} {a : Moment}

theorem isTerminal_of_pastCleaning {r : Request} {row : Job}
    (steps : Moment.Steps m (.first m rows) a) (quiet : ∀ e ∈ a.world.past, e.givesUp = false)
    (asks : a.Asks r) (cleaned : r.isPastCleaning)
    (without : (course a.world.past).openJob = none)
    (mem : row ∈ a.world.jobs.jobsFor m.connectionId) : row.status.isTerminal := by
  obtain ⟨station, rfl, ⟨fits, flies⟩, -⟩ := (bounds_of_steps steps).station asks
  have aloft := aloft_of_pastCleaning cleaned fits without (flies.stands quiet)
  obtain ⟨mem, own⟩ := List.mem_filter.1 mem
  exact aloft.ended row.id row (JobStore.find?_of_mem flies.ordered mem) (of_decide_eq_true own)
    nofun

theorem running_of_wait {span : Duration} (steps : Moment.Steps m (.first m rows) a)
    (asks : a.Asks (.wait span .schedule)) :
    a.world.control.flags.running = (course a.world.past).openJob.isSome := by
  obtain ⟨station, request, ⟨fits, -⟩, bounds⟩ := (bounds_of_steps steps).station asks
  have begun := Station.hasBegun_of_request request fun _ _ => nofun
  exact bounds.counts begun (Station.fits_wait fits request)

/-- A generation is begun with a job just if the one before has left it after a failure. Then that
job is the only one that is open, and the attempt of the input is its last one, which has failed.
Otherwise every job is over once those left open from before were failed. While the wait for the
schedule lasts, the connection counts as running just if the generation was begun with a job. -/
theorem boundary_of_generation {input : RunInput} {w : World}
    (steps : Moment.Steps m (.first m rows) ⟨.done (some input), w⟩)
    (quiet : ∀ e ∈ w.past, e.givesUp = false) :
    (input.jobId.isSome ↔ input.fromFailure = true) ∧
      (∀ job, input.jobId = some job → w.jobs.nonTerminalJobs m.connectionId = [job] ∧
        ∃ row a, w.jobs.find? job = some row ∧ row.attempts.getLast? = some a ∧
          (a.status = .failed ∨ a.status = .incomplete) ∧ input.attempt = a.number) ∧
      ∀ b, Moment.Steps m ⟨.done (some input), w⟩ b →
        generationsOver b.world.past = generationsOver w.past →
        (∀ e ∈ b.world.past, e.givesUp = false) →
        (input.jobId = none → ∀ r, b.Asks r → r.isPastCleaning →
          ∀ row ∈ b.world.jobs.jobsFor m.connectionId, row.status.isTerminal) ∧
        ∀ span, b.Asks (.wait span .schedule) →
          (b.world.control.flags.running = true ↔ input.jobId.isSome) := by
  obtain ⟨spot, follows, ⟨fits, flies⟩, bounds⟩ := bounds_of_steps steps
  cases follows with
  | between input =>
    have begins := flies.stands quiet
    have resumes := bounds.resumes quiet
    have openJob : input.jobId = (course w.past).openJob := Course.Waits.jobId fits
    refine ⟨by rw [resumes.fromFailure], fun job hasJob => ⟨?_, ?_⟩, fun b within same calm => ?_⟩
    · have aloft := JobStore.Begins.aloft begins (by rw [hasJob]; exact nofun)
      rw [hasJob] at aloft
      exact aloft.nonTerminalJobs flies.ordered
    · obtain ⟨row, found, a, last, number, status⟩ := resumes.last job hasJob
      exact ⟨row, a, found, last, by simpa using status, number.symm⟩
    · have openJob : input.jobId = (course b.world.past).openJob :=
        openJob.trans (openJob_of_generation within same).symm
      refine ⟨fun none r asks cleaned row mem => ?_, fun span asks => ?_⟩
      · exact isTerminal_of_pastCleaning (steps.trans within) calm asks cleaned
          (openJob.symm.trans none) mem
      · rw [running_of_wait (steps.trans within) asks, openJob]

end Generation

/-- A job was found open and was failed, and the wait for the first generation's attempt begins. -/
def Moment.leftoverFailed : Moment :=
  [.serve (.failed [] false) 9].foldl (move .sample) (first .sample [.leftover])

/-- The first attempt of a new job has failed. -/
def Moment.retryDue : Moment :=
  [.serve (.failed [] false) 27].foldl (move .sample) (first .sample [.leftover])

def Moment.retryWaits : Moment := [.serve (.failed [] false) 4].foldl (move .sample) retryDue

theorem boundary_of_retryDue :
    (∀ row ∈ Moment.leftoverFailed.world.jobs.jobsFor Manager.sample.connectionId,
      row.status.isTerminal) ∧
      Moment.retryDue.world.jobs.nonTerminalJobs Manager.sample.connectionId = [8] ∧
      Moment.retryWaits.world.control.flags.running = true := by
  refine ⟨?first, ?second⟩
  case first =>
    have here : Moment.first .sample [.leftover] =
        ⟨.done (some (.fresh Manager.sample.connectionId)),
          (Moment.first .sample [.leftover]).world⟩ := Moment.eq_of_input? rfl
    have asks : Moment.leftoverFailed.Asks (.wait .zero .schedule) :=
      Moment.asks_of_request? (by decide +kernel)
    have steps : Moment.Steps .sample (.first .sample [.leftover]) (.first .sample [.leftover]) :=
      .refl
    have waits : Moment.Steps .sample (.first .sample [.leftover]) .leftoverFailed :=
      Moment.steps_replay .sample _ _
    have quiet : ∀ e ∈ Moment.leftoverFailed.world.past, e.givesUp = false := by decide +kernel
    have same : generationsOver Moment.leftoverFailed.world.past =
        generationsOver (Moment.first .sample [.leftover]).world.past := by decide +kernel
    nth_rewrite 2 [here] at steps
    rw [here] at waits
    obtain ⟨-, -, generation⟩ := boundary_of_generation steps (by decide +kernel)
    exact (generation _ waits same quiet).1 rfl _ asks rfl
  case second =>
    have here : Moment.retryDue =
        ⟨.done (some { connectionId := Uuid.zero, jobId := some 8, fromFailure := true }),
          Moment.retryDue.world⟩ := Moment.eq_of_input? (by decide +kernel)
    have asks : Moment.retryWaits.Asks (.wait .zero .schedule) :=
      Moment.asks_of_request? (by decide +kernel)
    have steps : Moment.Steps .sample (.first .sample [.leftover]) .retryDue :=
      Moment.steps_replay .sample _ _
    have waits : Moment.Steps .sample .retryDue .retryWaits := Moment.steps_replay .sample _ _
    have quiet : ∀ e ∈ Moment.retryWaits.world.past, e.givesUp = false := by decide +kernel
    have same : generationsOver Moment.retryWaits.world.past =
        generationsOver Moment.retryDue.world.past := by decide +kernel
    rw [here] at steps waits
    obtain ⟨-, only, generation⟩ := boundary_of_generation steps (by decide +kernel)
    exact ⟨(only 8 rfl).1, ((generation _ waits same quiet).2 _ asks).2 rfl⟩

end ConnectorSync.Sync
