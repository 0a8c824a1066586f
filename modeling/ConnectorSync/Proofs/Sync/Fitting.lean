import ConnectorSync.Proofs.Sync.Course
import ConnectorSync.Proofs.Sync.Following
import ConnectorSync.Proofs.Sync.JobStore

/-!
# The course of a generation fits its stations

At every station it is settled which of the events before it have happened in the generation. Every
answer keeps that so; what holds at every step of a run is proved with it in hand.
-/

namespace ConnectorSync.Sync

namespace Course

structure Pursues (c : Course) (input : RunInput) : Prop where
  openJob : c.job = input.jobId
  carried : c.carried = input.resetConnection
  report : c.report = none

structure Waits (c : Course) (input : RunInput) : Prop extends c.Pursues input where
  waitEnd : c.waitEnd = none
  created : c.created = none
  attempted : c.attempted = false
  released : c.released = none

structure Prepares (c : Course) (input : RunInput) : Prop extends c.Pursues input where
  isDue : c.isDue
  attempted : c.attempted = false
  released : c.released = none

structure Attempts (c : Course) (input : RunInput) (context : AttemptContext) : Prop
    extends c.Pursues input where
  isDue : c.isDue
  attempted : c.attempted = true
  released : c.released = none
  jobId : input.jobId = some context.jobId
  isReset : context.isReset = c.isReset

structure Tried (c : Course) : Prop where
  waited : c.waitEnd.isSome
  attempted : c.isDue → c.attempted = true

structure Fails (c : Course) (input : RunInput) (job : JobId) : Prop extends c.Pursues input where
  isDue : c.isDue
  attempted : c.attempted = true
  released : c.released.any fun f => !f.cancelled
  jobId : input.jobId = some job

structure Reports (c : Course) (input : RunInput) (job : JobId) : Prop
    extends c.Pursues input, c.Tried where
  isUpdated : c.isUpdated = false
  jobId : input.jobId = some job

theorem waited_of_isDue {c : Course} (h : c.isDue) : c.waitEnd.isSome := by
  unfold isDue at h
  cases hw : c.waitEnd with
  | none =>
    rw [hw] at h
    cases h
  | some f => rfl

theorem Attempts.tried {c : Course} {input : RunInput} {context : AttemptContext}
    (h : c.Attempts input context) : c.Tried :=
  ⟨waited_of_isDue h.isDue, fun _ => h.attempted⟩

theorem Fails.tried {c : Course} {input : RunInput} {job : JobId} (h : c.Fails input job) :
    c.Tried :=
  ⟨waited_of_isDue h.isDue, fun _ => h.attempted⟩

theorem Reports.hasJob {c : Course} {input : RunInput} {job : JobId} (h : c.Reports input job) :
    c.job.isSome := by
  rw [h.openJob, h.jobId]
  rfl

structure Reported (c : Course) (r : Report) : Prop extends c.Tried where
  report : c.report = some r
  isUpdated : c.isUpdated = false
  hasJob : c.job.isSome

/-- What was reported fits how the wait and the attempt ended. -/
def Ends (c : Course) : Prop :=
  match c.report with
  | none => c.waitEnd.isSome ∧ c.isDue = false ∧ (c.isUpdated = true ∨ c.job = none)
  | some .kept => c.Reported .kept ∧ c.released.any fun f => !f.cancelled
  | some .abandoned => True
  | some r => c.Reported r

end Course

def Task.Fits (c : Course) : Task → Prop
  | listStale input | getStale input .. | failStaleAttempt input .. | failStaleJob input .. =>
    c.Waits input ∧ input.jobId = none
  | untilNextRun input _ => c.Waits input
  | createJob input _ isReset => c.Prepares input ∧ input.jobId = none ∧ isReset = c.isReset
  | createAttempt input _ job isReset =>
    c.Prepares input ∧ input.jobId = some job ∧ isReset = c.isReset
  | startJob input _ context | lastFailure input _ context => c.Attempts input context
  | succeed input _ context _ => c.Reports input context.jobId
  | cancelJob input job .. => c.Reports input job
  | failAttempt input _ job .. => c.Fails input job
  | failJob _ job _ => c.Reported .kept ∧ c.job = some job
  | autoDisable _ => c.Reported .failed

def Station.Fits (c : Course) : Station → Prop
  | beginning input | hydrating input | waiting input _ | endingWait input => c.Waits input
  | calling task _ _ | pausing task _ _ => task.Fits c
  | timingStale input .. => c.Waits input ∧ input.jobId = none
  | hydratingAttempt input isReset => c.Prepares input ∧ isReset = c.isReset
  | registering input _ context | looking input _ context | checking input _ context ..
  | executing input _ context | timingError input _ context _ | releasing input _ context _ =>
    c.Attempts input context
  | persistingSuccess .. | recordingSuccess => c.Reported .succeeded
  | timingCancel input job .. => c.Reports input job
  | lookingBack _ => c.Reported (.cancelled false)
  | checkingProgress input _ job .. | persistingFailure input _ job _ | askingMost input job _
  | recordingFailure input job .. => c.Fails input job
  | recovering .. => True
  | timingRecovery .. | failingAttempt .. | failingJob .. => c.report = some .abandoned
  | ending input =>
    c.handsOn = input.resetConnection ∧ c.leavesOpen = input.jobId ∧ c.Ends

def Spot.Fits (c : Course) : Spot → Prop
  | .between input => c.Waits input
  | .at s => s.Fits c
  | .stopped => c.Ends

namespace Station

variable {m : Manager} {c : Course} {input : RunInput} {budget : Option RetryBudget}

theorem cleaning_fits (h : c.Waits input) (hj : input.jobId = none) (jobs : List JobId) :
    (cleaning m input jobs).Fits c := by
  cases jobs with
  | nil => exact h
  | cons job jobs => exact ⟨h, hj⟩

theorem failingStale_fits (h : c.Waits input) (hj : input.jobId = none) (job : JobId)
    (jobs : List JobId) (attempts : List Nat) :
    (failingStale m input job jobs attempts).Fits c := by
  cases attempts with
  | nil => exact ⟨h, hj⟩
  | cons attempt attempts => exact ⟨h, hj⟩

theorem leaving_fits {last : Bool} (h : (ending input).Fits c) : (leaving last input).Fits c := by
  cases last with
  | false => exact h
  | true => exact h.2.2

theorem cancelling_fits {last : Bool} (h : c.Pursues input) (ht : c.Tried)
    (hu : c.isUpdated = false)
    (hd : input.jobId = none → c.isDue = false) (failures : List FailureReason)
    (partialSuccess : Option Bool) :
    (cancelling input failures partialSuccess last).Fits c := by
  unfold cancelling
  cases hj : input.jobId with
  | some job => exact ⟨h, ht, hu, hj⟩
  | none =>
    refine leaving_fits ⟨?_, ?_, ?_⟩
    · simp only [Course.handsOn, h.report, h.carried]
    · simp only [Course.leavesOpen, h.report, h.openJob]
    · simp only [Course.Ends, h.report]
      exact ⟨ht.waited, hd hj, .inr (h.openJob.trans hj)⟩

theorem opening_fits (h : c.Prepares input) (isReset : Bool) (hr : isReset = c.isReset) :
    (opening m input budget isReset).Fits c := by
  unfold opening
  cases hj : input.jobId with
  | some job =>
    have pursues : c.Pursues { input with jobId := some job } :=
      ⟨h.openJob.trans hj, h.carried, h.report⟩
    exact ⟨⟨pursues, h.isDue, h.attempted, h.released⟩, rfl, hr⟩
  | none => exact ⟨h, hj, hr⟩

theorem checkingSides_fits {context : AttemptContext} (h : c.Attempts input context)
    (sides : List Side) : (checkingSides input budget context sides).Fits c := by
  cases sides <;> exact h

theorem failing_fits {context : AttemptContext} (h : c.Attempts input context) {f : Flags}
    (hf : f.cancelled = false) (failures : List FailureReason) (partialSuccess : Bool) :
    (failing input budget failures partialSuccess).Fits { c with released := some f } := by
  unfold failing
  rw [h.jobId]
  exact ⟨⟨h.openJob, h.carried, h.report⟩, h.isDue, h.attempted, by simp [hf], h.jobId⟩

theorem succeeding_fits {context : AttemptContext} (h : c.Reported .succeeded) :
    (succeeding context budget).Fits c := by
  cases budget <;> exact h

theorem limiting_fits {job : JobId} (h : c.Fails input job) (summary : FailureSummary) :
    (limiting input job summary budget).Fits c := by
  cases budget <;> exact h

/-- Nothing is left behind after a success, a job given up or a generation given up. -/
theorem over_fits (h : c.Reported .succeeded ∨ c.Reported .failed ∨ c.report = some .abandoned)
    (id : Uuid) : (ending (.fresh id)).Fits c := by
  rcases h with h | h | h
  · have hr := h.report
    simp only [Fits, Course.handsOn, Course.leavesOpen, Course.Ends, hr]
    exact ⟨rfl, rfl, h⟩
  · have hr := h.report
    simp only [Fits, Course.handsOn, Course.leavesOpen, Course.Ends, hr]
    exact ⟨rfl, rfl, h⟩
  · simp only [Fits, Course.handsOn, Course.leavesOpen, Course.Ends, h]
    exact ⟨rfl, rfl, trivial⟩

theorem carried_fits (task : Task) (reply : task.call.Reply) (h : task.Fits c) :
    (carried m task reply).Fits (c.after (.told (.call task.call) (.ok reply))) := by
  cases task with
  | listStale input => exact cleaning_fits h.1 h.2 _
  | getStale input job jobs => exact failingStale_fits h.1 h.2 job jobs _
  | failStaleAttempt input job attempt attempts jobs now =>
    exact failingStale_fits h.1 h.2 job jobs attempts
  | failStaleJob input job jobs =>
    simp only [Task.call, Course.after, h.1.report]
    exact cleaning_fits h.1 h.2 _
  | untilNextRun input budget => exact h
  | createJob input budget isReset =>
    obtain ⟨h, -, hr⟩ := h
    exact ⟨⟨⟨rfl, h.carried, h.report⟩, h.isDue, h.attempted, h.released⟩, rfl, hr⟩
  | createAttempt input budget job isReset =>
    obtain ⟨h, hj, hr⟩ := h
    exact ⟨⟨h.openJob, h.carried, h.report⟩, h.isDue, rfl, h.released, hj, hr⟩
  | startJob input budget context => exact h
  | lastFailure input budget context => exact checkingSides_fits h _
  | succeed input budget context output =>
    exact succeeding_fits ⟨⟨h.waited, h.attempted⟩, rfl, h.isUpdated, h.hasJob⟩
  | cancelJob input job summary last =>
    exact ⟨⟨h.waited, h.attempted⟩, rfl, h.isUpdated, h.hasJob⟩
  | failAttempt input budget job madeProgress summary => exact limiting_fits h summary
  | failJob input job reason =>
    obtain ⟨reported, hj⟩ := h
    simp only [Task.call, Course.after, reported.report]
    exact ⟨⟨reported.waited, reported.attempted⟩, rfl, reported.isUpdated, reported.hasJob⟩
  | autoDisable input => exact over_fits (.inr (.inl h)) _

theorem givenUp_fits (task : Task) (error : ActivityError) (h : task.Fits c) :
    (givenUp task error).Fits c := by
  cases task with
  | lastFailure input budget context => exact h
  | _ => exact trivial

theorem endingWait_fits (h : c.Waits input) (before control : Control) :
    ((endingWait input).next m (before, control)).Fits
      { c with waitEnd := some control.flags } := by
  have pursues : { c with waitEnd := some control.flags }.Pursues input :=
    ⟨h.openJob, h.carried, h.report⟩
  have isUpdated : { c with waitEnd := some control.flags }.isUpdated =
      (control.flags.updated && !control.flags.deleted) := rfl
  have isDue :
      { c with waitEnd := some control.flags }.isDue = control.flags.permitsAttempt := rfl
  have tried (h : control.flags.permitsAttempt = false) :
      { c with waitEnd := some control.flags }.Tried :=
    ⟨rfl, fun due => absurd (isDue.symm.trans due) (by simp [h])⟩
  simp only [next]
  split
  · next hd =>
    refine cancelling_fits pursues (tried ?_) ?_ (fun _ => ?_) _ _
    · simp [Flags.permitsAttempt, hd]
    · simp [isUpdated, hd]
    · simp [isDue, Flags.permitsAttempt, hd]
  split
  · next hd hu =>
    refine ⟨?_, ?_, ?_⟩
    · simp only [Course.handsOn, h.report, h.carried]
    · simp only [Course.leavesOpen, h.report]
      exact h.openJob
    · simp only [Course.Ends, h.report]
      refine ⟨rfl, ?_, .inl ?_⟩
      · simp [Course.isDue, Flags.permitsAttempt, hu]
      · simp [Course.isUpdated, hd, hu]
  split
  · next hu hc =>
    refine cancelling_fits pursues (tried ?_) ?_ (fun _ => ?_) _ _
    · simp [Flags.permitsAttempt, hc]
    · simp [isUpdated, hu]
    · simp [isDue, Flags.permitsAttempt, hc]
  · next hd hu hc =>
    refine ⟨⟨pursues, ?_, h.attempted, h.released⟩, ?_⟩
    · simp [isDue, Flags.permitsAttempt, hd, hu, hc]
    · simp [Course.isReset, h.carried]

theorem releasing_fits {context : AttemptContext} (h : c.Attempts input context)
    (outcome : Except ActivityFailure AttemptOutcome) (before control : Control) :
    ((releasing input budget context outcome).next m (before, control)).Fits
      { c with released := some control.flags } := by
  have pursues : { c with released := some control.flags }.Pursues input :=
    ⟨h.openJob, h.carried, h.report⟩
  have tried : { c with released := some control.flags }.Tried :=
    ⟨h.tried.waited, h.tried.attempted⟩
  have isUpdated := Course.isUpdated_of_isDue h.isDue
  have hasJob (none : input.jobId = none) :
      { c with released := some control.flags }.isDue = false := by
    cases none.symm.trans h.jobId
  rcases outcome with failure | (output | ⟨failures, partialSuccess⟩ | _)
  · exact trivial
  · exact ⟨pursues, tried, isUpdated, h.jobId⟩
  · simp only [next, reporting]
    split
    · exact cancelling_fits pursues tried isUpdated hasJob _ _
    · next hf => exact failing_fits h (by simp_all) _ _
  · exact cancelling_fits pursues tried isUpdated hasJob _ _

theorem recordingFailure_fits {job : JobId} (h : c.Fails input job) (summary : FailureSummary)
    (withinLimits : Bool) (answer : Control × Control) :
    ((recordingFailure input job summary withinLimits).next m answer).Fits
      { c with report := some .kept } := by
  have hasJob : c.job = some job := h.openJob.trans h.jobId
  have reported : { c with report := some .kept }.Reported .kept :=
    ⟨⟨h.tried.waited, h.tried.attempted⟩, rfl, Course.isUpdated_of_isDue h.isDue,
      Option.isSome_of_mem hasJob⟩
  simp only [next]
  split
  · exact ⟨h.carried, h.openJob, reported, h.released⟩
  · exact ⟨reported, hasJob⟩

theorem next_fits (s : Station) (a : (s.request m).Answer) (h : s.Fits c) :
    (s.next m a).Fits (c.after (.told (s.request m) a)) := by
  cases s with
  | beginning input =>
    have waits : c.Waits { input with skipScheduling := false } := { h with }
    simp only [request, next, Course.after]
    split
    · rename_i hj
      exact ⟨waits, Option.isNone_iff_eq_none.mp hj⟩
    · exact waits
  | calling task left failed =>
    cases a with
    | ok reply => exact carried_fits task reply h
    | error error =>
      show Spot.Fits (c.after (.told (.call task.call) (.error error))) _
      rw [Course.after_failed]
      cases left with
      | zero => exact givenUp_fits task error h
      | succ left => exact h
  | pausing task left failed => exact h
  | timingStale input job attempt attempts jobs => exact h
  | hydrating input =>
    cases a <;> exact h
  | waiting input span => exact h
  | endingWait input => exact endingWait_fits h a.1 a.2
  | hydratingAttempt input isReset =>
    obtain ⟨h, hr⟩ := h
    cases a <;> exact opening_fits h _ hr
  | registering input budget context => exact h
  | looking input budget context =>
    obtain ⟨control, _⟩ := a
    simp only [request, next, Course.after, h.report]
    split <;> exact h
  | checking input budget context side sides =>
    rcases a with error | (_ | reason | _)
    · exact h
    · exact checkingSides_fits h sides
    · exact h
    · exact h
  | executing input budget context =>
    cases a <;> exact h
  | timingError input budget context error => exact h
  | releasing input budget context outcome => exact releasing_fits h outcome a.1 a.2
  | persistingSuccess context budget => cases a <;> exact h
  | recordingSuccess => exact over_fits (.inl h) _
  | timingCancel input job failures partialSuccess last => exact h
  | lookingBack last =>
    obtain ⟨⟨hw, ha⟩, hr, hu, hj⟩ := h
    obtain ⟨control, _⟩ := a
    simp only [request, next, Course.after, hr]
    exact leaving_fits ⟨rfl, rfl, ⟨hw, ha⟩, rfl, hu, hj⟩
  | checkingProgress input budget job failures partialSuccess =>
    cases a <;> exact h
  | persistingFailure input budget job summary =>
    cases a <;> exact h
  | askingMost input job summary =>
    cases a <;> exact h
  | recordingFailure input job summary withinLimits =>
    exact recordingFailure_fits h summary withinLimits a
  | recovering input failure =>
    simp only [request, next, Course.after]
    split
    · exact rfl
    · exact ⟨rfl, rfl, trivial⟩
  | timingRecovery input job failure => exact h
  | failingAttempt input job failure now =>
    cases a <;> exact h
  | failingJob job failure =>
    have h : c.report = some .abandoned := h
    cases a with
    | error e => exact over_fits (.inr (.inr h)) _
    | ok reply =>
      simp only [request, next, Course.after, h]
      exact over_fits (.inr (.inr h)) _
  | ending input =>
    obtain ⟨hc, ho, he⟩ := h
    obtain ⟨before, _⟩ := a
    simp only [request, next, Course.after]
    split
    · exact he
    · exact ⟨⟨ho, hc, rfl⟩, rfl, rfl, rfl, rfl⟩

/-! ### What is asked when -/

variable {s : Station}

theorem fits_createJob {isReset : Bool} (h : s.Fits c)
    (hr : s.request m = .call (.createJob isReset)) :
    isReset = c.isReset ∧ c.job = none ∧ c.report = none := by
  cases s with
  | calling task left failed =>
    cases task with
    | createJob input budget b =>
      cases hr
      obtain ⟨prepares, hj, same⟩ := h
      exact ⟨same, prepares.openJob.trans hj, prepares.report⟩
    | _ => cases hr
  | _ => cases hr

theorem fits_createAttempt {job : JobId} (h : s.Fits c)
    (hr : s.request m = .call (.createAttempt job)) :
    c.isDue ∧ c.attempted = false ∧ c.leavesOpen = some job := by
  cases s with
  | calling task left failed =>
    cases task with
    | createAttempt input budget job isReset =>
      cases hr
      obtain ⟨prepares, hj, -⟩ := h
      refine ⟨prepares.isDue, prepares.attempted, ?_⟩
      simp only [Course.leavesOpen, prepares.report]
      exact prepares.openJob.trans hj
    | _ => cases hr
  | _ => cases hr

/-- What a call sets the status of is the job of the generation, unless that has none yet or was
given up, when the jobs that are found open are failed. -/
theorem fits_target {call : Call} {job : JobId} (h : s.Fits c) (hr : s.request m = .call call)
    (ht : call.target = some job) :
    c.job = some job ∧ c.isOver = false ∧ c.report ≠ some .abandoned ∨
      (c.job = none ∨ c.report = some .abandoned) ∧
        ((∃ attempt status summary, call = .failAttempt job attempt status summary) ∨
          ∃ reason, call = .failJob job reason) := by
  have unreported {input : RunInput} (h : c.Pursues input) (hj : input.jobId = some job) :
      c.job = some job ∧ c.isOver = false ∧ c.report ≠ some .abandoned := by
    refine ⟨h.openJob.trans hj, ?_, ?_⟩
    · simp only [Course.isOver, h.report]
    · simp only [h.report, ne_eq, reduceCtorEq, not_false_eq_true]
  cases s with
  | calling task left failed =>
    cases hr
    cases task with
    | failStaleAttempt =>
      cases ht
      exact .inr ⟨.inl (h.1.openJob.trans h.2), .inl ⟨_, _, _, rfl⟩⟩
    | failStaleJob =>
      cases ht
      exact .inr ⟨.inl (h.1.openJob.trans h.2), .inr ⟨_, rfl⟩⟩
    | createAttempt =>
      cases ht
      exact .inl (unreported h.1.toPursues h.2.1)
    | startJob | succeed | cancelJob | failAttempt =>
      cases ht
      exact .inl (unreported h.toPursues h.jobId)
    | failJob =>
      cases ht
      have hk := h.1.report
      exact .inl ⟨h.2, by simp only [Course.isOver, hk], by simp [hk]⟩
    | listStale | getStale | untilNextRun | createJob | lastFailure | autoDisable => cases ht
  | failingAttempt =>
    cases hr
    cases ht
    exact .inr ⟨.inr h, .inl ⟨_, _, _, rfl⟩⟩
  | failingJob =>
    cases hr
    cases ht
    exact .inr ⟨.inr h, .inr ⟨_, rfl⟩⟩
  | hydrating | hydratingAttempt | persistingSuccess | checkingProgress | persistingFailure
  | askingMost =>
    cases hr
    cases ht
  | _ => cases hr

/-- A job is given up after its failure was recorded, unless it is none of the generation's. -/
theorem fits_failJob {job : JobId} {reason : String} (h : s.Fits c)
    (hr : s.request m = .call (.failJob job reason)) :
    c.report = some .abandoned ∨ c.job = none ∨ c.report = some .kept := by
  cases s with
  | calling task left failed =>
    cases task with
    | failStaleJob => exact .inr (.inl (h.1.openJob.trans h.2))
    | failJob => exact .inr (.inr h.1.report)
    | _ => cases hr
  | failingJob => exact .inl h
  | _ => cases hr

theorem fits_failAttempt {job : JobId} {attempt : Nat} {status : AttemptStatus}
    {summary : FailureSummary} (h : s.Fits c)
    (hr : s.request m = .call (.failAttempt job attempt status summary)) :
    status.jobStatus.isTerminal = false := by
  cases s with
  | calling task left failed =>
    cases task with
    | failStaleAttempt =>
      cases hr
      rfl
    | failAttempt input budget job madeProgress summary =>
      cases hr
      cases madeProgress <;> rfl
    | _ => cases hr
  | failingAttempt =>
    cases hr
    rfl
  | _ => cases hr

theorem fits_beginGeneration {jobOpen skipWait : Bool} (h : s.Fits c)
    (hr : s.request m = .enter (.beginGeneration jobOpen skipWait)) : jobOpen = c.job.isSome := by
  cases s with
  | beginning input =>
    cases hr
    rw [h.openJob]
  | _ => cases hr

theorem fits_registerAttempt (h : s.Fits c) (hr : s.request m = .enter .registerAttempt) :
    c.isDue := by
  cases s with
  | registering => exact h.isDue
  | _ => cases hr

theorem fits_releaseAttempt (h : s.Fits c) (hr : s.request m = .enter .releaseAttempt) :
    c.released = none := by
  cases s with
  | releasing => exact h.released
  | _ => cases hr

theorem fits_recordFailure (h : s.Fits c) (hr : s.request m = .enter .recordFailure) :
    c.report = none := by
  cases s with
  | recordingFailure => exact h.report
  | _ => cases hr

theorem fits_wait {span : Duration} (h : s.Fits c) (hr : s.request m = .wait span .schedule) :
    c.waitEnd = none := by
  cases s with
  | waiting input span => exact h.waitEnd
  | _ => cases hr

theorem fits_endWait (h : s.Fits c) (hr : s.request m = .enter .endWait) :
    c.waitEnd = none ∧ c.created = none := by
  cases s with
  | endingWait input => exact ⟨h.waitEnd, h.created⟩
  | _ => cases hr

theorem fits_attempt {context : AttemptContext} (h : s.Fits c)
    (hr : s.request m = .execute context ∨ ∃ side, s.request m = .check context side) :
    ∃ input, c.Attempts input context := by
  rcases hr with hr | ⟨side, hr⟩
  · cases s with
    | executing input budget context =>
      cases hr
      exact ⟨input, h⟩
    | _ => cases hr
  · cases s with
    | checking input budget context side sides =>
      cases hr
      exact ⟨input, h⟩
    | _ => cases hr

end Station

/-! ### Runs -/

theorem World.Answers.past {id : Uuid} {w w' : World} {r : Request} {a : r.Answer}
    (h : w.Answers id r a w') : w'.past = w.past := by
  cases h <;> rfl

/-- What has happened stays known. -/
theorem Moment.past_suffix {m : Manager} {a b : Moment} (h : a.Steps m b) :
    a.world.past <:+ b.world.past := by
  induction h with
  | refl => exact List.suffix_refl _
  | tail _ step ih =>
    cases step with
    | signal rest w s => exact ih.trans (List.suffix_cons _ _)
    | answer r next w w' answer h =>
      refine ih.trans ?_
      rw [World.note, h.past]
      exact List.suffix_cons _ _
    | generation input w => exact ih

def Moment.Has (m : Manager) (P : Spot → World → Prop) (a : Moment) : Prop :=
  ∃ spot, Follows m a.rest spot ∧ P spot a.world

theorem Moment.Has.station {m : Manager} {P : Spot → World → Prop} {a : Moment} {r : Request}
    (h : a.Has m P) (ha : a.Asks r) : ∃ s : Station, s.request m = r ∧ P s a.world := by
  obtain ⟨spot, follows, hp⟩ := h
  obtain ⟨next, hn⟩ := ha
  rw [hn] at follows
  cases follows with
  | «at» s rest _ => exact ⟨s, rfl, hp⟩

/-- A property that every step of a run keeps. -/
structure Kept (m : Manager) (P : Spot → World → Prop) : Prop where
  hear : ∀ {spot w} (s : Signal), P spot w → P spot (w.hear s)
  begin : ∀ {input w}, P (.between input) w → P (.at (.beginning input)) w
  answer : ∀ {s : Station} {w w'} (a : (s.request m).Answer), P s w →
    w.Answers m.connectionId (s.request m) a w' → P (s.next m a) (w'.note (s.request m) a)

namespace Kept

variable {m : Manager} {P : Spot → World → Prop} {a b : Moment}

theorem step (hP : Kept m P) (h : a.Step m b) (ha : a.Has m P) : b.Has m P := by
  obtain ⟨spot, hf, hp⟩ := ha
  cases h with
  | signal rest w s => exact ⟨spot, hf, hP.hear s hp⟩
  | generation input w =>
    cases hf with
    | between input => exact ⟨.at (.beginning input), .turn, hP.begin hp⟩
  | answer r next w w' answer hw =>
    cases hf with
    | «at» s rest hn => exact ⟨s.next m answer, hn answer, hP.answer answer hp hw⟩

/-- Signals may come, and generations begin, between any two answers. -/
theorem steps (hP : Kept m P) (h : a.Steps m b) (ha : a.Has m P) : b.Has m P := by
  induction h with
  | refl => exact ha
  | tail _ h ih => exact hP.step h ih

theorem reachable (hP : Kept m P)
    (first : ∀ rows, P (.between (.fresh m.connectionId)) (Moment.first m rows).world)
    (h : a.Reachable m) : a.Has m P := by
  obtain ⟨rows, h⟩ := h
  exact hP.steps h ⟨_, .between _, first rows⟩

/-- What is kept can be put in another way. -/
theorem congr {Q : Spot → World → Prop} (hP : Kept m P) (same : ∀ {spot w}, P spot w ↔ Q spot w) :
    Kept m Q where
  hear s h := same.1 (hP.hear s (same.2 h))
  begin h := same.1 (hP.begin (same.2 h))
  answer a h hw := same.1 (hP.answer a (same.2 h) hw)

/-- What is kept can count on what else is. -/
theorem and {Q : Spot → World → Prop} (hP : Kept m P)
    (hear : ∀ {spot w} (s : Signal), Q spot w → Q spot (w.hear s))
    (begin : ∀ {input w}, Q (.between input) w → Q (.at (.beginning input)) w)
    (answer : ∀ {s : Station} {w w'} (a : (s.request m).Answer), P s w → Q s w →
      w.Answers m.connectionId (s.request m) a w' → Q (s.next m a) (w'.note (s.request m) a)) :
    Kept m fun spot w => P spot w ∧ Q spot w where
  hear s h := ⟨hP.hear s h.1, hear s h.2⟩
  begin h := ⟨hP.begin h.1, begin h.2⟩
  answer a h hw := ⟨hP.answer a h.1 hw, answer a h.1 h.2 hw⟩

/-- The course fits at every step, and what else is kept can count on it. -/
theorem withFits {Q : Spot → World → Prop}
    (hear : ∀ {spot w} (s : Signal), Q spot w → Q spot (w.hear s))
    (begin : ∀ {input w}, Q (.between input) w → Q (.at (.beginning input)) w)
    (answer : ∀ {s : Station} {w w'} (a : (s.request m).Answer), s.Fits (course w.past) → Q s w →
      w.Answers m.connectionId (s.request m) a w' → Q (s.next m a) (w'.note (s.request m) a)) :
    Kept m fun spot w => spot.Fits (course w.past) ∧ Q spot w where
  hear s h := ⟨h.1, hear s h.2⟩
  begin h := ⟨h.1, begin h.2⟩
  answer {s w w'} a h hw := by
    refine ⟨?_, answer a h.1 h.2 hw⟩
    show (s.next m a).Fits ((course w'.past).after _)
    rw [hw.past]
    exact s.next_fits a h.1

/-- The same for what is said of the surroundings alone. -/
theorem worldly {Q : World → Prop} (hear : ∀ {w} (s : Signal), Q w → Q (w.hear s))
    (answer : ∀ {s : Station} {r w w'} {a : r.Answer}, s.request m = r → s.Fits (course w.past) →
      Q w → w.Answers m.connectionId r a w' → Q (w'.note r a)) :
    Kept m fun spot w => spot.Fits (course w.past) ∧ Q w :=
  withFits hear id fun _ hf hq hw => answer rfl hf hq hw

theorem reachable_worldly {Q : World → Prop}
    (hP : Kept m fun spot w => spot.Fits (course w.past) ∧ Q w)
    (first : ∀ rows, Q (Moment.first m rows).world) (h : a.Reachable m) :
    a.Has m fun spot w => spot.Fits (course w.past) ∧ Q w := by
  refine hP.reachable (fun rows => ⟨?_, first rows⟩) h
  exact ⟨⟨rfl, rfl, rfl⟩, rfl, rfl, rfl, rfl⟩

end Kept

end ConnectorSync.Sync
