import ConnectorSync.Proofs.Sync.Explanations

/-!
# Explained failures

A job that a run makes failed or cancelled has an attempt with a reason why, unless a new start
could not record one, an execution of the job failed for no reason, or the job was left open from
before with nothing running.
-/

namespace ConnectorSync.Sync

/-! ### What has happened -/

/-- The job that an event tells to have failed or to be cancelled. -/
def Event.defeats : Event → Option JobId
  | .told (.call (.failJob job _)) (.ok _) => some job
  | .told (.call (.jobCancelled job ..)) (.ok _) => some job
  | _ => none

/-- The jobs that were made failed or cancelled. -/
def defeated (past : List Event) : List JobId := past.filterMap Event.defeats

/-- The job of which a new start could not fail the attempt. -/
def Event.omits (past : List Event) : Event → Option JobId
  | .told (.call (.failAttempt job ..)) (.error _) =>
    if (course past).report = some .abandoned then some job else none
  | _ => none

/-- The jobs of generations given up of which no failure could be recorded. -/
def omitted : List Event → List JobId
  | [] => []
  | e :: past => (e.omits past).toList ++ omitted past

/-- The job of which an execution failed without giving a reason. -/
def Event.hushes : Event → Option JobId
  | .told (.execute context) (.ok (.failed [] _)) => some context.jobId
  | _ => none

def hushed (past : List Event) : List JobId := past.filterMap Event.hushes

/-- Why a job may be over without a reason, in a run that began with some jobs. -/
inductive Excuse (start : JobStore) (past : List Event) (k : JobId) : Prop
  | omitted (mem : k ∈ omitted past)
  | hushed (mem : k ∈ hushed past)
  | leftover (row : Job) (found : start.find? k = some row) (idle : row.runningAttempts = [])
    (unexplained : ¬ row.IsExplained)

theorem mem_hushed_cons {past : List Event} {k : JobId} (e : Event) (mem : k ∈ hushed past) :
    k ∈ hushed (e :: past) := by
  obtain ⟨e', mem, told⟩ := List.mem_filterMap.1 mem
  exact List.mem_filterMap.2 ⟨e', List.mem_cons_of_mem e mem, told⟩

theorem mem_omitted_cons {past : List Event} {k : JobId} (e : Event) (mem : k ∈ omitted past) :
    k ∈ omitted (e :: past) :=
  List.mem_append_right _ mem

theorem Excuse.cons {start : JobStore} {past : List Event} {k : JobId} (e : Event)
    (h : Excuse start past k) : Excuse start (e :: past) k := by
  cases h with
  | omitted mem => exact .omitted (mem_omitted_cons e mem)
  | hushed mem => exact .hushed (mem_hushed_cons e mem)
  | leftover row found idle unexplained => exact .leftover row found idle unexplained

def World.Clears (start : JobStore) (w : World) (k : JobId) : Prop :=
  w.jobs.Explains k ∨ Excuse start w.past k

/-! ### Stations -/

def Task.Settles (clear : JobId → Prop) (silent : List JobId) (s : JobStore) : Task → Prop
  | untilNextRun input _ => ∀ k, input.jobId = some k → clear k
  | failStaleJob _ job _ | failJob _ job _ => clear job
  | cancelJob _ job summary _ => summary.failures ≠ [] ∧ (s.Runs job [] → clear job)
  | failAttempt _ _ job _ summary => summary.failures = [] → job ∈ silent
  | _ => True

def Station.Settles (c : Course) (clear : JobId → Prop) (silent : List JobId) (s : JobStore) :
    Station → Prop
  | calling task _ _ | pausing task _ _ => task.Settles clear silent s
  | beginning input | hydrating input | waiting input _ | endingWait input =>
    ∀ k, input.jobId = some k → clear k
  | releasing _ _ context (.ok (.failed failures _)) => failures = [] → context.jobId ∈ silent
  | checkingProgress _ _ job failures _ => failures = [] → job ∈ silent
  | timingCancel _ job .. => s.Runs job [] → clear job
  | persistingFailure _ _ job _ | askingMost _ job _ | recordingFailure _ job .. => clear job
  | recovering input _ => c.job = input.jobId
  | timingRecovery _ job _ | failingAttempt _ job .. => c.job = some job
  | failingJob job _ => c.job = some job ∧ clear job
  | ending input => (∀ k, input.jobId = some k → clear k) ∧
    (c.report = some .abandoned → ∀ k, c.job = some k → clear k)
  | _ => True

def Spot.Settles (c : Course) (clear : JobId → Prop) (silent : List JobId) (s : JobStore) :
    Spot → Prop
  | .between input => ∀ k, input.jobId = some k → clear k
  | .at station => station.Settles c clear silent s
  | .stopped => True

namespace Station

variable {m : Manager} {c : Course} {clear : JobId → Prop} {silent : List JobId} {s : JobStore}
  {input : RunInput} {budget : Option RetryBudget} {context : AttemptContext}
  {job : JobId}

theorem settles_of_none (none : input.jobId = none) : ∀ k, input.jobId = some k → clear k := by
  intro k hasJob
  cases none.symm.trans hasJob

theorem cleaning_settles (none : input.jobId = none) (jobs : List JobId) :
    (cleaning m input jobs).Settles c clear silent s := by
  cases jobs with
  | nil => exact settles_of_none none
  | cons job jobs => exact trivial

theorem failingStale_settles {jobs : List JobId} {attempts : List Nat}
    (h : attempts = [] → clear job) :
    (failingStale m input job jobs attempts).Settles c clear silent s := by
  cases attempts with
  | nil => exact h rfl
  | cons attempt attempts => exact trivial

theorem ending_settles (h : ∀ k, input.jobId = some k → clear k)
    (calm : c.report ≠ some .abandoned) : (Spot.at (ending input)).Settles c clear silent s :=
  ⟨h, fun abandoned => absurd abandoned calm⟩

theorem leaving_settles (last : Bool) (h : ∀ k, input.jobId = some k → clear k)
    (calm : c.report ≠ some .abandoned) : (leaving last input).Settles c clear silent s := by
  cases last with
  | false => exact ending_settles h calm
  | true => exact trivial

theorem cancelling_settles {failures : List FailureReason} {partialSuccess : Option Bool}
    {last : Bool} (h : ∀ k, input.jobId = some k → s.Runs k [] → clear k)
    (calm : c.report ≠ some .abandoned) :
    (cancelling input failures partialSuccess last).Settles c clear silent s := by
  unfold cancelling
  split
  · next none => exact leaving_settles last (settles_of_none none) calm
  · next job hasJob => exact h job hasJob

theorem checkingSides_settles (sides : List Side) :
    (checkingSides input budget context sides).Settles c clear silent s := by
  cases sides <;> exact trivial

theorem opening_settles (isReset : Bool) :
    (opening m input budget isReset).Settles c clear silent s := by
  unfold opening
  split <;> exact trivial

theorem succeeding_settles : (succeeding context budget).Settles c clear silent s := by
  cases budget <;> exact trivial

theorem limiting_settles {summary : FailureSummary} (h : clear job) :
    (limiting input job summary budget).Settles c clear silent s := by
  cases budget <;> exact h

theorem reporting_settles {flags : Flags} {outcome : AttemptOutcome}
    (hasJob : input.jobId = some context.jobId) (runs : ¬ s.Runs context.jobId [])
    (calm : c.report ≠ some .abandoned)
    (h : (releasing input budget context (.ok outcome)).Settles c clear silent s) :
    (reporting m input budget context flags outcome).Settles c clear silent s := by
  have cancelled : ∀ k, input.jobId = some k → s.Runs k [] → clear k := by
    intro k same idle
    cases hasJob.symm.trans same
    exact absurd idle runs
  cases outcome with
  | succeeded output => exact trivial
  | cancelled => exact cancelling_settles cancelled calm
  | failed failures partialSuccess =>
    unfold reporting
    dsimp only
    split
    · exact cancelling_settles cancelled calm
    · unfold failing
      rw [hasJob]
      exact h

end Station

theorem Task.Settles.mono {clear clear' : JobId → Prop} {silent silent' : List JobId}
    {s : JobStore} {task : Task} (h : task.Settles clear silent s)
    (keep : ∀ k, clear k → clear' k) (still : ∀ k ∈ silent, k ∈ silent') :
    task.Settles clear' silent' s := by
  cases task with
  | untilNextRun input budget => exact fun k hasJob => keep k (h k hasJob)
  | failStaleJob input job jobs => exact keep job h
  | failJob input job reason => exact keep job h
  | cancelJob input job summary last => exact ⟨h.1, fun idle => keep job (h.2 idle)⟩
  | failAttempt input budget job madeProgress summary => exact fun blank => still job (h blank)
  | _ => exact trivial

/-! ### The job of the generation -/

namespace Course

variable {c : Course} {k : JobId} {r : Request} {a : r.Answer}

/-- A generation keeps its job to its end. -/
theorem job_after (hasJob : c.job = some k)
    (old : ∀ isReset, r ≠ .call (.createJob isReset)) :
    (c.after (.told r a)).job = some k ∨ r = .enter .endGeneration ∧ c.leavesOpen ≠ some k := by
  unfold after
  split
  · exact .inl hasJob
  · next same =>
    cases same
    exact absurd rfl (old _)
  · exact .inl hasJob
  · exact .inl hasJob
  · exact .inl hasJob
  · split <;> exact .inl hasJob
  · exact .inl hasJob
  · exact .inl hasJob
  · split <;> exact .inl hasJob
  · exact .inl hasJob
  · next same =>
    cases same
    split
    · exact .inl hasJob
    · by_cases open' : c.leavesOpen = some k
      · exact .inl open'
      · exact .inr ⟨rfl, open'⟩
  · exact .inl hasJob

end Course

/-! ### Answers -/

/-- For every job that is over or may yet be failed there is a reason or an excuse, in a run that
began with some jobs. -/
structure World.Accountable (start : JobStore) (spot : Spot) (w : World) : Prop where
  settles : spot.Settles (course w.past) (w.Clears start) (hushed w.past) w.jobs
  cleared : ∀ k ∈ defeated w.past, w.Clears start k
  /-- An open job that is not the generation's is cleared if nothing of it is running. -/
  others : ∀ k row, w.jobs.find? k = some row → row.status.isTerminal = false →
    (course w.past).job = some k ∨ (row.runningAttempts = [] → w.Clears start k)

section Answers

variable {m : Manager} {start : JobStore} {station : Station} {w w' : World} {k : JobId}

theorem clears_note {r : Request} {a : r.Answer} (hr : station.request m = r)
    (h : w.Explained m.connectionId start station)
    (answers : w.Answers m.connectionId r a w') (clears : w.Clears start k) :
    (w'.note r a).Clears start k := by
  obtain explains | excuse := clears
  · exact .inl ((explains_answer hr h.surveys h.unsaid answers k).2 (.inr explains))
  · right
    rw [answers.past_note]
    exact excuse.cons _

/-- A failure that is recorded with a reason explains its job. -/
theorem explains_failAttempt {job : JobId} {n : Nat} {status : AttemptStatus}
    {summary : FailureSummary} {reply : Unit} {s t : JobStore} (reasons : summary.failures ≠ [])
    (effect : (Call.failAttempt job n status summary).Effect m.connectionId s reply t) :
    t.Explains job := by
  obtain ⟨row, found, written⟩ := (effect.revises rfl).found
  exact ⟨_, written, explained_setAttempt reasons (effect.mem_numbers found)⟩

namespace Station

theorem carried_settles {jobs : JobStore} {clear : JobId → Prop} {silent : List JobId}
    {left failed : Nat} (task : Task) (reply : task.call.Reply)
    (h : w.Explained m.connectionId start (calling task left failed))
    (accountable : w.Accountable start (calling task left failed))
    (effect : task.call.Effect m.connectionId w.jobs reply jobs)
    (keep : ∀ k, w.Clears start k → clear k) (explained : ∀ k, jobs.Explains k → clear k) :
    (carried m task reply).Settles
      ((course w.past).after (.told (.call task.call) (.ok reply))) clear silent jobs := by
  have fits : task.Fits (course w.past) := h.surveys.fits
  have settles : task.Settles (w.Clears start) (hushed w.past) w.jobs := accountable.settles
  cases task with
  | listStale input => exact cleaning_settles fits.2 _
  | getStale input job jobs =>
    obtain ⟨got, rfl⟩ := effect
    obtain ⟨row, found, -, isOpen⟩ := h.surveys.lists.listed.isOpen job List.mem_cons_self
    cases found.symm.trans (JobStore.found_of_get got)
    obtain hasJob | idle := accountable.others job _ found isOpen
    · -- A generation that looks for jobs left open has none.
      cases (fits.1.openJob.trans fits.2).symm.trans hasJob
    · exact failingStale_settles fun none => keep job (idle none)
  | failStaleAttempt input job attempt attempts jobs now =>
    refine failingStale_settles fun _ => explained job (explains_failAttempt ?_ effect)
    exact mt FailureSummary.failures_ofReasons.1 (List.cons_ne_nil _ _)
  | failStaleJob input job jobs => exact cleaning_settles fits.2 _
  | untilNextRun input budget => exact fun k hasJob => keep k (settles k hasJob)
  | lastFailure input budget context => exact checkingSides_settles _
  | succeed input budget context output => exact succeeding_settles
  | failAttempt input budget job madeProgress summary =>
    refine limiting_settles ?_
    by_cases blank : summary.failures = []
    · exact keep job (.inr (.hushed (settles blank)))
    · exact explained job (explains_failAttempt blank effect)
  | autoDisable input =>
    refine ending_settles (settles_of_none rfl) ?_
    rw [show (course w.past).after _ = course w.past from rfl, fits.report]
    nofun
  | _ => exact trivial

/-- A generation that is given up with an input has the job of that. -/
theorem givenUp_settles {c : Course} {clear : JobId → Prop} {silent : List JobId}
    {s t : JobStore} (task : Task) (error : ActivityError) (fits : task.Fits c)
    (knows : task.Knows c t) : (givenUp task error).Settles c clear silent s := by
  cases task with
  | lastFailure => exact trivial
  | listStale | getStale | failStaleAttempt | failStaleJob | createJob | createAttempt =>
    exact fits.1.openJob
  | untilNextRun | startJob | succeed | cancelJob | failAttempt => exact fits.openJob
  | failJob input job reason => exact fits.2.trans (Eq.symm knows)
  | autoDisable input => exact knows

/-- Whatever is answered at a station, what is to be cleared at the next one is cleared then. -/
def KeepsSettled (m : Manager) (start : JobStore) (w : World) (s : Station) : Prop :=
  ∀ (a : (s.request m).Answer) (w' : World), w.Answers m.connectionId (s.request m) a w' →
    (s.next m a).Settles ((course w.past).after (.told (s.request m) a))
      ((w'.note (s.request m) a).Clears start) (hushed (.told (s.request m) a :: w.past)) w'.jobs

theorem calling_keepsSettled {task : Task} {left failed : Nat}
    (h : w.Explained m.connectionId start (calling task left failed))
    (accountable : w.Accountable start (calling task left failed)) :
    (calling task left failed).KeepsSettled m start w := by
  intro a w' answers
  have keep (k : JobId) (clears : w.Clears start k) := clears_note rfl h answers clears
  have effect := answers.effect
  cases a with
  | ok reply =>
    exact carried_settles task reply h accountable effect keep fun k explains => .inl explains
  | error error =>
    have same : w'.jobs = w.jobs := effect
    cases left with
    | zero =>
      show Spot.Settles ((course w.past).after (.told (.call task.call) (.error error))) _ _ _ _
      rw [Course.after_failed]
      exact givenUp_settles task error h.surveys.fits h.surveys.knows
    | succ left =>
      rw [same]
      exact accountable.settles.mono keep fun _ mem => mem_hushed_cons _ mem

theorem endingWait_keepsSettled (h : w.Explained m.connectionId start (endingWait input))
    (accountable : w.Accountable start (endingWait input)) :
    (endingWait input).KeepsSettled m start w := by
  rintro ⟨before, control⟩ w' answers
  have fits : (endingWait input).Fits (course w.past) := h.surveys.fits
  have clear (k : JobId) (hasJob : input.jobId = some k) :=
    clears_note rfl h answers (accountable.settles k hasJob)
  have calm : ((course w.past).after (.told (.enter .endWait) (before, control))).report ≠
      some .abandoned := Course.report_after rfl (by simp [fits.report])
  simp only [next]
  split
  · exact cancelling_settles (fun k hasJob _ => clear k hasJob) calm
  split
  · exact ending_settles clear calm
  split
  · exact cancelling_settles (fun k hasJob _ => clear k hasJob) calm
  · exact trivial

/-! #### The attempt -/

theorem checking_keepsSettled (side : Side) (sides : List Side) :
    (checking input budget context side sides).KeepsSettled m start w := by
  rintro (error | (_ | reason | _)) w' -
  · exact trivial
  · exact checkingSides_settles sides
  · exact fun blank => absurd blank (List.cons_ne_nil _ _)
  · exact trivial

theorem executing_keepsSettled : (executing input budget context).KeepsSettled m start w := by
  rintro (error | (output | ⟨failures, partialSuccess⟩ | _)) w' -
  · exact trivial
  · exact trivial
  · rintro rfl
    exact List.mem_cons_self
  · exact trivial

theorem releasing_keepsSettled {outcome : Except ActivityFailure AttemptOutcome}
    (h : w.Explained m.connectionId start (releasing input budget context outcome))
    (accountable : w.Accountable start (releasing input budget context outcome)) :
    (releasing input budget context outcome).KeepsSettled m start w := by
  intro a w' answers
  have same : w'.jobs = w.jobs := answers.effect
  have fits : (course w.past).Attempts input context := h.surveys.fits
  have going : (course w.past).report ≠ some .abandoned := by simp [fits.report]
  cases outcome with
  | error failure => exact fits.openJob
  | ok outcome =>
    refine reporting_settles fits.jobId ?_ (Course.report_after rfl going) ?_
    · -- The attempt is still running, so its cancellation has a reason of its own.
      rw [same]
      intro idle
      obtain ⟨row, found, flies⟩ := (h.surveys.steady going).aloft.aloft _ rfl
      cases flies.running.symm.trans (idle row found)
    · cases outcome with
      | failed failures partialSuccess =>
        exact fun blank => mem_hushed_cons _ (accountable.settles blank)
      | _ => exact trivial

/-! #### What is recorded of it -/

theorem recordingFailure_keepsSettled {summary : FailureSummary} {withinLimits : Bool}
    (h : w.Explained m.connectionId start (recordingFailure input job summary withinLimits))
    (accountable : w.Accountable start (recordingFailure input job summary withinLimits)) :
    (recordingFailure input job summary withinLimits).KeepsSettled m start w := by
  intro a w' answers
  have fits : (recordingFailure input job summary withinLimits).Fits (course w.past) :=
    h.surveys.fits
  have clear := clears_note rfl h answers accountable.settles
  simp only [next]
  split
  · refine ending_settles (fun k hasJob => ?_) (Course.report_after rfl ?_)
    · cases fits.jobId.symm.trans hasJob
      exact clear
    · simp [fits.report]
  · exact clear

/-! #### Recovery -/

theorem recovering_keepsSettled {failure : ActivityFailure}
    (own : (course w.past).job = input.jobId) :
    (recovering input failure).KeepsSettled m start w := by
  intro a w' _
  simp only [next]
  split
  · next job hasJob => exact Eq.trans own hasJob
  · next none =>
    refine ⟨settles_of_none rfl, fun _ k hasJob => ?_⟩
    cases none.symm.trans (Eq.trans (Eq.symm own) hasJob)

theorem failingAttempt_keepsSettled {failure : ActivityFailure} {now : Timestamp}
    (h : w.Explained m.connectionId start (failingAttempt input job failure now))
    (own : (course w.past).job = some job) :
    (failingAttempt input job failure now).KeepsSettled m start w := by
  intro a w' answers
  cases a with
  | error error =>
    -- The job is failed all the same.
    refine ⟨own, .inr (.omitted ?_)⟩
    rw [answers.past_note]
    exact List.mem_append_left _ (Option.mem_toList.2 (if_pos h.surveys.fits))
  | ok reply =>
    have effect : (Call.failAttempt job input.attempt .failed _).Effect m.connectionId w.jobs
      reply w'.jobs := answers.effect
    refine ⟨own, .inl (explains_failAttempt ?_ effect)⟩
    exact mt FailureSummary.failures_ofReasons.1 (List.cons_ne_nil _ _)

theorem failingJob_keepsSettled {failure : ActivityFailure}
    (h : w.Explained m.connectionId start (failingJob job failure))
    (accountable : w.Accountable start (failingJob job failure)) :
    (failingJob job failure).KeepsSettled m start w := by
  intro a w' answers
  obtain ⟨own, clears⟩ := accountable.settles
  refine ⟨settles_of_none rfl, fun _ k hasJob => ?_⟩
  obtain after | ⟨same, -⟩ := Course.job_after (a := a) own fun _ same => by cases same
  · cases after.symm.trans hasJob
    exact clears_note rfl h answers clears
  · cases same

theorem keepsSettled (station : Station) (h : w.Explained m.connectionId start station)
    (accountable : w.Accountable start station) : station.KeepsSettled m start w := by
  intro a w' answers
  have keep (k : JobId) (clears : w.Clears start k) :
      (w'.note (station.request m) a).Clears start k :=
    clears_note rfl h answers clears
  have fits := h.surveys.fits
  have settles := accountable.settles
  have effect := answers.effect
  cases station with
  | calling task left failed => exact calling_keepsSettled h accountable a w' answers
  | endingWait input => exact endingWait_keepsSettled h accountable a w' answers
  | checking input budget context side sides => exact checking_keepsSettled side sides a w' answers
  | executing input budget context => exact executing_keepsSettled a w' answers
  | releasing input budget context outcome =>
    exact releasing_keepsSettled h accountable a w' answers
  | recordingFailure => exact recordingFailure_keepsSettled h accountable a w' answers
  | recovering input failure => exact recovering_keepsSettled settles a w' answers
  | failingAttempt => exact failingAttempt_keepsSettled h settles a w' answers
  | failingJob job failure => exact failingJob_keepsSettled h accountable a w' answers
  | hydrating | waiting => exact fun k hasJob => keep k (settles k hasJob)
  | persistingFailure | askingMost => exact keep _ settles
  | timingRecovery input job failure => exact settles
  | hydratingAttempt input isReset => exact opening_settles _
  | timingError => exact fun blank => absurd blank (List.cons_ne_nil _ _)
  | checkingProgress input budget job failures partialSuccess =>
    exact fun blank => mem_hushed_cons _ (settles (FailureSummary.failures_ofReasons.1 blank))
  | pausing task left failed =>
    have same : w'.jobs = w.jobs := effect
    rw [same]
    exact settles.mono keep fun _ mem => mem_hushed_cons _ mem
  | timingCancel input job failures partialSuccess last =>
    have same : w'.jobs = w.jobs := effect
    rw [same]
    exact ⟨FailureSummary.failures_ofCancellation, fun idle => keep job (settles idle)⟩
  | recordingSuccess =>
    refine ending_settles (settles_of_none rfl) (Course.report_after rfl ?_)
    simp [fits.report]
  | lookingBack last =>
    refine leaving_settles last (settles_of_none rfl) (Course.report_after rfl ?_)
    simp [fits.report]
  | beginning input =>
    simp only [next]
    split
    · exact trivial
    · exact fun k hasJob => keep k (settles k hasJob)
  | looking input budget context =>
    obtain ⟨control, _⟩ := a
    simp only [next]
    split <;> exact trivial
  | ending input =>
    obtain ⟨before, control⟩ := a
    simp only [next]
    split
    · exact trivial
    · exact fun k hasJob => keep k (settles.1 k hasJob)
  | _ => exact trivial

end Station

/-- A job is cancelled with a reason or had one, unless nothing of it was running. -/
theorem clears_cancelJob {input : RunInput} {job : JobId} {summary : FailureSummary} {last : Bool}
    {left failed : Nat} {reply : Unit}
    (h : w.Explained m.connectionId start
      (Station.calling (.cancelJob input job summary last) left failed))
    (settles : (Task.cancelJob input job summary last).Settles (w.Clears start) (hushed w.past)
      w.jobs)
    (answers : w.Answers m.connectionId (.call (.jobCancelled job input.attempt summary))
      (.ok reply) w') :
    (w'.note (.call (.jobCancelled job input.attempt summary)) (.ok reply)).Clears start job := by
  obtain ⟨reasons, idle⟩ := settles
  have fits : (course w.past).Reports input job := h.surveys.fits
  have hasJob : (course w.past).atHand = some job :=
    (Course.atHand_of_unreported fits.report).trans (fits.openJob.trans fits.jobId)
  by_cases flying : flight w.past = some (job, input.attempt)
  · refine .inl ((explains_answer rfl h.surveys h.unsaid answers job).2 (.inl ?_))
    exact if_neg (not_or.2 ⟨reasons, not_not.2 flying⟩)
  · refine clears_note rfl h answers (idle fun row found => ?_)
    obtain ⟨flown, own, aloft⟩ := h.surveys.steady (Course.of_atHand hasJob).2
    obtain ⟨row', found', held⟩ := h.surveys.held job hasJob
    cases found.symm.trans found'
    obtain rfl := JobStore.id_of_find? found
    refine List.eq_nil_iff_forall_not_mem.2 fun n runs => ?_
    obtain rfl : n = input.attempt := own n ((aloft.flies found).running ▸ runs)
    exact flying ((held.running _).1 runs)

theorem clears_defeats {r : Request} {a : r.Answer} (hr : station.request m = r)
    (h : w.Explained m.connectionId start station) (accountable : w.Accountable start station)
    (answers : w.Answers m.connectionId r a w') (defeats : (Event.told r a).defeats = some k) :
    (w'.note r a).Clears start k := by
  have settles := accountable.settles
  unfold Event.defeats at defeats
  split at defeats
  · next same =>
    cases same
    cases defeats
    refine clears_note hr h answers ?_
    cases station with
    | calling task left failed =>
      cases task with
      | failStaleJob | failJob =>
        cases hr
        exact settles
      | _ => cases hr
    | failingJob job failure =>
      cases hr
      exact settles.2
    | _ => cases hr
  · next same =>
    cases same
    cases defeats
    cases station with
    | calling task left failed =>
      cases task with
      | cancelJob input job summary last =>
        cases hr
        exact clears_cancelJob h settles answers
      | _ => cases hr
    | _ => cases hr
  · cases defeats

/-- The job of a generation that has ended is handed on, over or that of a generation given up. -/
theorem clears_endGeneration {row : Job} (hr : station.request m = .enter .endGeneration)
    (h : w.Explained m.connectionId start station)
    (accountable : w.Accountable start station)
    (hasJob : (course w.past).job = some k) (left : (course w.past).leavesOpen ≠ some k)
    (found : w.jobs.find? k = some row) (isOpen : row.status.isTerminal = false) :
    w.Clears start k := by
  by_cases abandoned : (course w.past).report = some .abandoned
  · cases station with
    | ending input => exact accountable.settles.2 abandoned k hasJob
    | _ => cases hr
  · obtain ⟨row', found', same⟩ := h.surveys.sorted.matched k hasJob abandoned
    cases found.symm.trans found'
    rw [isOpen] at same
    exact absurd ((Course.leavesOpen_of_going same.symm abandoned).trans hasJob) left

theorem others_carried {call : Call} {reply : call.Reply} {jobs : JobStore} {row : Job}
    (hr : station.request m = .call call) (h : w.Explained m.connectionId start station)
    (accountable : w.Accountable start station)
    (effect : call.Effect m.connectionId w.jobs reply jobs)
    (keep : w.Clears start k →
      (World.note { w with jobs } (.call call) (.ok reply)).Clears start k)
    (found : jobs.find? k = some row) (isOpen : row.status.isTerminal = false) :
    ((course w.past).after (.told (.call call) (.ok reply))).job = some k ∨
      (row.runningAttempts = [] →
        (World.note { w with jobs } (.call call) (.ok reply)).Clears start k) := by
  have stays (old : ∀ isReset, call ≠ .createJob isReset) (hasJob : (course w.past).job = some k) :
      ((course w.past).after (.told (.call call) (.ok reply))).job = some k := by
    obtain after | ⟨same, -⟩ := Course.job_after (r := .call call) (a := .ok reply) hasJob
      fun isReset same => old isReset (Request.call.inj same)
    · exact after
    · cases same
  by_cases target : call.target = some k
  · have old (isReset : Bool) : call ≠ .createJob isReset := by
      rintro rfl
      cases target
    obtain ⟨row', before, written⟩ := (effect.revises target).found
    cases found.symm.trans written
    obtain ⟨hasJob, -⟩ | ⟨-, ⟨n, status, summary, rfl⟩ | ⟨reason, rfl⟩⟩ :=
      Station.fits_target h.surveys.fits hr target
    · exact .inl (stays old hasJob)
    · cases target
      by_cases blank : summary.failures = []
      · have atHand := Station.atHand_of_failAttempt h.surveys.fits hr blank
        exact .inl (stays old (Course.of_atHand atHand).1)
      · exact .inr fun _ => .inl (explains_failAttempt blank effect)
    · cases isOpen
  by_cases new : ∃ isReset, call = .createJob isReset
  · obtain ⟨isReset, rfl⟩ := new
    obtain ⟨now, rows⟩ := effect.opened
    rw [rows] at found
    split at found
    · next same => exact .inl (congrArg some same)
    · obtain hasJob | idle := accountable.others k row found isOpen
      · cases (Station.fits_createJob h.surveys.fits hr).2.1.symm.trans hasJob
      · exact .inr fun none => keep (idle none)
  · have old (isReset : Bool) : call ≠ .createJob isReset := fun same => new ⟨isReset, same⟩
    have before : w.jobs.find? k = some row := by
      cases about : call.target with
      | none => rwa [effect.same about old] at found
      | some job =>
        have other : k ≠ job := by
          rintro rfl
          exact target about
        rwa [(effect.revises about).others k other] at found
    obtain hasJob | idle := accountable.others k row before isOpen
    · exact .inl (stays old hasJob)
    · exact .inr fun none => keep (idle none)

theorem others_answer {r : Request} {a : r.Answer} {row : Job} (hr : station.request m = r)
    (h : w.Explained m.connectionId start station) (accountable : w.Accountable start station)
    (answers : w.Answers m.connectionId r a w')
    (found : w'.jobs.find? k = some row) (isOpen : row.status.isTerminal = false) :
    ((course w.past).after (.told r a)).job = some k ∨
      (row.runningAttempts = [] → (w'.note r a).Clears start k) := by
  have keep (clears : w.Clears start k) : (w'.note r a).Clears start k :=
    clears_note hr h answers clears
  have unwritten (same : w'.jobs = w.jobs) (old : ∀ isReset, r ≠ .call (.createJob isReset)) :
      ((course w.past).after (.told r a)).job = some k ∨
        (row.runningAttempts = [] → (w'.note r a).Clears start k) := by
    rw [same] at found
    obtain hasJob | idle := accountable.others k row found isOpen
    · obtain after | ⟨rfl, left⟩ := Course.job_after (a := a) hasJob old
      · exact .inl after
      · exact .inr fun _ => keep (clears_endGeneration hr h accountable hasJob left found isOpen)
    · exact .inr fun none => keep (idle none)
  cases answers with
  | carried call reply jobs effect =>
    exact others_carried hr h accountable effect keep found isOpen
  | failed call e =>
    rw [Course.after_failed]
    exact (accountable.others k row found isOpen).imp_right fun idle none => keep (idle none)
  | _ => exact unwritten rfl nofun

theorem accountable_answer (a : (station.request m).Answer)
    (h : w.Explained m.connectionId start station) (accountable : w.Accountable start station)
    (answers : w.Answers m.connectionId (station.request m) a w') :
    (w'.note (station.request m) a).Accountable start (station.next m a) where
  settles := by
    have settles := station.keepsSettled h accountable a w' answers
    rwa [answers.past_note]
  cleared k mem := by
    rw [answers.past_note, defeated, List.filterMap_cons] at mem
    split at mem
    · exact clears_note rfl h answers (accountable.cleared k mem)
    · next job defeats =>
      obtain rfl | mem := List.mem_cons.1 mem
      · exact clears_defeats rfl h accountable answers defeats
      · exact clears_note rfl h answers (accountable.cleared k mem)
  others k row found isOpen := by
    have after := others_answer rfl h accountable answers found isOpen
    rwa [answers.past_note]

end Answers

/-! ### Runs -/

theorem World.clears_hear {start : JobStore} {w : World} (signal : Signal) :
    (w.hear signal).Clears start = w.Clears start := by
  funext k
  refine propext (or_congr_right ⟨fun excuse => ?_, fun excuse => excuse.cons _⟩)
  cases excuse with
  | omitted mem => exact .omitted mem
  | hushed mem => exact .hushed mem
  | leftover row found idle unexplained => exact .leftover row found idle unexplained

theorem World.Accountable.hear {start : JobStore} {spot : Spot} {w : World} (signal : Signal)
    (h : w.Accountable start spot) : (w.hear signal).Accountable start spot := by
  constructor
  · rw [World.clears_hear]
    exact h.settles
  · rw [World.clears_hear]
    exact h.cleared
  · rw [World.clears_hear]
    exact h.others

/-- No step fails a job that is not cleared. -/
theorem kept_accountable (m : Manager) (start : JobStore) : Kept m fun spot w =>
    w.Explained m.connectionId start spot ∧ w.Accountable start spot :=
  (kept_explained m start).and (fun signal h => h.hear signal)
    (fun h => ⟨h.settles, h.cleared, h.others⟩)
    fun a explained h answers => accountable_answer a explained h answers

theorem accountable_first (m : Manager) (rows : List Job) :
    (Moment.first m rows).world.Accountable (Moment.first m rows).world.jobs
      (.between (.fresh m.connectionId)) where
  settles := nofun
  cleared := nofun
  others k row found _ := by
    refine .inr fun idle => ?_
    by_cases explained : row.IsExplained
    · exact .inl ⟨row, found, explained⟩
    · exact .inr (.leftover row found idle explained)

variable {m : Manager} {a : Moment} {rows : List Job}

/-- In a run, whatever fails in it, a job is explained just if a reason was recorded of it or it was
explained from the start. A job that the run makes failed or cancelled is explained, unless a new
start could not fail its attempt, an execution of it failed without giving a reason, or it was there
from the start, unexplained and with nothing running. -/
theorem failures_explained (steps : Moment.Steps m (.first m rows) a)
    (distinct : ∀ row ∈ rows, row.connectionId = m.connectionId → row.numbers.Nodup) :
    (∀ k, a.world.jobs.Explains k ↔
      k ∈ accounted a.world.past ∨ (Moment.first m rows).world.jobs.Explains k) ∧
    ∀ k ∈ defeated a.world.past, a.world.jobs.Explains k ∨
      Excuse (Moment.first m rows).world.jobs a.world.past k := by
  obtain ⟨spot, -, explained, accountable⟩ := (kept_accountable m _).steps steps
    ⟨_, .between _, explained_first m distinct, accountable_first m rows⟩
  exact ⟨explained.accounted, accountable.cleared⟩

theorem failures_explained_of_unrecorded :
    (∀ row ∈ [Job.leftover], row.connectionId = Manager.hasty.connectionId → row.numbers.Nodup) ∧
      defeated Moment.unrecorded.world.past = [8, 7] ∧
      ∀ k ∈ defeated Moment.unrecorded.world.past, Moment.unrecorded.world.jobs.Explains k := by
  have distinct : ∀ row ∈ [Job.leftover],
      row.connectionId = Manager.hasty.connectionId → row.numbers.Nodup := by decide
  have failed : defeated Moment.unrecorded.world.past = [8, 7] := by decide +kernel
  have recorded : accounted Moment.unrecorded.world.past = [8, 7] := by decide +kernel
  refine ⟨distinct, failed, fun k mem => ?_⟩
  rw [failed, ← recorded] at mem
  exact ((failures_explained unrecorded_steps distinct).1 k).2 (.inl mem)

/-- The first attempt of a job could not be created, so a new start has failed the job. -/
def Moment.unattempted : Moment :=
  .serve .hasty .cancelled 5 (replay .hasty [.serve .cancelled 9]).refuse

/-- A job has failed that was never attempted, so no attempt says why. -/
theorem job_failed_unexplained : ∃ (m : Manager) (a : Moment) (k : JobId) (row : Job),
    Moment.Steps m (.first m []) a ∧ k ∈ defeated a.world.past ∧
      a.world.jobs.find? k = some row ∧ row.connectionId = m.connectionId ∧
      row.status = .failed ∧ ¬ row.IsExplained := by
  have steps : Moment.Steps .hasty (.first .hasty []) .unattempted :=
    (Moment.steps_replay .hasty [_] _).trans
      ((Moment.steps_refuse .hasty _).trans (Moment.steps_serve .hasty _ _ _))
  have found : (Moment.unattempted.world.jobs.find? 1).map
      (fun row => (row.connectionId, row.status, row.attempts)) =
        some (Uuid.zero, .failed, []) := by
    decide +kernel
  obtain ⟨row, there, same⟩ := Option.map_eq_some_iff.1 found
  simp only [Prod.mk.injEq] at same
  obtain ⟨own, failed, unattempted⟩ := same
  refine ⟨.hasty, .unattempted, 1, row, steps, by decide +kernel, there, own, failed, ?_⟩
  rintro ⟨x, mem, -⟩
  rw [unattempted] at mem
  cases mem

end ConnectorSync.Sync
