import ConnectorSync.Proofs.Sync.Asked
import ConnectorSync.Proofs.Sync.Failure
import ConnectorSync.Proofs.Sync.Reports

/-!
# Interruptions

An attempt that is asked to end, from the end of the wait for it on until it is released, succeeds
all the same or is reported cancelled, whether its execution was skipped, was cut short in a check
or in the sync, or failed. So it is in runs that go on with any input, too.
-/

namespace ConnectorSync.Sync

/-! ### What is read off the past -/

/-- The attempt that was created since the wait was over last, with its job. -/
def latest : List Event → Option (JobId × Nat)
  | [] => none
  | .told (.enter .endWait) _ :: _ => none
  | .told (.call (.createAttempt job)) (.ok attempt) :: _ => some (job, attempt)
  | _ :: past => latest past

/-- What is known of how an attempt ended. -/
inductive Verdict
  | silent
  | broke (context : AttemptContext) (error : ActivityError)
  | ended (outcome : AttemptOutcome)

namespace Verdict

/-- An error is reported with the time at which it is noticed. -/
def after (v : Verdict) : Event → Verdict
  | .told (.enter .endWait) _ => silent
  | .told (.check ..) (.ok (.failed reason)) => ended (.failed [reason] false)
  | .told (.check ..) (.ok .cancelled) => ended .cancelled
  | .told (.check context _) (.error error) => broke context error
  | .told (.execute _) (.ok outcome) => ended outcome
  | .told (.execute context) (.error error) => broke context error
  | .told .time (now : Timestamp) =>
    match v with
    | broke context error => ended (.failed
        [.platform error.message (some context.jobId) (some context.attempt) now] false)
    | v => v
  | _ => v

def isSettled : Verdict → Bool
  | broke .. => false
  | silent | ended _ => true

theorem after_time {v : Verdict} (settled : v.isSettled) (now : Timestamp) :
    v.after (.told .time now) = v := by
  cases v with
  | broke => cases settled
  | silent | ended => rfl

/-- An attempt that was not executed is cancelled. -/
def outcome : Verdict → AttemptOutcome
  | ended outcome => outcome
  | silent | broke .. => .cancelled

end Verdict

def verdict : List Event → Verdict
  | [] => .silent
  | e :: past => (verdict past).after e

/-- How the execution of the latest attempt ended. -/
def outcome (past : List Event) : AttemptOutcome := (verdict past).outcome

def AttemptOutcome.failures : AttemptOutcome → List FailureReason
  | failed failures _ => failures
  | succeeded _ | cancelled => []

def AttemptOutcome.partialSuccess : AttemptOutcome → Option Bool
  | failed _ partialSuccess => some partialSuccess
  | succeeded _ | cancelled => none

/-! ### The job left open -/

structure World.Pursues (c : Course) (w : World) : Prop where
  numbered : w.jobs.Numbered
  bounded : ∀ {k} {e : Event}, e ∈ w.past → e.reports k → k ≤ w.jobs.lastId
  pursued : ∀ k, c.leavesOpen = some k → ∀ e ∈ w.past, e.reports k = false

section Pursued

variable {m : Manager} {station : Station} {c : Course} {w w' : World} {k : JobId}

theorem not_reports_of_leavesOpen {call : Call} {reply : call.Reply} (fits : station.Fits c)
    (hr : station.request m = .call call)
    (left : (c.after (.told (.call call) (.ok reply))).leavesOpen = some k) :
    (Event.told (.call call) (.ok reply)).reports k = false := by
  by_contra reports
  obtain ⟨closes, target⟩ := Bool.and_eq_true_iff.1 (Bool.not_eq_false _ ▸ reports)
  have target := of_decide_eq_true target
  cases call with
  | jobSuccess | jobCancelled => cases left
  | failJob job reason =>
    cases target
    obtain ⟨hasJob, -⟩ := Course.of_leavesOpen left
    obtain ⟨report, same⟩ := c.after_failJob k reason
    have hasJob : c.job = some k := by
      rw [same] at hasJob
      exact hasJob
    have kept : c.report = some .kept ∨ c.report = some .abandoned := by
      rcases Station.fits_failJob fits hr with abandoned | free | kept
      · exact .inr abandoned
      · cases free.symm.trans hasJob
      · exact .inl kept
    rcases kept with reported | reported <;>
      simp [Course.after, Course.leavesOpen, reported] at left
  | _ => cases closes

theorem leavesOpen_told {r : Request} {a : r.Answer} (hr : station.request m = r)
    (fits : station.Fits c) (left : (c.after (.told r a)).leavesOpen = some k) :
    c.leavesOpen = some k ∨
      ∃ isReset, Event.told r a = .told (.call (.createJob isReset)) (.ok k) :=
  Course.leavesOpen_after left fun _ same => by
    cases same
    exact Station.fits_recordFailure fits hr

theorem World.Pursues.cons {e : Event} (h : w.Pursues c) (past : w'.past = e :: w.past)
    (jobs : w'.jobs = w.jobs) (silent : ∀ k, e.reports k = false)
    (left : ∀ k, (c.after e).leavesOpen = some k → c.leavesOpen = some k) :
    w'.Pursues (c.after e) := by
  refine ⟨by rw [jobs]; exact h.numbered, fun {k e'} mem reports => ?_, fun k leaves => ?_⟩
  · rw [past] at mem
    rw [jobs]
    rcases List.mem_cons.1 mem with rfl | mem
    · rw [silent k] at reports
      cases reports
    · exact h.bounded mem reports
  · rw [past]
    exact List.forall_mem_cons.2 ⟨silent k, h.pursued k (left k leaves)⟩

theorem World.Pursues.hear (h : w.Pursues c) (s : Signal) : (w.hear s).Pursues c :=
  h.cons (e := .heard s w.control) rfl rfl (fun _ => rfl) fun _ left => left

theorem pursues_carried {call : Call} {reply : call.Reply} {jobs : JobStore} (fits : station.Fits c)
    (hr : station.request m = .call call) (h : w.Pursues c)
    (effect : call.Effect m.connectionId w.jobs reply jobs) :
    ({ w with jobs }.note (.call call) (.ok reply)).Pursues
      (c.after (.told (.call call) (.ok reply))) := by
  refine ⟨effect.numbered h.numbered, fun {k e} mem reports => ?_, fun k left => ?_⟩
  · refine Int.le_trans ?_ effect.lastId_le
    rcases List.mem_cons.1 mem with rfl | mem
    · obtain ⟨-, target⟩ := Bool.and_eq_true_iff.1 reports
      obtain ⟨row, found, -⟩ := (effect.revises (of_decide_eq_true target)).found
      exact h.numbered k row found
    · exact h.bounded mem reports
  · have silent := not_reports_of_leavesOpen fits hr left
    refine List.forall_mem_cons.2 ⟨silent, ?_⟩
    rcases leavesOpen_told hr fits left with before | ⟨isReset, new⟩
    · exact h.pursued k before
    · -- Nothing can have been reported of a job before its number was taken.
      cases new
      intro e mem
      by_contra reports
      have within := h.bounded mem (Bool.not_eq_false _ ▸ reports)
      rw [effect.created.1] at within
      exact absurd within (Int.not_le.2 (Int.lt_succ _))

theorem pursues_answer {r : Request} {a : r.Answer} (hr : station.request m = r)
    (fits : station.Fits c) (h : w.Pursues c) (answers : w.Answers m.connectionId r a w') :
    (w'.note r a).Pursues (c.after (.told r a)) := by
  cases answers with
  | carried call reply jobs effect => exact pursues_carried fits hr h effect
  | _ =>
    refine h.cons rfl rfl (fun _ => rfl) fun k left => ?_
    exact (leavesOpen_told hr fits left).resolve_right fun ⟨_, same⟩ => by cases same

end Pursued

/-! ### The attempt -/

namespace JobStore

def Carries (past : List Event) (job : JobId) (n : Nat) (s : JobStore) : Prop :=
  latest past = some (job, n) ∧ ∃ row, s.find? job = some row ∧ n ∈ row.runningAttempts

/-- The latest attempt was reported cancelled, with the failures of its execution. -/
def Interrupted (past : List Event) (s : JobStore) : Prop :=
  ∃ job n now row, latest past = some (job, n) ∧
    let summary := FailureSummary.ofCancellation (some job) (some n) (outcome past).failures
      (outcome past).partialSuccess now
    past.filter (·.reports job) = [.told (.call (.jobCancelled job n summary)) (.ok ())] ∧
      s.find? job = some row ∧ row.status = .cancelled ∧
      row.attempts.find? (·.number = n) = some ⟨n, .cancelled, some summary⟩

end JobStore

/-- The attempt was released with flags under which its failure is recorded. -/
def Course.IsSpared (c : Course) : Prop := ∃ f, c.released = some f ∧ f.endsAttempt = false

def Proceeding (past : List Event) (input : RunInput) (context : AttemptContext)
    (s : JobStore) : Prop :=
  s.Carries past context.jobId context.attempt ∧ input.attempt = context.attempt

def Succeeded (past : List Event) : Prop := ∃ output, outcome past = .succeeded output

def Task.Leads (c : Course) (past : List Event) (s : JobStore) : Task → Prop
  | createJob .. | createAttempt .. => verdict past = .silent
  | startJob input _ context | lastFailure input _ context =>
    Proceeding past input context s ∧ verdict past = .silent
  | succeed .. => Succeeded past
  | cancelJob input job summary _ => c.isDue → s.Carries past job input.attempt ∧
    ∃ now, summary = .ofCancellation (some job) (some input.attempt) (outcome past).failures
      (outcome past).partialSuccess now
  | failAttempt .. | failJob .. | autoDisable _ => c.IsSpared
  | _ => True

def Station.Leads (c : Course) (past : List Event) (s : JobStore) : Station → Prop
  | calling task _ _ | pausing task _ _ => task.Leads c past s
  | hydratingAttempt .. => verdict past = .silent
  | registering input _ context | looking input _ context | checking input _ context ..
  | executing input _ context => Proceeding past input context s ∧ verdict past = .silent
  | timingError input _ context error =>
    Proceeding past input context s ∧ verdict past = .broke context error
  | releasing input _ context (.ok result) =>
    Proceeding past input context s ∧ (verdict past).isSettled ∧ outcome past = result
  | persistingSuccess .. | recordingSuccess => Succeeded past
  | timingCancel input job failures partialSuccess _ => c.isDue →
    s.Carries past job input.attempt ∧ (verdict past).isSettled ∧
      failures = (outcome past).failures ∧ partialSuccess = (outcome past).partialSuccess
  | lookingBack _ => c.isDue → s.Interrupted past
  | checkingProgress .. | persistingFailure .. | askingMost .. | recordingFailure .. => c.IsSpared
  | timingRecovery .. | failingAttempt .. | failingJob .. => False
  | ending _ => c.isDue → Succeeded past ∨ s.Interrupted past ∨ c.IsSpared
  | _ => True

def Spot.Leads (c : Course) (past : List Event) (s : JobStore) : Spot → Prop
  | .at station => station.Leads c past s
  | .between _ | .stopped => True

/-- A signal says nothing about the attempt. -/
theorem Spot.leads_heard {c : Course} {signal : Signal} {found : Control} {past : List Event}
    {s : JobStore} (spot : Spot) :
    spot.Leads c (.heard signal found :: past) s = spot.Leads c past s := by
  cases spot with
  | «at» station =>
    cases station with
    | calling task | pausing task => cases task <;> rfl
    | releasing _ _ _ result => cases result <;> rfl
    | _ => rfl
  | between | stopped => rfl

namespace JobStore

variable {s t : JobStore} {past : List Event} {job : JobId} {n : Nat} {row : Job}

theorem find?_setAttempt {status : AttemptStatus} {summary : Option FailureSummary}
    {attempts : List Attempt} (there : n ∈ attempts.map (·.number)) :
    (setAttempt n status summary attempts).find? (·.number = n) = some ⟨n, status, summary⟩ := by
  induction attempts with
  | nil => cases there
  | cons first rest ih =>
    unfold setAttempt
    split
    · next same => simp [same]
    · next different =>
      rw [List.find?_cons_of_neg (by simpa using different)]
      exact ih ((List.mem_cons.1 there).resolve_left (Ne.symm different))

theorem carries_createAttempt {id : Uuid}
    (effect : (Call.createAttempt job).Effect id s n t) :
    t.Carries (.told (.call (.createAttempt job)) (.ok n) :: past) job n := by
  obtain ⟨row, found, written⟩ := (effect.revises rfl).found
  refine ⟨rfl, _, written, ?_⟩
  rw [effect.attempted found, Call.runningAttempts_createAttempt]
  exact List.mem_append_right _ List.mem_cons_self

theorem Carries.reportJobStart {id : Uuid} {reply : Unit} (h : s.Carries past job n)
    (effect : (Call.reportJobStart job).Effect id s reply t) :
    t.Carries (.told (.call (.reportJobStart job)) (.ok reply) :: past) job n := by
  obtain ⟨last, row, found, runs⟩ := h
  obtain ⟨row', before, written⟩ := (effect.revises rfl).found
  rw [found] at before
  cases before
  exact ⟨last, _, written, runs⟩

theorem interrupted_jobCancelled {id : Uuid} {reply : Unit} {now : Timestamp}
    (h : s.Carries past job n) (unreported : ∀ e ∈ past, e.reports job = false)
    {summary : FailureSummary} (same : summary = .ofCancellation (some job) (some n)
      (outcome past).failures (outcome past).partialSuccess now)
    (effect : (Call.jobCancelled job n summary).Effect id s reply t) :
    t.Interrupted (.told (.call (.jobCancelled job n summary)) (.ok reply) :: past) := by
  obtain ⟨last, row, found, runs⟩ := h
  obtain ⟨row', before, written⟩ := (effect.revises rfl).found
  rw [found] at before
  cases before
  obtain ⟨a, mem, number⟩ := List.mem_map.1 runs
  obtain ⟨there, isRunning⟩ := List.mem_filter.1 mem
  have cancelled : (Call.jobCancelled job n summary).revise row = { row with
      attempts := setAttempt n .cancelled (some summary) row.attempts
      status := .cancelled } :=
    if_pos (List.any_eq_true.2 ⟨a, there, by simpa [number] using isRunning⟩)
  rw [cancelled] at written
  subst same
  refine ⟨job, n, now, _, last, ?_, written, rfl,
    find?_setAttempt (List.mem_map.2 ⟨a, there, number⟩)⟩
  have none : past.filter (·.reports job) = [] :=
    List.filter_eq_nil_iff.2 fun e mem => by simp [unreported e mem]
  rw [List.filter_cons_of_pos (by simp [Event.reports, Call.closes, Call.target]), none]
  rfl

end JobStore

namespace Station

variable {m : Manager} {c : Course} {past : List Event} {s t : JobStore} {input : RunInput}
  {budget : Option RetryBudget} {context : AttemptContext}

theorem cleaning_leads (jobs : List JobId) : (cleaning m input jobs).Leads c past s := by
  cases jobs <;> exact trivial

theorem failingStale_leads (job : JobId) (jobs : List JobId) (attempts : List Nat) :
    (failingStale m input job jobs attempts).Leads c past s := by
  cases attempts <;> exact trivial

theorem leaving_leads {last : Bool} (h : (ending input).Leads c past s) :
    (leaving last input).Leads c past s := by
  cases last with
  | false => exact h
  | true => exact trivial

theorem cancelling_leads {last : Bool} {failures : List FailureReason}
    {partialSuccess : Option Bool} (hasJob : c.isDue → input.jobId.isSome)
    (h : ∀ job, input.jobId = some job →
      (timingCancel input job failures partialSuccess last).Leads c past s) :
    (cancelling input failures partialSuccess last).Leads c past s := by
  unfold cancelling
  split
  · next none =>
    refine leaving_leads fun isDue => ?_
    have some := hasJob isDue
    rw [none] at some
    cases some
  · next job some => exact h job some

theorem checkingSides_leads (h : Proceeding past input context s ∧ verdict past = .silent)
    (sides : List Side) : (checkingSides input budget context sides).Leads c past s := by
  cases sides <;> exact h

theorem reporting_leads {flags : Flags} {result : AttemptOutcome}
    (released : c.released = some flags) (hasJob : input.jobId = some context.jobId)
    (h : Proceeding past input context s) (settled : (verdict past).isSettled)
    (ended : outcome past = result) :
    (reporting m input budget context flags result).Leads c past s := by
  have cancelled (last : Bool) :
      (cancelling input result.failures result.partialSuccess last).Leads c past s := by
    refine cancelling_leads (fun _ => Option.isSome_of_mem hasJob) fun job same _ => ?_
    rw [hasJob] at same
    cases same
    rw [← ended, h.2]
    exact ⟨h.1, settled, rfl, rfl⟩
  cases result with
  | succeeded output => exact ⟨output, ended⟩
  | cancelled => exact cancelled false
  | failed failures partialSuccess =>
    unfold reporting
    dsimp only
    split
    · exact cancelled false
    · next spared =>
      unfold failing
      rw [hasJob]
      exact ⟨flags, released, Bool.eq_false_iff.2 spared⟩

theorem carried_leads (task : Task) (reply : task.call.Reply) (fits : task.Fits c)
    (h : task.Leads c past s)
    (pursued : ∀ k, c.leavesOpen = some k → ∀ e ∈ past, e.reports k = false)
    (effect : task.call.Effect m.connectionId s reply t) :
    (carried m task reply).Leads (c.after (.told (.call task.call) (.ok reply)))
      (.told (.call task.call) (.ok reply) :: past) t := by
  cases task with
  | listStale | failStaleJob => exact cleaning_leads _
  | getStale | failStaleAttempt => exact failingStale_leads _ _ _
  | untilNextRun => exact trivial
  | createJob input budget isReset => exact h
  | createAttempt input budget job isReset =>
    exact ⟨⟨JobStore.carries_createAttempt effect, rfl⟩, h⟩
  | startJob input budget context =>
    obtain ⟨⟨carries, attempt⟩, silent⟩ := h
    exact ⟨⟨carries.reportJobStart effect, attempt⟩, silent⟩
  | lastFailure input budget context =>
    obtain ⟨-, rfl⟩ := effect
    show (checkingSides input budget context _).Leads c _ t
    exact checkingSides_leads h _
  | succeed input budget context output => cases budget <;> exact h
  | cancelJob input job summary last =>
    intro isDue
    obtain ⟨carries, now, same⟩ := h isDue
    have left : c.leavesOpen = some job := by
      simp only [Course.leavesOpen, fits.report]
      exact fits.openJob.trans fits.jobId
    exact JobStore.interrupted_jobCancelled carries (pursued job left) same effect
  | failAttempt input budget job madeProgress summary =>
    show (limiting input job summary _).Leads c _ t
    cases budget.map (·.recordFailure madeProgress) <;> exact h
  | failJob input job reason =>
    obtain ⟨report, same⟩ := c.after_failJob job reason
    show Course.IsSpared (c.after (.told (.call (.failJob job reason)) (.ok ())))
    rw [same]
    exact h
  | autoDisable input => exact fun _ => .inr (.inr h)

theorem givenUp_leads (task : Task) (error : ActivityError) :
    (givenUp task error).Leads c past s := by
  cases task <;> exact trivial

theorem endingWait_leads (before control : Control) :
    ((endingWait input).next m (before, control)).Leads
      { c with waitEnd := some control.flags }
      (.told (.enter .endWait) (before, control) :: past) s := by
  have notDue (never : control.flags.permitsAttempt = false) :
      ¬ ({ c with waitEnd := some control.flags } : Course).isDue := by
    show ¬ control.flags.permitsAttempt = true
    rw [never]
    exact nofun
  simp only [next]
  split
  · next deleted =>
    have notDue := notDue (by simp [Flags.permitsAttempt, deleted])
    exact cancelling_leads (fun isDue => absurd isDue notDue) fun _ _ isDue => absurd isDue notDue
  split
  · next updated =>
    exact fun isDue => absurd isDue (notDue (by simp [Flags.permitsAttempt, updated]))
  split
  · next cancelled =>
    have notDue := notDue (by simp [Flags.permitsAttempt, cancelled])
    exact cancelling_leads (fun isDue => absurd isDue notDue) fun _ _ isDue => absurd isDue notDue
  · exact rfl

theorem looking_leads (control control' : Control)
    (h : (looking input budget context).Leads c past s) :
    ((looking input budget context).next m (control, control')).Leads c
      (.told (.enter .look) (control, control') :: past) s := by
  obtain ⟨proceeding, silent⟩ := h
  have settled : (verdict past).isSettled := by
    rw [silent]
    rfl
  have ended : outcome past = .cancelled := by
    unfold outcome
    rw [silent]
    rfl
  simp only [next]
  split
  · exact ⟨proceeding, settled, ended⟩
  · exact ⟨proceeding, silent⟩

theorem timingError_leads {error : ActivityError} (now : Timestamp)
    (h : (timingError input budget context error).Leads c past s) :
    ((timingError input budget context error).next m now).Leads c (.told .time now :: past) s := by
  obtain ⟨proceeding, broke⟩ := h
  refine ⟨proceeding, ?_, ?_⟩
  · show ((verdict past).after (.told .time now)).isSettled
    rw [broke]
    rfl
  · show ((verdict past).after (.told .time now)).outcome = _
    rw [broke]
    rfl

/-- The time of a cancellation is none of an error. -/
theorem timingCancel_leads {job : JobId} {failures : List FailureReason}
    {partialSuccess : Option Bool} {last : Bool} (now : Timestamp)
    (h : (timingCancel input job failures partialSuccess last).Leads c past s) :
    ((timingCancel input job failures partialSuccess last).next m now).Leads c
      (.told .time now :: past) s := by
  intro isDue
  obtain ⟨carries, settled, rfl, rfl⟩ := h isDue
  have same : outcome (.told .time now :: past) = outcome past :=
    congrArg Verdict.outcome (Verdict.after_time settled now)
  refine ⟨carries, now, ?_⟩
  rw [same]

theorem next_leads (station : Station) (a : (station.request m).Answer) (fits : station.Fits c)
    (h : station.Leads c past s)
    (pursued : ∀ k, c.leavesOpen = some k → ∀ e ∈ past, e.reports k = false)
    (effect : (station.request m).Effect m.connectionId a s t)
    (calm : (Event.told (station.request m) a).givesUp = false) :
    (station.next m a).Leads (c.after (.told (station.request m) a))
      (.told (station.request m) a :: past) t := by
  cases station with
  | beginning input =>
    simp only [next]
    split <;> exact trivial
  | calling task left failed =>
    cases a with
    | ok reply => exact carried_leads task reply fits h pursued effect
    | error error =>
      obtain rfl : t = s := effect
      show Spot.Leads (c.after (.told (.call task.call) (.error error))) _ _ _
      rw [Course.after_failed]
      cases left with
      | zero => exact givenUp_leads task error
      | succ left => cases task <;> exact h
  | pausing task left failed =>
    obtain rfl : t = s := effect
    cases task <;> exact h
  | endingWait input => exact endingWait_leads a.1 a.2
  | hydratingAttempt input isReset =>
    simp only [next, opening]
    split <;> exact h
  | registering input budget context =>
    obtain rfl : t = s := effect
    exact h
  | looking input budget context =>
    obtain rfl : t = s := effect
    obtain ⟨control, control'⟩ := a
    obtain ⟨report, same⟩ := c.after_look control control'
    show Spot.Leads (c.after (.told (.enter .look) (control, control'))) _ _ _
    rw [same]
    exact looking_leads control control' h
  | checking input budget context side sides =>
    obtain rfl : t = s := effect
    rcases a with error | (_ | reason | _)
    · exact ⟨h.1, rfl⟩
    · show (checkingSides input budget context sides).Leads c _ t
      exact checkingSides_leads h sides
    · exact ⟨h.1, rfl, rfl⟩
    · exact ⟨h.1, rfl, rfl⟩
  | executing input budget context =>
    obtain rfl : t = s := effect
    cases a with
    | ok result => exact ⟨h.1, rfl, rfl⟩
    | error error => exact ⟨h.1, rfl⟩
  | timingError input budget context error =>
    obtain rfl : t = s := effect
    exact timingError_leads a h
  | releasing input budget context result =>
    obtain rfl : t = s := effect
    cases result with
    | error failure => exact trivial
    | ok result =>
      obtain ⟨proceeding, settled, ended⟩ := h
      exact reporting_leads rfl fits.jobId proceeding settled ended
  | persistingSuccess =>
    show Spot.Leads (c.after (.told (.call (.persist ..)) a)) _ _ _
    cases a <;> exact h
  | recordingSuccess => exact fun _ => .inl h
  | timingCancel input job failures partialSuccess last =>
    obtain rfl : t = s := effect
    exact timingCancel_leads a h
  | lookingBack last =>
    obtain rfl : t = s := effect
    obtain ⟨control, control'⟩ := a
    obtain ⟨report, same⟩ := c.after_look control control'
    show Spot.Leads (c.after (.told (.enter .look) (control, control'))) _ _ _
    rw [same]
    exact leaving_leads fun isDue => .inr (.inl (h isDue))
  | checkingProgress | persistingFailure | askingMost => cases a <;> exact h
  | recordingFailure input job summary withinLimits =>
    simp only [next]
    split
    · exact fun _ => .inr (.inr h)
    · exact h
  -- A new start is told of by its pause, so there is none in a run that is calm.
  | recovering input failure => cases calm
  | timingRecovery | failingAttempt | failingJob => exact h.elim
  | ending input =>
    obtain ⟨before, control⟩ := a
    simp only [next]
    split <;> exact trivial
  | _ => exact trivial

end Station

/-! ### Steps -/

section Steps

variable {m : Manager} {c : Course} {spot : Spot} {w w' : World} {k : JobId} {row : Job}
  {reports : List Event}

structure World.Tracks (id : Uuid) (c : Course) (spot : Spot) (w : World) : Prop where
  fits : spot.Fits c
  pursues : w.Pursues c
  notices : w.Notices c
  lists : w.Lists id spot
  leads : (∀ e ∈ w.past, e.givesUp = false) → spot.Leads c w.past w.jobs

theorem World.Tracks.hear (h : w.Tracks m.connectionId c spot) (s : Signal) :
    (w.hear s).Tracks m.connectionId c spot where
  fits := h.fits
  pursues := h.pursues.hear s
  notices := h.notices.hear s
  lists := ⟨h.lists.ordered, h.lists.listed⟩
  leads quiet := by
    show spot.Leads c (.heard s w.control :: w.past) w.jobs
    rw [Spot.leads_heard]
    exact h.leads fun e mem => quiet e (List.mem_cons_of_mem _ mem)

theorem tracks_answer {station : Station} (a : (station.request m).Answer)
    (h : w.Tracks m.connectionId c station)
    (answers : w.Answers m.connectionId (station.request m) a w') :
    (w'.note (station.request m) a).Tracks m.connectionId (c.after (.told (station.request m) a))
      (station.next m a) where
  fits := station.next_fits a h.fits
  pursues := pursues_answer rfl h.fits h.pursues answers
  notices := notices_answer rfl h.fits h.notices answers
  lists := ⟨answers.effect.ordered h.lists.ordered,
    station.next_listed a h.lists.ordered h.lists.listed answers.effect⟩
  leads quiet := by
    rw [answers.past_note] at quiet ⊢
    exact station.next_leads a h.fits
      (h.leads fun e mem => quiet e (List.mem_cons_of_mem _ mem)) h.pursues.pursued answers.effect
      (quiet _ List.mem_cons_self)

theorem kept_tracks (m : Manager) (c : Course) :
    Kept m fun spot w => w.Tracks m.connectionId (courseFrom c w.past) spot where
  hear s h := h.hear s
  begin h := { h with lists := ⟨h.lists.ordered, h.lists.listed⟩ }
  answer {station w w'} a h answers := by
    rw [answers.past_note]
    exact tracks_answer a h answers

structure World.Rests (c : Course) (k : JobId) (row : Job) (reports : List Event) (w : World) :
    Prop where
  found : w.jobs.find? k = some row
  reported : w.past.filter (·.reports k) = reports
  gone : c.leavesOpen ≠ some k

theorem World.Rests.cons {e : Event} (h : w.Rests c k row reports) (past : w'.past = e :: w.past)
    (jobs : w'.jobs.find? k = w.jobs.find? k) (silent : e.reports k = false)
    (left : (c.after e).leavesOpen = some k → c.leavesOpen = some k) :
    w'.Rests (c.after e) k row reports := by
  refine ⟨jobs.trans h.found, ?_, fun leaves => h.gone (left leaves)⟩
  rw [past, List.filter_cons_of_neg (by simp [silent])]
  exact h.reported

/-- What a manager is about to write is not the row of a job that it has left. -/
theorem target_ne_of_rests {station : Station} {call : Call} (ended : row.status.isTerminal)
    (h : w.Rests c k row reports) (tracks : w.Tracks m.connectionId c station)
    (calm : c.report ≠ some .abandoned) (hr : station.request m = .call call) :
    call.target ≠ some k := by
  intro target
  rcases Station.fits_target tracks.fits hr target with ⟨hasJob, going, -⟩ | ⟨free | abandoned, -⟩
  · exact h.gone ((Course.leavesOpen_of_going going calm).trans hasJob)
  · have listed := Station.target_todo tracks.fits hr target free calm
    obtain ⟨row', found, -, isOpen⟩ := tracks.lists.listed.isOpen k listed
    rw [h.found] at found
    cases found
    rw [ended] at isOpen
    cases isOpen
  · exact calm abandoned

theorem rests_answer {station : Station} {r : Request} {a : r.Answer}
    (hr : station.request m = r) (ended : row.status.isTerminal)
    (h : w.Rests c k row reports) (tracks : w.Tracks m.connectionId c station)
    (calm : c.report ≠ some .abandoned) (answers : w.Answers m.connectionId r a w') :
    (w'.note r a).Rests (c.after (.told r a)) k row reports := by
  cases answers with
  | carried call reply jobs effect =>
    have other := target_ne_of_rests ended h tracks calm hr
    have kept := effect.keeps tracks.pursues.numbered h.found other
    refine h.cons rfl (kept.trans h.found.symm) (by simp [Event.reports, other]) fun left => ?_
    rcases leavesOpen_told hr tracks.fits left with before | ⟨isReset, new⟩
    · exact before
    · -- A new job takes a number that no job has.
      cases new
      have within := tracks.pursues.numbered k row h.found
      rw [effect.created.1] at within
      exact absurd within (Int.not_le.2 (Int.lt_succ _))
  | _ =>
    refine h.cons rfl rfl rfl fun left => ?_
    exact (leavesOpen_told hr tracks.fits left).resolve_right fun ⟨_, same⟩ => by cases same

theorem kept_rests (m : Manager) {c : Course} (begun : c.report ≠ some .abandoned)
    (ended : row.status.isTerminal) : Kept m fun spot w =>
      w.Tracks m.connectionId (courseFrom c w.past) spot ∧
        ((∀ e ∈ w.past, e.givesUp = false) → w.Rests (courseFrom c w.past) k row reports) :=
  (kept_tracks m c).and
    (fun s h quiet => (h fun e mem => quiet e (List.mem_cons_of_mem _ mem)).cons rfl rfl rfl id)
    (fun h => h)
    fun {station _ _} a tracks h answers quiet => by
      rw [answers.past_note] at quiet ⊢
      have before (e : Event) (mem : e ∈ _) := quiet e (List.mem_cons_of_mem _ mem)
      exact rests_answer rfl ended (h before) tracks (report_courseFrom begun before) answers

end Steps

/-! ### Runs -/

/-- A connection's manager that goes on with an input, with jobs that are there already. -/
def Moment.resumed (rows : List Job) (input : RunInput) : Moment where
  rest := .done (some input)
  world := { jobs := rows.foldl JobStore.insert {} }

variable {m : Manager} {a b : Moment} {rows : List Job} {input : RunInput}
  {since before : List Event}

theorem tracks_resumed (m : Manager) (rows : List Job) (input : RunInput) :
    (Moment.resumed rows input).world.Tracks m.connectionId (.resumed input)
      (.between input) where
  fits := ⟨⟨rfl, rfl, rfl⟩, rfl, rfl, rfl, rfl⟩
  pursues :=
    ⟨JobStore.numbered_foldl_insert JobStore.numbered_empty rows,
      fun mem _ => (List.not_mem_nil mem).elim, fun _ _ _ mem => (List.not_mem_nil mem).elim⟩
  notices := by
    refine ⟨rfl, fun underway => (Bool.false_ne_true underway).elim, fun {since before} asked => ?_⟩
    obtain ⟨signal, found, split, -⟩ := asked
    cases since <;> cases split
  lists := ⟨JobStore.ordered_foldl_insert rows .nil, JobStore.listed_nil⟩
  leads _ := trivial

/-- Where a generation ends, an attempt that was asked to end in it has succeeded or was reported
cancelled. -/
theorem ended_of_asked {station : Station} {c : Course} {w : World}
    (request : station.request m = .enter .endGeneration)
    (tracks : w.Tracks m.connectionId c station) (quiet : ∀ e ∈ w.past, e.givesUp = false)
    (asked : EndAsked w.past since before) : Succeeded w.past ∨ w.jobs.Interrupted w.past := by
  obtain ⟨isDue, isAsked⟩ := tracks.notices.asked asked
  have leads := tracks.leads quiet
  cases station with
  | ending input =>
    rcases leads isDue with succeeded | interrupted | ⟨flags, released, spared⟩
    · exact .inl succeeded
    · exact .inr interrupted
    · unfold Course.IsAsked at isAsked
      rw [released] at isAsked
      cases spared.symm.trans isAsked
  | _ => cases request

/-- In a run in which no generation is given up, an attempt that was asked to end in time succeeded,
or it was reported cancelled with the failures of its execution and nothing else is ever reported of
its job. -/
theorem interrupted_of_asked (begun : Moment.Steps m (.resumed rows input) a)
    (ends : a.Asks (.enter .endGeneration)) (steps : a.Steps m b)
    (quiet : ∀ e ∈ b.world.past, e.givesUp = false) (asked : EndAsked a.world.past since before) :
    (∃ output, outcome a.world.past = .succeeded output) ∨
      ∃ job n summary sorted now row, latest a.world.past = some (job, n) ∧
        b.world.past.filter (·.reports job) =
          [.told (.call (.jobCancelled job n summary)) (.ok ())] ∧
        b.world.jobs.find? job = some row ∧ row.status = .cancelled ∧
        row.attempts.find? (·.number = n) = some ⟨n, .cancelled, some summary⟩ ∧
        summary.failures = sorted ++ [.manualCancellation (some job) (some n) now] ∧
        ByTime (outcome a.world.past).failures sorted := by
  have has := (kept_tracks m (.resumed input)).steps begun
    ⟨_, .between _, tracks_resumed m rows input⟩
  have quietBefore (e : Event) (mem : e ∈ a.world.past) :=
    quiet e ((Moment.past_suffix steps).mem mem)
  obtain ⟨station, request, tracks⟩ := has.station ends
  rcases ended_of_asked request tracks quietBefore asked with succeeded | interrupted
  · exact .inl succeeded
  obtain ⟨job, n, now, row, last, reported, found, cancelled, there⟩ := interrupted
  have ended : row.status.isTerminal := by
    rw [cancelled]
    rfl
  -- Of a job that is left open nothing was reported, but of this one it was.
  have gone : (courseFrom (.resumed input) a.world.past).leavesOpen ≠ some job := by
    intro left
    have none : a.world.past.filter (·.reports job) = [] :=
      List.filter_eq_nil_iff.2 fun e mem => by simp [tracks.pursues.pursued job left e mem]
    rw [reported] at none
    cases none
  obtain ⟨spot, follows, tracks⟩ := has
  obtain ⟨-, -, -, rests⟩ := (kept_rests (c := .resumed input) m nofun ended).steps steps
    ⟨spot, follows, tracks, fun _ => ⟨found, reported, gone⟩⟩
  obtain ⟨found, reported, -⟩ := rests quiet
  exact .inr ⟨job, n, _, _, now, row, last, reported, found, cancelled, there, rfl,
    FailureSummary.byTime_ofReasons _ _⟩

/-! ### A reset while an attempt is executed -/

def FailureReason.early : FailureReason := .platform "early" none none ⟨1, 0⟩

def FailureReason.late : FailureReason := .platform "late" none none ⟨2, 0⟩

/-- An attempt fails after a reset was asked for, and is reported. -/
def Moment.cutShort : Moment :=
  .replay .sample [.serve (.failed [.late, .early] true) 14, .hear .reset,
    .serve (.failed [.late, .early] true) 5]

/-- The attempt after that has failed, too. -/
def Moment.resetFailed : Moment := .serve .sample (.failed [] false) 20 .cutShort

theorem interrupted_of_cutShort : ∃ summary sorted now row,
    Moment.resetFailed.world.past.filter (·.reports 1) =
      [.told (.call (.jobCancelled 1 1 summary)) (.ok ())] ∧
    Moment.resetFailed.world.jobs.find? 1 = some row ∧ row.status = .cancelled ∧
    row.attempts.find? (·.number = 1) = some ⟨1, .cancelled, some summary⟩ ∧
    summary.failures = sorted ++ [.manualCancellation (some 1) (some 1) now] ∧
    ByTime [.late, .early] sorted := by
  have begun : Moment.Steps .sample (.resumed [] (.fresh Uuid.zero)) .cutShort :=
    Moment.steps_replay .sample _ _
  have failed : outcome Moment.cutShort.world.past = .failed [.late, .early] true := by
    decide +kernel
  have first : latest Moment.cutShort.world.past = some (1, 1) := by decide +kernel
  rcases interrupted_of_asked begun (Moment.asks_of_request? (by decide +kernel))
    (Moment.steps_serve .sample (.failed [] false) 20 .cutShort) (by decide +kernel)
    (endAsked_of_askedAgo (n := 5) (by decide +kernel)) with ⟨output, succeeded⟩ | interrupted
  · cases failed.symm.trans succeeded
  · obtain ⟨job, n, summary, sorted, now, row, last, rest⟩ := interrupted
    cases first.symm.trans last
    rw [failed] at rest
    exact ⟨summary, sorted, now, row, rest⟩

end ConnectorSync.Sync
