import ConnectorSync.Proofs.Sync.RetryDelay

/-!
# The time of a retry

A job that has failed and is left open is attempted again after the delay that its policy says for
the failures without progress it has had so far, but no later than the next run is due. The delay is
read off the budget that was kept by the generation that failed.
-/

namespace ConnectorSync.Sync

/-! ### The open job and its attempts -/

namespace Tries

variable (template : Option RetryBudget) (t : Tries) (flags : Flags) (now : Nat)

def Spends (budget : Option RetryBudget) : Prop :=
  ∃ incomplete, budget = template.map (·.spent t.failures incomplete)

/-- The job of an input is open under a budget, and nothing asks to skip a wait. -/
structure Holds (input : RunInput) (job : JobId) (budget : Option RetryBudget) : Prop where
  jobId : input.jobId = some job
  unskipped : input.skipScheduling = false
  job : t.job = some job
  budget : t.Spends template budget
  undisturbed : flags.skipScheduling = false

structure Flies (input : RunInput) (job : JobId) (budget : Option RetryBudget) : Prop
    extends t.Holds template flags input job budget where
  failed : t.failed = none

structure JustFailed : Prop where
  failed : t.failed = some now
  untilNext : t.untilNext = none

def IsDue : Prop :=
  ∃ recorded untilNext, t.failed = some recorded ∧ t.untilNext = some untilNext ∧
    deadline recorded (retryDelay template t.failures untilNext) = some now

structure Retries (retries : RetryStore) (input : RunInput) (job : JobId) : Prop
    extends t.Holds template flags input job (retries.hydrate (some job)) where
  fromFailure : input.fromFailure = true

structure Idle (input : RunInput) : Prop where
  jobId : input.jobId = none
  unskipped : input.skipScheduling = false
  fromFailure : input.fromFailure = false
  job : t.job = none
  failed : t.failed = none

structure Closed : Prop where
  job : t.job = none
  failed : t.failed = none

end Tries

structure Flags.Busy (f : Flags) : Prop where
  running : f.running = true
  undisturbed : f.skipScheduling = false

/-- No flag is up but those that a manual sync and the manager itself raise. -/
structure Flags.Calm (f : Flags) : Prop where
  cancelled : f.cancelled = false
  cancelledForReset : f.cancelledForReset = false
  deleted : f.deleted = false
  updated : f.updated = false
  skipSchedulingNext : f.skipSchedulingNext = false

/-- Every attempt of a job that had failed before was created when it was due. -/
def OnTime (template : Option RetryBudget) : List (Nat × Event) → Prop
  | [] => True
  | (now, e) :: past =>
    (∀ job n recorded, e = .told (.call (.createAttempt job)) (.ok n) →
      (tries past).failed = some recorded →
      (tries past).job = some job ∧ (tries past).IsDue template now) ∧ OnTime template past

namespace TimedWorld

variable (template : Option RetryBudget) (w : TimedWorld)

def Holds (input : RunInput) (job : JobId) (budget : Option RetryBudget) : Prop :=
  (tries w.past).Holds template w.control.flags input job budget

def Flies (input : RunInput) (job : JobId) (budget : Option RetryBudget) : Prop :=
  (tries w.past).Flies template w.control.flags input job budget

def Retries (input : RunInput) (job : JobId) : Prop :=
  (tries w.past).Retries template w.control.flags w.retries input job

def Idle (input : RunInput) : Prop := (tries w.past).Idle input

def JustFailed : Prop := (tries w.past).JustFailed w.now

def IsDue : Prop := (tries w.past).IsDue template w.now

def SetsOut (input : RunInput) : Prop :=
  w.Idle input ∨ ∃ job, w.Retries template input job ∧ w.JustFailed

/-- The wait for another attempt, which begins at the tick at which the last one has failed. -/
structure Waits (recorded : Nat) (untilNext span : Duration) : Prop where
  failed : (tries w.past).failed = some recorded
  asked : (tries w.past).untilNext = some untilNext
  delay : span = retryDelay template (tries w.past).failures untilNext
  unbegun : w.wait = none → w.now = recorded
  begun : ∀ {due waiter}, w.wait = some (due, waiter) → due = deadline recorded span ∧
    (∀ tick, due = some tick → w.now ≤ tick) ∧ (waiter = .ended → due = some w.now)

structure Keeps : Prop where
  stored : w.retries.template = template
  calm : w.control.flags.Calm
  onTime : OnTime template w.past

end TimedWorld

def Task.Times (template : Option RetryBudget) (w : TimedWorld) : Task → Prop
  | listStale input | getStale input .. | failStaleAttempt input .. | failStaleJob input .. =>
    w.Idle input
  | untilNextRun input budget => w.Idle input ∨ ∃ job, w.Retries template input job ∧
    w.JustFailed ∧ budget = w.retries.hydrate (some job)
  | createJob input budget _ =>
    w.Idle input ∧ w.control.flags.Busy ∧ budget = template.map (·.spent 0 0)
  | createAttempt input budget job _ => w.Holds template input job budget ∧
    ((tries w.past).failed = none ∨ w.IsDue template)
  | startJob input budget context | lastFailure input budget context
  | succeed input budget context _ => w.Flies template input context.jobId budget
  | cancelJob input job _ _ => ∃ budget, w.Flies template input job budget
  | failAttempt input budget job .. => w.Flies template input job budget
  | failJob _ job _ => (tries w.past).job = some job ∧ w.JustFailed
  | autoDisable _ => (tries w.past).Closed

def Station.Times (template : Option RetryBudget) (w : TimedWorld) : Station → Prop
  | beginning input | hydrating input | ending input => w.SetsOut template input
  | calling task _ _ => task.Times template w
  | timingStale input .. => w.Idle input
  | waiting input span => w.Idle input ∨ ∃ job recorded untilNext,
    w.Retries template input job ∧ w.Waits template recorded untilNext span
  | endingWait input => w.Idle input ∨ ∃ job, w.Retries template input job ∧ w.IsDue template
  | hydratingAttempt input _ => w.Idle input ∧ w.control.flags.Busy ∨
    ∃ job, w.Retries template input job ∧ w.IsDue template
  | registering input budget context | looking input budget context
  | checking input budget context .. | executing input budget context
  | timingError input budget context _ => w.Flies template input context.jobId budget
  | releasing input budget context outcome =>
    w.Flies template input context.jobId budget ∧ outcome.isOk
  | persistingSuccess .. | recordingSuccess | lookingBack _ => (tries w.past).Closed
  | timingCancel input job .. => ∃ budget, w.Flies template input job budget
  | checkingProgress input budget job .. => w.Flies template input job budget
  | persistingFailure input budget job _ => w.Holds template input job (some budget) ∧ w.JustFailed
  | askingMost input job _ => w.Holds template input job none ∧ w.JustFailed
  | recordingFailure input job .. =>
    w.Holds template input job (w.retries.hydrate (some job)) ∧ w.JustFailed
  | pausing .. | recovering .. | timingRecovery .. | failingAttempt .. | failingJob .. => False

def Spot.Times (template : Option RetryBudget) (w : TimedWorld) : Spot → Prop
  | .between input => w.SetsOut template input
  | .at station => station.Times template w
  | .stopped => (tries w.past).Closed

section Flags

variable {c : Control}

theorem Flags.Calm.manualSync (h : c.flags.Calm) : (c.signal .manualSync).flags.Calm := by
  unfold Control.signal
  dsimp only
  split
  · exact h
  · exact ⟨h.cancelled, h.cancelledForReset, h.deleted, h.updated, h.skipSchedulingNext⟩

theorem Flags.Calm.apply (h : c.flags.Calm) (s : Section) : (s.apply c).flags.Calm := by
  cases s with
  | endGeneration =>
    rw [Section.endGeneration_flags (by simp [h.deleted])]
    exact ⟨rfl, rfl, rfl, rfl, rfl⟩
  | _ => exact ⟨h.cancelled, h.cancelledForReset, h.deleted, h.updated, h.skipSchedulingNext⟩

theorem Flags.Busy.manualSync (h : c.flags.Busy) : c.signal .manualSync = c := if_pos h.running

theorem Flags.Calm.uninterrupted (h : c.flags.Calm) (undisturbed : c.flags.skipScheduling = false) :
    Wait.isInterrupted .schedule c.flags = false := by
  simp [Wait.isInterrupted, Flags.interruptsWait, undisturbed, h.deleted, h.updated, h.cancelled]

/-- A wait that nothing interrupts is followed by an attempt. -/
theorem Flags.Calm.next_endingWait {m : Manager} {input : RunInput} (h : c.flags.Calm) :
    (Station.endingWait input).next m (c, Section.endWait.apply c) =
      Station.hydratingAttempt input
        (input.resetConnection || (Section.endWait.apply c).flags.resetRequested) := by
  have calm := h.apply .endWait
  simp only [Station.next]
  rw [if_neg (by simp [calm.deleted]), if_neg (by simp [calm.updated]),
    if_neg (by simp [calm.cancelled])]

end Flags

/-! ### Events -/

namespace Tries

variable {template : Option RetryBudget} {t : Tries} {flags : Flags} {now : Nat} {e : Event}
  {input : RunInput} {job : JobId} {budget : Option RetryBudget}

theorem closed_after (closes : t.after now e = {}) : (t.after now e).Closed := by
  rw [closes]
  exact ⟨rfl, rfl⟩

/-- A job that is none of the run's own may be failed. -/
theorem idle_after (h : t.Idle input) (same : t.after now e = t) : (t.after now e).Idle input := by
  rw [same]
  exact h

/-- A failure is counted as the budget counts it. -/
theorem Flies.fail {n : Nat} {summary : FailureSummary} {reply : Unit}
    (h : t.Flies template flags input job budget) (now : Nat) (madeProgress : Bool) :
    let t' := t.after now (.told
      (.call (.failAttempt job n (if madeProgress then .incomplete else .failed) summary))
      (.ok reply))
    t'.Holds template flags input job (budget.map (·.recordFailure madeProgress)) ∧
      t'.JustFailed now := by
  have counted : t.after now (.told
      (.call (.failAttempt job n (if madeProgress then .incomplete else .failed) summary))
      (.ok reply)) = { t with
        failures := if madeProgress then t.failures else t.failures + 1
        failed := some now
        untilNext := none } := by
    refine (if_pos h.job).trans ?_
    cases madeProgress <;> rfl
  intro t'
  obtain ⟨incomplete, same⟩ := h.budget
  have spends : t'.Spends template (budget.map (·.recordFailure madeProgress)) := by
    refine ⟨if madeProgress then incomplete + 1 else incomplete, ?_⟩
    rw [same, Option.map_map, show t' = _ from counted]
    refine congrArg (Option.map · template) (funext fun b => ?_)
    refine (RetryBudget.recordFailure_spent madeProgress).trans ?_
    cases madeProgress <;> rfl
  have job : t'.job = some job := by
    rw [show t' = _ from counted]
    exact h.job
  refine ⟨⟨h.jobId, h.unskipped, job, spends, h.undisturbed⟩, ?_, ?_⟩
  · rw [show t' = _ from counted]
  · rw [show t' = _ from counted]

end Tries

theorem TimedWorld.Waits.goes {template : Option RetryBudget} {w w' : TimedWorld} {recorded : Nat}
    {untilNext span : Duration} (h : w.Waits template recorded untilNext span)
    (calm : w.control.flags.Calm) (undisturbed : w.control.flags.skipScheduling = false)
    (goes : w.Goes (.wait span .schedule) w') : w'.Waits template recorded untilNext span := by
  have uninterrupted := calm.uninterrupted undisturbed
  cases goes with
  | tick r may =>
    obtain ⟨due, here, before⟩ := may
    refine ⟨h.failed, h.asked, h.delay, fun none => ?_, fun {due' waiter} here' => ?_⟩
    · cases here.symm.trans none
    · obtain ⟨rfl, rfl⟩ := Prod.mk.inj (Option.some.inj (here.symm.trans here'))
      exact ⟨(h.begun here).1, fun tick some => before tick some, nofun⟩
  | begin _ _ none =>
    refine ⟨h.failed, h.asked, h.delay, nofun, fun {due waiter} here => ?_⟩
    cases here
    refine ⟨congrArg (deadline · span) (h.unbegun none), fun tick some => ?_, nofun⟩
    rw [eq_of_deadline some]
    exact Nat.le_add_right _ _
  | step _ _ due waiter here =>
    obtain ⟨same, within, ended⟩ := h.begun here
    refine ⟨h.failed, h.asked, h.delay, nofun, fun {due' waiter'} here' => ?_⟩
    obtain ⟨rfl, stepped⟩ := Prod.mk.inj (Option.some.inj here')
    refine ⟨same, within, fun hasEnded => ?_⟩
    rw [hasEnded] at stepped
    cases waiter with
    | arriving => cases stepped
    | registered rung =>
      simp only [Waiter.step, uninterrupted] at stepped
      cases stepped
    | parked rung =>
      unfold Waiter.step at stepped
      dsimp only at stepped
      split at stepped
      · cases stepped
      split at stepped
      · next isDue =>
        obtain ⟨tick, some, past⟩ := (Option.any_eq_true ..).1 isDue
        have past := of_decide_eq_true past
        rw [some, Nat.le_antisymm (within tick some) past]
      · cases stepped
    | ended => exact ended rfl

theorem TimedWorld.Waits.ring {template : Option RetryBudget} {w : TimedWorld} {recorded : Nat}
    {untilNext span : Duration} (h : w.Waits template recorded untilNext span) :
    w.ring.Waits template recorded untilNext span := by
  refine ⟨h.failed, h.asked, h.delay, fun none => h.unbegun (Option.map_eq_none_iff.1 none),
    fun {due waiter} here => ?_⟩
  obtain ⟨⟨due', waiter'⟩, before, rung⟩ := Option.map_eq_some_iff.1 here
  obtain ⟨rfl, rfl⟩ := Prod.mk.inj rung
  obtain ⟨same, within, ended⟩ := h.begun before
  refine ⟨same, within, fun hasEnded => ended ?_⟩
  cases waiter' with
  | ended => rfl
  | _ => cases hasEnded

/-! ### Ways on -/

theorem OnTime.cons {template : Option RetryBudget} {now : Nat} {e : Event}
    {past : List (Nat × Event)} (h : OnTime template past)
    (other : ∀ job n, e ≠ .told (.call (.createAttempt job)) (.ok n)) :
    OnTime template ((now, e) :: past) :=
  ⟨fun job n _ created => absurd created (other job n), h⟩

namespace Station

variable {template : Option RetryBudget} {m : Manager} {w : TimedWorld} {input : RunInput}
  {budget : Option RetryBudget} {context : AttemptContext} {job : JobId}

theorem cleaning_times (idle : w.Idle input) (jobs : List JobId) :
    (cleaning m input jobs).Times template w := by
  cases jobs with
  | nil => exact .inl idle
  | cons job jobs => exact idle

theorem failingStale_times (idle : w.Idle input) (job : JobId) (jobs : List JobId)
    (attempts : List Nat) : (failingStale m input job jobs attempts).Times template w := by
  cases attempts with
  | nil => exact idle
  | cons attempt attempts => exact idle

theorem leaving_times (closed : (tries w.past).Closed) (last : Bool) (none : input.jobId = none)
    (unskipped : input.skipScheduling = false) (fromFailure : input.fromFailure = false) :
    (leaving last input).Times template w := by
  cases last with
  | false => exact .inl ⟨none, unskipped, fromFailure, closed.job, closed.failed⟩
  | true => exact closed

theorem cancelling_times (h : w.Flies template input job budget) (failures : List FailureReason)
    (partialSuccess : Option Bool) (last : Bool) :
    (cancelling input failures partialSuccess last).Times template w := by
  unfold cancelling
  rw [h.jobId]
  exact ⟨budget, h⟩

theorem checkingSides_times (h : w.Flies template input context.jobId budget) (sides : List Side) :
    (checkingSides input budget context sides).Times template w := by
  cases sides <;> exact h

theorem reporting_times (h : w.Flies template input context.jobId budget) (flags : Flags)
    (outcome : AttemptOutcome) :
    (reporting m input budget context flags outcome).Times template w := by
  cases outcome with
  | succeeded output => exact h
  | cancelled => exact cancelling_times h _ _ _
  | failed failures partialSuccess =>
    unfold reporting
    dsimp only
    split
    · exact cancelling_times h _ _ _
    · unfold failing
      rw [h.jobId]
      exact h

theorem limiting_times {summary : FailureSummary} (h : w.Holds template input job budget)
    (failed : w.JustFailed) : (limiting input job summary budget).Times template w := by
  cases budget with
  | none => exact ⟨h, failed⟩
  | some budget => exact ⟨h, failed⟩

/-- One case for each call: a budget that is asked for is the one that the failures so far leave. -/
theorem carried_times {retries : RetryStore} (task : Task) (reply : task.call.Reply)
    (h : task.Times template w) (serves : w.retries.Serves task.call reply retries) :
    (carried m task reply).Times template
      ({ w with retries }.note (.call task.call) (.ok reply)) := by
  cases task with
  | listStale input =>
    refine cleaning_times ?_ _
    exact h
  | getStale input job jobs =>
    refine failingStale_times ?_ _ _ _
    exact h
  | failStaleAttempt input job attempt attempts jobs now =>
    refine failingStale_times ?_ _ _ _
    exact Tries.idle_after h (if_neg (by simp [show (tries w.past).job = none from h.job]))
  | failStaleJob input job jobs =>
    refine cleaning_times ?_ _
    exact Tries.idle_after h (if_neg (by simp [show (tries w.past).job = none from h.job]))
  | untilNextRun input budget =>
    obtain rfl := serves
    rcases h with idle | ⟨job, again, failed, rfl⟩
    · exact .inl ⟨idle.jobId, idle.unskipped, idle.fromFailure, idle.job, idle.failed⟩
    · refine .inr ⟨job, w.now, reply, ⟨⟨again.jobId, again.unskipped, again.job, again.budget,
        again.undisturbed⟩, again.fromFailure⟩, failed.failed, rfl, ?_, fun _ => rfl, nofun⟩
      obtain ⟨incomplete, same⟩ := again.budget
      rw [same]
      exact waitingTime_eq again.fromFailure _ _ _
  | createJob input budget isReset =>
    obtain ⟨idle, busy, rfl⟩ := h
    exact ⟨⟨rfl, idle.unskipped, rfl, ⟨0, rfl⟩, busy.undisturbed⟩, .inl rfl⟩
  | createAttempt input budget job isReset =>
    obtain ⟨holds, -⟩ := h
    exact ⟨⟨holds.jobId, holds.unskipped, holds.job, holds.budget, holds.undisturbed⟩, rfl⟩
  | startJob input budget context => exact h
  | lastFailure input budget context =>
    refine checkingSides_times ?_ _
    exact h
  | succeed input budget context output =>
    cases budget <;> exact Tries.closed_after (if_pos h.job)
  | cancelJob input job summary last =>
    obtain ⟨budget, flies⟩ := h
    exact Tries.closed_after (if_pos flies.job)
  | failAttempt input budget job madeProgress summary =>
    obtain ⟨holds, failed⟩ := Tries.Flies.fail h w.now madeProgress
    refine limiting_times ?_ ?_
    · exact holds
    · exact failed
  | failJob input job reason =>
    exact Tries.closed_after (if_pos h.1)
  | autoDisable input => exact .inl ⟨rfl, rfl, rfl, h.job, h.failed⟩

/-- Whatever is answered at a station, what is to be known at the next one is known then. -/
def KeepsTimes (template : Option RetryBudget) (m : Manager) (w : TimedWorld) (s : Station) :
    Prop :=
  ∀ (a : (s.request m).Answer) (w' : TimedWorld), w.Answers (s.request m) a w' →
    (s.next m a).Times template (w'.note (s.request m) a)

/-! #### Up to the attempt -/

theorem beginning_keepsTimes (h : w.SetsOut template input) :
    (beginning input).KeepsTimes template m w := by
  intro _ _ answers
  cases answers
  simp only [next]
  rcases h with idle | ⟨job, again, failed⟩
  · split
    · exact ⟨idle.jobId, rfl, idle.fromFailure, idle.job, idle.failed⟩
    · exact .inl ⟨idle.jobId, rfl, idle.fromFailure, idle.job, idle.failed⟩
  · rw [if_neg (by simp [again.jobId])]
    refine .inr ⟨job, ⟨⟨again.jobId, rfl, again.job, again.budget, ?_⟩, again.fromFailure⟩, failed⟩
    show (_ || _) = false
    rw [again.unskipped, again.undisturbed]
    rfl

theorem hydrating_keepsTimes (h : w.SetsOut template input) :
    (hydrating input).KeepsTimes template m w := by
  intro _ _ answers
  cases answers with
  | carried call reply retries serves =>
    obtain ⟨rfl, rfl⟩ := serves
    rcases h with idle | ⟨job, again, failed⟩
    · exact .inl idle
    · refine .inr ⟨job, again, failed, ?_⟩
      show w.retries.hydrate input.jobId = _
      rw [again.jobId]
      rfl

/-- The wait for another attempt ends when it is due. -/
theorem waiting_keepsTimes {span : Duration} (h : (waiting input span).Times template w) :
    (waiting input span).KeepsTimes template m w := by
  intro _ _ answers
  cases answers with
  | waited _ _ due hasEnded =>
    rcases h with idle | ⟨job, recorded, untilNext, again, waits⟩
    · exact .inl idle
    · obtain ⟨rfl, -, here⟩ := waits.begun hasEnded
      have due : deadline recorded span = some w.now := here rfl
      rw [waits.delay] at due
      exact .inr ⟨job, again, recorded, untilNext, waits.failed, waits.asked, due⟩

theorem endingWait_keepsTimes (calm : w.control.flags.Calm)
    (h : w.Idle input ∨ ∃ job, w.Retries template input job ∧ w.IsDue template) :
    (endingWait input).KeepsTimes template m w := by
  intro _ _ answers
  cases answers
  rw [calm.next_endingWait]
  rcases h with idle | ⟨job, again, due⟩
  · refine .inl ⟨idle, ?_, rfl⟩
    show (_ || !(_ || _ || _)) = true
    rw [calm.deleted, calm.updated, calm.cancelled]
    simp
  · exact .inr ⟨job, ⟨⟨again.jobId, again.unskipped, again.job, again.budget, rfl⟩,
      again.fromFailure⟩, due⟩

theorem hydratingAttempt_keepsTimes {isReset : Bool} (stored : w.retries.template = template)
    (h : (hydratingAttempt input isReset).Times template w) :
    (hydratingAttempt input isReset).KeepsTimes template m w := by
  intro _ _ answers
  cases answers with
  | carried call reply retries serves =>
    obtain ⟨rfl, rfl⟩ := serves
    show (opening m input (w.retries.hydrate input.jobId) isReset).Times _ _
    unfold opening
    rcases h with ⟨idle, busy⟩ | ⟨job, again, due⟩
    · rw [idle.jobId]
      refine ⟨idle, busy, ?_⟩
      show w.retries.template.map _ = _
      rw [stored]
      rfl
    · rw [again.jobId]
      exact ⟨⟨rfl, again.unskipped, again.job, again.budget, again.undisturbed⟩, .inr due⟩

/-! #### The attempt -/

theorem looking_keepsTimes (h : w.Flies template input context.jobId budget) :
    (looking input budget context).KeepsTimes template m w := by
  intro _ _ answers
  cases answers
  simp only [next]
  split
  · exact ⟨h, rfl⟩
  · exact h

theorem checking_keepsTimes (h : w.Flies template input context.jobId budget) (side : Side)
    (sides : List Side) :
    (checking input budget context side sides).KeepsTimes template m w := by
  intro a _ answers
  cases answers
  rcases a with error | (_ | reason | _)
  · exact h
  · refine checkingSides_times ?_ sides
    exact h
  · exact ⟨h, rfl⟩
  · exact ⟨h, rfl⟩

theorem executing_keepsTimes (h : w.Flies template input context.jobId budget) :
    (executing input budget context).KeepsTimes template m w := by
  intro a _ answers
  cases answers
  cases a with
  | ok outcome => exact ⟨h, rfl⟩
  | error error => exact h

theorem releasing_keepsTimes {outcome : Except ActivityFailure AttemptOutcome}
    (h : (releasing input budget context outcome).Times template w) :
    (releasing input budget context outcome).KeepsTimes template m w := by
  intro _ _ answers
  cases answers
  obtain ⟨flies, ok⟩ := h
  cases outcome with
  | ok outcome =>
    refine reporting_times ?_ _ outcome
    exact ⟨⟨flies.jobId, flies.unskipped, flies.job, flies.budget, flies.undisturbed⟩,
      flies.failed⟩
  | error failure => cases ok

/-! #### What is recorded of it -/

theorem persistingFailure_keepsTimes {summary : FailureSummary} {kept : RetryBudget}
    (stored : w.retries.template = template)
    (h : w.Holds template input job (some kept) ∧ w.JustFailed) :
    (persistingFailure input kept job summary).KeepsTimes template m w := by
  intro _ _ answers
  cases answers with
  | carried call reply retries serves =>
    obtain rfl := serves
    obtain ⟨holds, failed⟩ := h
    obtain ⟨incomplete, same⟩ := holds.budget
    refine ⟨⟨holds.jobId, holds.unskipped, holds.job, ⟨incomplete, ?_⟩, holds.undisturbed⟩, failed⟩
    obtain ⟨b, some, rfl⟩ := Option.map_eq_some_iff.1 same.symm
    show (w.retries.persist job _).hydrate _ = _
    rw [Ledger.hydrate_persist, stored, some]
    rfl

theorem askingMost_keepsTimes {summary : FailureSummary} (stored : w.retries.template = template)
    (h : w.Holds template input job none ∧ w.JustFailed) :
    (askingMost input job summary).KeepsTimes template m w := by
  intro _ _ answers
  cases answers with
  | carried call reply retries serves =>
    obtain rfl := serves
    obtain ⟨holds, failed⟩ := h
    obtain ⟨incomplete, same⟩ := holds.budget
    have none : template = none := Option.map_eq_none_iff.1 same.symm
    refine ⟨⟨holds.jobId, holds.unskipped, holds.job, ⟨incomplete, .trans ?_ same⟩,
      holds.undisturbed⟩, failed⟩
    show w.retries.template.map _ = _
    rw [stored, none]
    rfl

theorem recordingFailure_keepsTimes {summary : FailureSummary}
    (h : w.Holds template input job (w.retries.hydrate (some job)) ∧ w.JustFailed)
    (withinLimits : Bool) :
    (recordingFailure input job summary withinLimits).KeepsTimes template m w := by
  intro _ _ answers
  cases answers
  obtain ⟨holds, failed⟩ := h
  simp only [next]
  split
  · exact .inr ⟨job, ⟨⟨holds.jobId, holds.unskipped, holds.job, holds.budget,
      holds.undisturbed⟩, rfl⟩, failed⟩
  · exact ⟨holds.job, failed⟩

theorem ending_keepsTimes (calm : w.control.flags.Calm) (h : w.SetsOut template input) :
    (ending input).KeepsTimes template m w := by
  intro _ _ answers
  cases answers
  simp only [next]
  rw [if_neg (by simp [calm.deleted])]
  have unskipped (h : input.skipScheduling = false) :
      (w.control.flags.skipSchedulingNext || input.skipScheduling) = false := by
    rw [calm.skipSchedulingNext, h]
    rfl
  rcases h with idle | ⟨job, again, failed⟩
  · exact .inl ⟨idle.jobId, unskipped idle.unskipped, idle.fromFailure, idle.job, idle.failed⟩
  · refine .inr ⟨job, ⟨⟨again.jobId, unskipped again.unskipped, again.job, again.budget, ?_⟩,
      again.fromFailure⟩, failed⟩
    show (Section.endGeneration.apply w.control).flags.skipScheduling = false
    rw [Section.endGeneration_flags (by simp [calm.deleted])]
    rfl

theorem keepsTimes (station : Station) (keeps : w.Keeps template) (h : station.Times template w) :
    station.KeepsTimes template m w := by
  cases station with
  | beginning input => exact beginning_keepsTimes h
  | hydrating input => exact hydrating_keepsTimes h
  | waiting input span => exact waiting_keepsTimes h
  | endingWait input => exact endingWait_keepsTimes keeps.calm h
  | hydratingAttempt input isReset => exact hydratingAttempt_keepsTimes keeps.stored h
  | looking input budget context => exact looking_keepsTimes h
  | checking input budget context side sides => exact checking_keepsTimes h side sides
  | executing input budget context => exact executing_keepsTimes h
  | releasing input budget context outcome => exact releasing_keepsTimes h
  | persistingFailure => exact persistingFailure_keepsTimes keeps.stored h
  | askingMost => exact askingMost_keepsTimes keeps.stored h
  | recordingFailure => exact recordingFailure_keepsTimes h _
  | ending input => exact ending_keepsTimes keeps.calm h
  | pausing | recovering | timingRecovery | failingAttempt | failingJob => exact h.elim
  | calling task left failed =>
    intro _ _ answers
    cases answers with
    | carried call reply retries serves => exact carried_times task reply h serves
  | registering input budget context =>
    intro _ _ answers
    cases answers
    exact ⟨⟨h.jobId, h.unskipped, h.job, h.budget, h.undisturbed⟩, h.failed⟩
  | timingError input budget context error =>
    intro _ _ answers
    cases answers
    exact ⟨h, rfl⟩
  | lookingBack last =>
    intro _ _ answers
    cases answers
    refine leaving_times ?_ last rfl keeps.calm.cancelledForReset rfl
    exact h
  | recordingSuccess =>
    intro _ _ answers
    cases answers
    exact .inl ⟨rfl, rfl, rfl, h.job, h.failed⟩
  | checkingProgress | persistingSuccess =>
    intro _ _ answers
    cases answers with
    | carried call reply retries serves => exact h
  | timingStale | timingCancel =>
    intro _ _ answers
    cases answers
    exact h

/-- An attempt of a job that has failed before is created when it is due. -/
theorem due_of_createAttempt {station : Station} {recorded : Nat}
    (h : station.Times template w) (hr : station.request m = .call (.createAttempt job))
    (failed : (tries w.past).failed = some recorded) :
    (tries w.past).job = some job ∧ w.IsDue template := by
  cases station with
  | calling task left tried =>
    cases task with
    | createAttempt input budget job isReset =>
      cases hr
      obtain ⟨holds, first | due⟩ := h
      · cases first.symm.trans failed
      · exact ⟨holds.job, due⟩
    | _ => cases hr
  | _ => cases hr

/-- What happens while a request waits for its answer keeps what is known, since time passes only
where none is told of. -/
theorem going_times (station : Station) {w' : TimedWorld} (keeps : w.Keeps template)
    (h : station.Times template w) (goes : w.Goes (station.request m) w') :
    station.Times template w' := by
  cases station with
  | checking | executing =>
    cases goes
    exact h
  | waiting input span =>
    rcases h with idle | ⟨job, recorded, untilNext, again, waits⟩
    · cases goes <;> exact .inl idle
    · refine .inr ⟨job, recorded, untilNext, ?_, waits.goes keeps.calm again.undisturbed goes⟩
      cases goes <;> exact again
  | pausing | recovering | timingRecovery | failingAttempt | failingJob => exact h.elim
  | _ =>
    cases goes with
    | tick r may => exact may.elim

end Station

theorem Spot.Times.hear {template : Option RetryBudget} {spot : Spot} {w : TimedWorld}
    (free : (tries w.past).job = none) (h : spot.Times template w) :
    spot.Times template (w.hear .manualSync) := by
  have taken {flags : Flags} {input : RunInput} {job : JobId} {budget : Option RetryBudget}
      {P : Prop} (holds : (tries w.past).Holds template flags input job budget) : P := by
    cases free.symm.trans holds.job
  have setsOut {input : RunInput} (h : w.SetsOut template input) :
      (w.hear .manualSync).SetsOut template input := by
    rcases h with idle | ⟨job, again, -⟩
    · exact .inl idle
    · exact taken again.toHolds
  have busy (h : w.control.flags.Busy) : (w.hear .manualSync).control.flags.Busy := by
    show (w.control.signal .manualSync).flags.Busy
    rw [h.manualSync]
    exact h
  cases spot with
  | between input => exact setsOut h
  | stopped => exact h
  | «at» station =>
    cases station with
    | beginning | hydrating | ending => exact setsOut h
    | calling task left failed =>
      cases task with
      | listStale | getStale | failStaleAttempt | failStaleJob | autoDisable => exact h
      | untilNextRun input budget =>
        rcases h with idle | ⟨job, again, -⟩
        · exact .inl idle
        · exact taken again.toHolds
      | createJob input budget isReset => exact ⟨h.1, busy h.2.1, h.2.2⟩
      | createAttempt => exact taken h.1
      | startJob | lastFailure | succeed | failAttempt => exact taken h.toHolds
      | cancelJob => exact h.elim fun _ flies => taken flies.toHolds
      | failJob => cases free.symm.trans h.1
    | timingStale | persistingSuccess | recordingSuccess | lookingBack => exact h
    | waiting input span =>
      rcases h with idle | ⟨job, recorded, untilNext, again, -⟩
      · exact .inl idle
      · exact taken again.toHolds
    | endingWait input =>
      rcases h with idle | ⟨job, again, -⟩
      · exact .inl idle
      · exact taken again.toHolds
    | hydratingAttempt input isReset =>
      rcases h with ⟨idle, running⟩ | ⟨job, again, -⟩
      · exact .inl ⟨idle, busy running⟩
      · exact taken again.toHolds
    | registering | looking | checking | executing | timingError | checkingProgress =>
      exact taken h.toHolds
    | releasing => exact taken h.1.toHolds
    | timingCancel => exact h.elim fun _ flies => taken flies.toHolds
    | persistingFailure | askingMost | recordingFailure => exact taken h.1
    | pausing | recovering | timingRecovery | failingAttempt | failingJob => exact h.elim

theorem Spot.Times.ring {template : Option RetryBudget} {spot : Spot} {w : TimedWorld}
    (h : spot.Times template w) : spot.Times template w.ring := by
  cases spot with
  | between | stopped => exact h
  | «at» station =>
    cases station with
    | waiting input span =>
      rcases h with idle | ⟨job, recorded, untilNext, again, waits⟩
      · exact .inl idle
      · exact .inr ⟨job, recorded, untilNext, again, waits.ring⟩
    | calling task left failed => cases task <;> exact h
    | _ => exact h

/-! ### Runs -/

theorem TimedWorld.Keeps.goes {template : Option RetryBudget} {w w' : TimedWorld} {r : Request}
    (h : w.Keeps template) (goes : w.Goes r w') : w'.Keeps template := by
  cases goes <;> exact ⟨h.stored, h.calm, h.onTime⟩

theorem TimedWorld.Keeps.answer {template : Option RetryBudget} {m : Manager} {station : Station}
    {w w' : TimedWorld} {r : Request} {a : r.Answer} (hr : station.request m = r)
    (h : w.Keeps template) (times : station.Times template w) (answers : w.Answers r a w') :
    (w'.note r a).Keeps template := by
  cases answers with
  | carried call reply retries serves =>
    refine ⟨?_, h.calm, ?_⟩
    · cases call with
      | persist job budget =>
        obtain rfl := serves
        exact h.stored
      | hydrate job =>
        obtain ⟨-, rfl⟩ := serves
        exact h.stored
      | _ =>
        obtain rfl := serves
        exact h.stored
    · by_cases creates : ∃ job, call = .createAttempt job
      · obtain ⟨job, rfl⟩ := creates
        refine ⟨fun job' n recorded same failed => ?_, h.onTime⟩
        cases same
        exact Station.due_of_createAttempt (w := w) times hr failed
      · exact h.onTime.cons fun job n same => creates ⟨job, by cases same; rfl⟩
  | entered sec => exact ⟨h.stored, h.calm.apply sec, h.onTime.cons fun _ _ same => by cases same⟩
  | _ => exact ⟨h.stored, h.calm, h.onTime.cons fun _ _ same => by cases same⟩

/-- Time passes only while a wait goes on or an attempt is executed, so no retry is late or early. -/
theorem kept_times (m : Manager) (template : Option RetryBudget) :
    TimedKept m fun spot w => w.Keeps template ∧ spot.Times template w where
  hear free h := ⟨⟨h.1.stored, h.1.calm.manualSync, h.1.onTime.cons fun _ _ same => by cases same⟩,
    h.2.hear free⟩
  ring h := ⟨⟨h.1.stored, h.1.calm, h.1.onTime⟩, h.2.ring⟩
  going {station _ _} h goes := ⟨h.1.goes goes, station.going_times h.1 h.2 goes⟩
  begin h := h
  answer {station _ _} a h answers :=
    ⟨h.1.answer rfl h.2 answers, station.keepsTimes h.1 h.2 a _ answers⟩

theorem times_reachable {m : Manager} {store : RetryStore} {a : TimedMoment}
    (reached : a.Reachable m store) :
    a.Has m fun spot w => w.Keeps store.template ∧ spot.Times store.template w := by
  obtain ⟨start, steps⟩ := reached
  refine (kept_times m store.template).steps steps ⟨_, .between _, ⟨rfl, ?_, trivial⟩, .inl ?_⟩
  · exact ⟨rfl, rfl, rfl, rfl, rfl⟩
  · exact ⟨rfl, rfl, rfl, rfl, rfl⟩

end ConnectorSync.Sync
