import ConnectorSync.Proofs.Sync.Station

/-!
# A manager goes through its stations

The dialogue of a generation asks what its stations ask, one after the other, whatever it is
answered. A part of a generation is taken here together with what comes after it.
-/

namespace ConnectorSync.Sync

/-- A dialogue that goes through stations, from a spot on. -/
inductive Follows (m : Manager) : Talk (Option RunInput) → Spot → Prop
  | between (input : RunInput) : Follows m (.done (some input)) (.between input)
  | at (s : Station) (rest : (s.request m).Answer → Talk (Option RunInput))
    (h : ∀ a, Follows m (rest a) (s.next m a)) : Follows m (.ask (s.request m) rest) s
  | stopped : Follows m (.done none) .stopped

/-! ### Parts of a generation -/

abbrev After (α β : Type) := Except ActivityFailure α → RunInput → Talk β

namespace Manager

/-- A part of a generation, from an input on, and what comes after it. -/
def run {α β : Type} (part : Generation α) (input : RunInput) (after : After α β) : Talk β :=
  (StateT.run (ExceptT.run part) input).bind fun (result, input) => after result input

variable {α β γ : Type} {input : RunInput}

def onward (f : β → Generation α) (after : After α γ) : After β γ
  | .ok b, input => run (f b) input after
  | .error failure, input => after (.error failure) input

variable {after : After α γ}

theorem run_bind (part : Generation β) (f : β → Generation α) :
    run (part >>= f) input after = run part input (onward f after) := by
  show ((StateT.run (ExceptT.run part) input).bind _).bind _ = _
  rw [Dialogue.bind_assoc]
  unfold run
  congr 1
  funext ⟨result, input⟩
  cases result <;> rfl

theorem run_get_bind (f : RunInput → Generation α) :
    run (get >>= f) input after = run (f input) input after := rfl

theorem run_set_bind (i : RunInput) (f : PUnit → Generation α) :
    run (set i >>= f) input after = run (f ()) i after := rfl

theorem run_ask_bind (r : Request) (f : r.Answer → Generation α) :
    run (ask r >>= f) input after = .ask r fun a => run (f a) input after := rfl

theorem run_optional_bind (c : Call) (otherwise : c.Reply) (f : c.Reply → Generation α) :
    run (optional c otherwise >>= f) input after =
      .ask (.call c) fun a => run (f (a.toOption.getD otherwise)) input after := by
  rw [run_bind]
  unfold optional
  rw [run_ask_bind]
  congr 1
  funext a
  cases a <;> rfl

theorem run_observing_bind (part : Generation β) (f : Except ActivityFailure β → Generation α) :
    run (observing part >>= f) input after =
      run part input fun result input => run (f result) input after := by
  rw [run_bind]
  unfold observing run
  show ((StateT.run (ExceptT.run part) input).bind _).bind _ = _
  rw [Dialogue.bind_assoc]
  rfl

end Manager

namespace Follows

open Manager Station

variable {m : Manager} {input : RunInput} {α : Type}

/-! ### Calls -/

theorem retrying (task : Task) (left failed : Nat) {after : After task.call.Reply (Option RunInput)}
    (carried : ∀ reply, Follows m (after (.ok reply) input) (carried m task reply))
    (given : ∀ e, Follows m (after (.error ⟨task.call.activity, e⟩) input) (givenUp task e)) :
    Follows m (run (m.retrying task.call left failed) input after) (calling task left failed) := by
  -- The station counts the failures as well, so the step goes from failed to failed + 1.
  induction left generalizing failed with
  | zero =>
    rw [Manager.retrying, run_ask_bind]
    refine .at (calling task 0 failed) _ fun a => ?_
    cases a with
    | ok reply => exact carried reply
    | error e => exact given e
  | succ left ih =>
    rw [Manager.retrying, run_ask_bind]
    refine .at (calling task (left + 1) failed) _ fun a => ?_
    cases a with
    | ok reply => exact carried reply
    | error e => exact .at (pausing task left failed) _ fun _ => ih (failed + 1)

theorem mandatory (task : Task) {f : task.call.Reply → Generation α}
    {after : After α (Option RunInput)}
    (carried : ∀ reply, Follows m (run (f reply) input after) (carried m task reply))
    (given : ∀ e, Follows m (after (.error ⟨task.call.activity, e⟩) input) (givenUp task e)) :
    Follows m (run (m.mandatory task.call >>= f) input after) (trying m task) := by
  rw [run_bind]
  exact retrying task _ 0 carried given

/-! ### Reports -/

structure Closes (m : Manager) (last : Bool) (after : After Unit (Option RunInput)) : Prop where
  leaving : ∀ input, Follows m (after (.ok ()) input) (leaving last input)
  recovering : ∀ input failure, Follows m (after (.error failure) input) (recovering input failure)

variable {after : After Unit (Option RunInput)}

theorem reportCancelled {last : Bool} (h : Closes m last after) (failures : List FailureReason)
    (partialSuccess : Option Bool) :
    Follows m (run (m.reportCancelled failures partialSuccess) input after)
      (cancelling input failures partialSuccess last) := by
  unfold Manager.reportCancelled cancelling
  rw [run_get_bind]
  cases input.jobId with
  | none => exact h.leaving input
  | some job =>
    refine .at (timingCancel input job failures partialSuccess last) _ fun (now : Timestamp) => ?_
    refine mandatory (.cancelJob input job _ last) (fun _ => ?_) fun e => h.recovering input _
    exact .at (lookingBack last) _ fun _ => h.leaving _

theorem recordFailure (h : Closes m false after) (job : JobId) (summary : FailureSummary)
    (withinLimits : Bool) :
    Follows m (run (m.recordFailure input job summary withinLimits) input after)
      (recordingFailure input job summary withinLimits) := by
  unfold Manager.recordFailure enter
  dsimp only
  rw [run_ask_bind]
  refine .at (recordingFailure input job summary withinLimits) _ fun _ => ?_
  simp only [next, isConfigError, decide_eq_true_eq]
  split
  · exact h.leaving _
  · refine mandatory (.failJob input job _) (fun _ => ?_) fun e => h.recovering input _
    refine mandatory (.autoDisable input) (fun _ => ?_) fun e => h.recovering input _
    exact h.leaving _

theorem reportFailure (h : Closes m false after) (budget : Option RetryBudget)
    (failures : List FailureReason) (partialSuccess : Bool) :
    Follows m (run (m.reportFailure budget failures partialSuccess) input after)
      (failing input budget failures partialSuccess) := by
  unfold Manager.reportFailure failing
  rw [run_get_bind]
  cases input.jobId with
  | none => exact h.leaving input
  | some job =>
    dsimp only
    rw [run_optional_bind]
    refine .at (checkingProgress input budget job failures partialSuccess) _
      fun (madeProgress : Except _ Bool) => ?_
    refine mandatory (.failAttempt input budget job (madeProgress.toOption.getD false)
      (.ofReasons failures (some partialSuccess))) (fun _ => ?_) fun e => h.recovering input _
    unfold Manager.isWithinLimits
    cases budget with
    | some budget =>
      dsimp only [Option.map_some]
      rw [run_optional_bind]
      refine .at (persistingFailure input _ job _) _ fun _ => ?_
      exact recordFailure h job _ _
    | none =>
      dsimp only [Option.map_none]
      rw [bind_assoc, run_optional_bind]
      refine .at (askingMost input job _) _ fun (most : Except _ Nat) => ?_
      exact recordFailure h job _ _

theorem reportSuccess (h : Closes m false after) (budget : Option RetryBudget)
    (context : AttemptContext) (output : SyncOutput) :
    Follows m (run (m.reportSuccess budget context output) input after)
      (trying m (.succeed input budget context output)) := by
  have recorded : Follows m (run (do
      let _ ← enter .recordSuccess
      set (RunInput.fresh m.connectionId)) input after) recordingSuccess :=
    .at recordingSuccess _ fun _ => h.leaving _
  refine mandatory (.succeed input budget context output) (fun _ => ?_) fun e => h.recovering _ _
  cases budget with
  | none => exact recorded
  | some budget =>
    dsimp only
    rw [run_optional_bind]
    exact .at (persistingSuccess context _) _ fun _ => recorded

/-! ### Attempts -/

section Attempt

variable {budget : Option RetryBudget} {context : AttemptContext}

theorem platformFailure {after : After AttemptOutcome (Option RunInput)}
    (h : ∀ outcome, Follows m (after (.ok outcome) input)
      (releasing input budget context (.ok outcome)))
    (error : ActivityError) :
    Follows m (run (platformFailure error context) input after)
      (timingError input budget context error) := by
  unfold Manager.platformFailure
  rw [run_ask_bind]
  exact .at (timingError input budget context error) _ fun (now : Timestamp) => h _

theorem runChecks {after : After (Option AttemptOutcome) (Option RunInput)} (sides : List Side)
    (settled : ∀ outcome, Follows m (after (.ok (some outcome)) input)
      (releasing input budget context (.ok outcome)))
    (passed : Follows m (after (.ok none) input) (executing input budget context)) :
    Follows m (run (runChecks context sides) input after)
      (checkingSides input budget context sides) := by
  induction sides with
  | nil => exact passed
  | cons side sides ih =>
    rw [Manager.runChecks, run_ask_bind]
    refine .at (checking input budget context side sides) _
      fun (result : Except _ CheckOutcome) => ?_
    cases result with
    | error error =>
      dsimp only
      rw [run_bind]
      exact platformFailure settled error
    | ok outcome =>
      cases outcome with
      | succeeded => exact ih
      | failed reason => exact settled _
      | cancelled => exact settled _

theorem execute {after : After AttemptOutcome (Option RunInput)}
    {rest : Except ActivityError AttemptOutcome → Generation AttemptOutcome}
    (returned : ∀ outcome, rest (.ok outcome) = pure outcome)
    (failed : ∀ error, rest (.error error) = Manager.platformFailure error context)
    (h : ∀ outcome, Follows m (after outcome input) (releasing input budget context outcome)) :
    Follows m (run (ask (.execute context) >>= rest) input after)
      (executing input budget context) := by
  rw [run_ask_bind]
  refine .at (executing input budget context) _ fun (result : Except _ AttemptOutcome) => ?_
  cases result with
  | ok outcome =>
    rw [returned]
    exact h (.ok outcome)
  | error error =>
    rw [failed]
    exact platformFailure (fun _ => h _) error

theorem runAttempt {after : After AttemptOutcome (Option RunInput)}
    (h : ∀ outcome, Follows m (after outcome input) (releasing input budget context outcome)) :
    Follows m (run (m.runAttempt context) input after) (looking input budget context) := by
  unfold Manager.runAttempt enter
  rw [run_ask_bind]
  refine .at (looking input budget context) _ fun found => ?_
  obtain ⟨control, _⟩ := found
  simp only [next]
  split
  · exact h _
  · refine mandatory (.lastFailure input budget context) (fun (checkFirst : Bool) => ?_)
      fun e => h _
    cases checkFirst with
    | false =>
      show Follows m (run (ask (.execute context) >>= _) input after) _
      exact execute (fun _ => rfl) (fun _ => rfl) h
    | true =>
      show Follows m (run (Manager.runChecks context _ >>= _) input after) _
      rw [run_bind]
      refine runChecks _ (fun _ => h _) ?_
      show Follows m (run (ask (.execute context) >>= _) input after) _
      exact execute (fun _ => rfl) (fun _ => rfl) h

end Attempt

theorem openAttempt (isReset : Bool) (budget : Option RetryBudget)
    {after : After AttemptContext (Option RunInput)}
    (opened : ∀ input context,
      Follows m (after (.ok context) input) (registering input budget context))
    (given : ∀ input failure,
      Follows m (after (.error failure) input) (recovering input failure)) :
    Follows m (run (m.openAttempt isReset) input after) (opening m input budget isReset) := by
  have attempted (job : JobId) : Follows m (run (do
      set { input with jobId := some job }
      let attempt : Nat ← m.mandatory (.createAttempt job)
      set { input with jobId := some job, attempt }
      m.mandatory (.reportJobStart job)
      return (⟨m.connectionId, job, attempt, isReset⟩ : AttemptContext)) input after)
      (attempting m input budget isReset job) := by
    rw [run_set_bind]
    refine mandatory (.createAttempt _ budget job isReset) (fun (attempt : Nat) => ?_)
      fun e => given _ _
    rw [run_set_bind]
    refine mandatory (.startJob _ budget ⟨m.connectionId, job, attempt, isReset⟩) (fun _ => ?_)
      fun e => given _ _
    exact opened _ _
  unfold Manager.openAttempt opening
  rw [run_get_bind]
  cases input.jobId with
  | some job => exact attempted job
  | none => exact mandatory (.createJob input budget isReset) attempted fun e => given _ _

theorem attemptJob (h : Closes m false after) (resetRequested : Bool) :
    Follows m (run (m.attemptJob resetRequested) input after)
      (hydratingAttempt input (input.resetConnection || resetRequested)) := by
  unfold Manager.attemptJob
  rw [run_get_bind, run_optional_bind]
  refine .at (hydratingAttempt input _) _ fun (budget : Except _ (Option RetryBudget)) => ?_
  rw [run_bind]
  refine openAttempt _ _ (fun input context => ?_) h.recovering
  dsimp only [onward, enter]
  rw [run_ask_bind]
  refine .at (registering input _ context) _ fun _ => ?_
  rw [run_observing_bind]
  refine runAttempt fun outcome => ?_
  rw [run_ask_bind]
  refine .at (releasing input _ context outcome) _ fun found => ?_
  obtain ⟨_, control⟩ := found
  cases outcome with
  | error failure => exact h.recovering input failure
  | ok outcome =>
    cases outcome with
    | succeeded output => exact reportSuccess h _ context output
    | cancelled => exact reportCancelled h [] none
    | failed failures partialSuccess =>
      show Follows m (run (ite _ _ _) input after) (ite _ _ _)
      dsimp only
      split
      · exact reportCancelled h failures (some partialSuccess)
      · exact reportFailure h _ failures partialSuccess

/-! ### Generations -/

structure Concludes (m : Manager) (after : After GenerationEnd (Option RunInput)) : Prop where
  stopped : ∀ input, Follows m (after (.ok .deleted) input) .stopped
  ending : ∀ input, Follows m (after (.ok .next) input) (ending input)
  recovering : ∀ input failure, Follows m (after (.error failure) input) (recovering input failure)

theorem failStaleJob (job : JobId) (jobs : List JobId)
    (cleaned : Follows m (after (.ok ()) input) (cleaning m input jobs))
    (given : ∀ failure, Follows m (after (.error failure) input) (recovering input failure)) :
    Follows m (run (m.failStaleJob job) input after) (trying m (.getStale input job jobs)) := by
  refine mandatory (.getStale input job jobs) (fun (record : Job) => ?_) fun e => given _
  rw [run_bind]
  show Follows m _ (failingStale m input job jobs record.runningAttempts)
  induction record.runningAttempts with
  | nil => exact retrying (.failStaleJob input job jobs) _ 0 (fun _ => cleaned) fun e => given _
  | cons attempt attempts ih =>
    rw [List.forM, run_bind, run_ask_bind]
    refine .at (timingStale input job attempt attempts jobs) _ fun (now : Timestamp) => ?_
    exact retrying (.failStaleAttempt input job attempt attempts jobs now) _ 0 (fun _ => ih)
      fun e => given _

theorem cleanJobs (cleaned : Follows m (after (.ok ()) input) (hydrating input))
    (given : ∀ failure, Follows m (after (.error failure) input) (recovering input failure)) :
    Follows m (run m.cleanJobs input after) (trying m (.listStale input)) := by
  refine mandatory (.listStale input) (fun (stale : List JobId) => ?_) fun e => given _
  show Follows m _ (cleaning m input stale)
  induction stale with
  | nil => exact cleaned
  | cons job jobs ih =>
    rw [List.forM, run_bind]
    exact failStaleJob job jobs ih given

theorem generation {after : After GenerationEnd (Option RunInput)} (h : Concludes m after) :
    Follows m (run m.generation input after) (beginning input) := by
  have closes (e : GenerationEnd) (last : Bool)
      (ended : ∀ input, Follows m (after (.ok e) input) (leaving last input)) :
      Closes m last (onward (fun _ => pure e) after) :=
    ⟨ended, h.recovering⟩
  have waited : Follows m (run (do
      let budget : Option RetryBudget ← optional (.hydrate input.jobId) none
      let untilNext : Duration ← m.mandatory .timeUntilNextRun
      ask (.wait (waitingTime input budget untilNext) .schedule)
      let found ← enter .endWait
      let flags := found.2.flags
      if flags.deleted then
        m.reportCancelled [] none
        return .deleted
      else if flags.updated then return .next
      else if flags.cancelled then
        m.reportCancelled [] none
        return .next
      else
        m.attemptJob flags.resetRequested
        return .next) { input with skipScheduling := false } after)
      (hydrating { input with skipScheduling := false }) := by
    rw [run_optional_bind]
    refine .at (hydrating { input with skipScheduling := false }) _
      fun (budget : Except _ (Option RetryBudget)) => ?_
    refine mandatory (.untilNextRun _ _) (fun (untilNext : Duration) => ?_)
      fun e => h.recovering _ _
    rw [run_ask_bind]
    refine .at (waiting _ _) _ fun _ => ?_
    dsimp only [enter]
    rw [run_ask_bind]
    refine .at (endingWait _) _ fun found => ?_
    obtain ⟨_, control⟩ := found
    simp only [next]
    split
    · rw [run_bind]
      exact reportCancelled (closes .deleted true h.stopped) [] none
    split
    · exact h.ending _
    split
    · rw [run_bind]
      exact reportCancelled (closes .next false h.ending) [] none
    · rw [run_bind]
      exact attemptJob (closes .next false h.ending) _
  unfold Manager.generation enter
  rw [run_get_bind, run_ask_bind]
  refine .at (beginning input) _ fun _ => ?_
  rw [run_set_bind]
  simp only [next]
  split
  · rw [run_bind]
    exact cleanJobs waited fun failure => h.recovering _ failure
  · exact waited

theorem finish : Follows m (finish input) (ending input) := by
  refine .at (ending input) _ fun found => ?_
  obtain ⟨before, _⟩ := found
  show Follows m (if before.flags.deleted then .done none else .done (some _)) (ite _ _ _)
  split
  · exact .stopped
  · exact .between _

theorem recover (failure : ActivityFailure) :
    Follows m ((m.recover failure input).bind Manager.finish) (recovering input failure) := by
  refine .at (recovering input failure) _ fun _ => ?_
  simp only [next]
  cases input.jobId with
  | none => exact finish
  | some job =>
    refine .at (timingRecovery input job failure) _ fun (now : Timestamp) => ?_
    refine .at (failingAttempt input job failure now) _ fun _ => ?_
    exact .at (failingJob job failure) _ fun _ => finish

/-- A whole turn goes through the stations of a generation. -/
theorem turn : Follows m (m.turn input) (beginning input) := by
  show Follows m (run m.generation input m.settle) (beginning input)
  exact generation ⟨fun _ => .stopped, fun _ => finish, fun _ failure => recover failure⟩

end Follows

end ConnectorSync.Sync
