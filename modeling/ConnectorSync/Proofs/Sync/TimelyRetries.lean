import ConnectorSync.Proofs.Sync.Replay
import ConnectorSync.Proofs.Sync.RetryTiming

/-!
# Retries on time

A job that has failed is attempted again at the tick at which its delay is over, and never if that
is beyond the clock. Until then nothing becomes of it, and the next attempt stays within reach.
-/

namespace ConnectorSync.Sync

/-! ### Before the next attempt -/

inductive TimedWorld.Pends (template : Option RetryBudget) (w : TimedWorld) (job : JobId)
    (recorded : Nat) (untilNext : Duration) : Spot → Prop
  | waiting (input : RunInput) (span : Duration) (again : w.Retries template input job)
    (waits : w.Waits template recorded untilNext span) :
    Pends template w job recorded untilNext (.at (.waiting input span))
  | endingWait (input : RunInput) (again : w.Retries template input job)
    (due : w.IsDue template) : Pends template w job recorded untilNext (.at (.endingWait input))
  | hydrating (input : RunInput) (isReset : Bool) (again : w.Retries template input job)
    (due : w.IsDue template) :
    Pends template w job recorded untilNext (.at (.hydratingAttempt input isReset))
  | creating (input : RunInput) (budget : Option RetryBudget) (isReset : Bool) (left failed : Nat)
    (holds : w.Holds template input job budget) (due : w.IsDue template) :
    Pends template w job recorded untilNext
      (.at (.calling (.createAttempt input budget job isReset) left failed))

section Pends

variable {template : Option RetryBudget} {w : TimedWorld} {spot : Spot} {recorded : Nat}
  {untilNext : Duration} {job : JobId}

theorem TimedWorld.Pends.hasJob (h : w.Pends template job recorded untilNext spot) :
    (tries w.past).job = some job := by
  cases h with
  | waiting _ _ again | endingWait _ again | hydrating _ _ again => exact again.job
  | creating _ _ _ _ _ holds => exact holds.job

theorem TimedWorld.IsDue.deadline (h : w.IsDue template)
    (failed : (tries w.past).failed = some recorded)
    (asked : (tries w.past).untilNext = some untilNext) :
    Sync.deadline recorded
      (retryDelay template (tries w.past).failures untilNext) = some w.now := by
  obtain ⟨recorded', untilNext', failed', asked', due⟩ := h
  obtain rfl := Option.some.inj (failed.symm.trans failed')
  obtain rfl := Option.some.inj (asked.symm.trans asked')
  exact due

/-- What is told of a failure is told while its job waits to be attempted again. -/
theorem Spot.Times.pends (h : spot.Times template w)
    (failed : (tries w.past).failed = some recorded)
    (asked : (tries w.past).untilNext = some untilNext) :
    ∃ job, w.Pends template job recorded untilNext spot := by
  have settled {P : Prop} (none : (tries w.past).failed = none) : P := by
    cases none.symm.trans failed
  have early {P : Prop} (just : w.JustFailed) : P := by
    cases just.untilNext.symm.trans asked
  have setsOut {input : RunInput} {P : Prop} (h : w.SetsOut template input) : P := by
    rcases h with idle | ⟨job, -, just⟩
    · exact settled idle.failed
    · exact early just
  cases spot with
  | between input => exact setsOut h
  | stopped => exact settled h.failed
  | «at» station =>
    cases station with
    | beginning | hydrating | ending => exact setsOut h
    | calling task left tried =>
      cases task with
      | listStale | getStale | failStaleAttempt | failStaleJob | startJob | lastFailure | succeed
      | failAttempt | autoDisable => exact settled h.failed
      | untilNextRun input budget =>
        rcases h with idle | ⟨job, -, just, -⟩
        · exact settled idle.failed
        · exact early just
      | createJob => exact settled h.1.failed
      | createAttempt input budget job isReset =>
        obtain ⟨holds, first | due⟩ := h
        · exact settled first
        · exact ⟨job, .creating input budget isReset left tried holds due⟩
      | cancelJob => exact h.elim fun _ flies => settled flies.failed
      | failJob => exact early h.2
    | waiting input span =>
      rcases h with idle | ⟨job, recorded', untilNext', again, waits⟩
      · exact settled idle.failed
      · obtain rfl := Option.some.inj (failed.symm.trans waits.failed)
        obtain rfl := Option.some.inj (asked.symm.trans waits.asked)
        exact ⟨job, .waiting input span again waits⟩
    | endingWait input =>
      rcases h with idle | ⟨job, again, due⟩
      · exact settled idle.failed
      · exact ⟨job, .endingWait input again due⟩
    | hydratingAttempt input isReset =>
      rcases h with ⟨idle, -⟩ | ⟨job, again, due⟩
      · exact settled idle.failed
      · exact ⟨job, .hydrating input isReset again due⟩
    | timingStale | registering | looking | checking | executing | timingError | persistingSuccess
    | recordingSuccess | lookingBack | checkingProgress => exact settled h.failed
    | releasing => exact settled h.1.failed
    | timingCancel => exact h.elim fun _ flies => settled flies.failed
    | persistingFailure | askingMost | recordingFailure => exact early h.2
    | pausing | recovering | timingRecovery | failingAttempt | failingJob => exact h.elim

/-- The clock has not gone beyond the tick at which the delay is over. -/
theorem TimedWorld.Pends.now_le {due : Nat} (h : w.Pends template job recorded untilNext spot)
    (failed : (tries w.past).failed = some recorded)
    (asked : (tries w.past).untilNext = some untilNext)
    (here : deadline recorded (retryDelay template (tries w.past).failures untilNext) = some due) :
    w.now ≤ due := by
  have arrived (isDue : w.IsDue template) : w.now ≤ due :=
    Nat.le_of_eq (Option.some.inj ((isDue.deadline failed asked).symm.trans here))
  cases h with
  | waiting input span again waits =>
    cases begun : w.wait with
    | none =>
      rw [waits.unbegun begun, eq_of_deadline here]
      exact Nat.le_add_right _ _
    | some wait =>
      obtain ⟨same, within, -⟩ := waits.begun begun
      exact within due (by rw [same, waits.delay, here])
  | endingWait _ _ isDue | hydrating _ _ _ isDue | creating _ _ _ _ _ _ isDue =>
    exact arrived isDue

end Pends

/-! ### The next attempt -/

/-- The open job can be attempted again at a tick, and nothing becomes of it before that. -/
def TimedMoment.CanRetryAt (m : Manager) (tick : Nat) (job : JobId) (a : TimedMoment) : Prop :=
  ∃ b n earlier, a.Steps m b ∧
    b.world.past = (tick, .told (.call (.createAttempt job)) (.ok n)) :: earlier ∧
    tries earlier = tries a.world.past

namespace TimedMoment

variable {m : Manager} {a b : TimedMoment} {tick : Nat} {job : JobId} {input : RunInput}

theorem CanRetryAt.of_step (h : b.CanRetryAt m tick job) (step : a.Step m b)
    (same : tries b.world.past = tries a.world.past) : a.CanRetryAt m tick job := by
  obtain ⟨last, n, earlier, steps, past, unchanged⟩ := h
  exact ⟨last, n, earlier, .head step steps, past, unchanged.trans same⟩

/-- Once a request is answered a manager goes on from there. -/
theorem CanRetryAt.of_answer {station : Station} {w : TimedWorld}
    {answer : (station.request m).Answer} (follows : Follows m a.rest station)
    (answers : a.world.Answers (station.request m) answer w)
    (same : tries (w.note (station.request m) answer).past = tries a.world.past)
    (next : ∀ rest, Follows m rest (station.next m answer) →
      CanRetryAt m tick job ⟨rest, w.note (station.request m) answer⟩) :
    a.CanRetryAt m tick job := by
  obtain ⟨⟨rest, _⟩, step, follows, rfl⟩ := step_answer follows answers
  exact (next rest follows).of_step step same

theorem canRetry_of_creating {budget : Option RetryBudget} {isReset : Bool} {left failed : Nat}
    (follows : Follows m a.rest
      (Station.calling (.createAttempt input budget job isReset) left failed))
    (now : a.world.now = tick) : a.CanRetryAt m tick job := by
  obtain ⟨b, step, -, world⟩ := step_answer follows (.carried (.createAttempt job) (1 : Nat) _ rfl)
  refine ⟨b, 1, a.world.past, .single step, ?_, rfl⟩
  rw [world, ← now]
  rfl

theorem canRetry_of_hydrating {isReset : Bool}
    (follows : Follows m a.rest (Station.hydratingAttempt input isReset))
    (hasJob : input.jobId = some job) (now : a.world.now = tick) : a.CanRetryAt m tick job := by
  refine .of_answer follows (.carried (.hydrate input.jobId) _ _ ⟨rfl, rfl⟩) rfl
    fun rest follows => ?_
  have next : Follows m rest (Station.opening m input _ isReset) := follows
  unfold Station.opening at next
  rw [hasJob] at next
  exact canRetry_of_creating next now

theorem canRetry_of_endingWait (follows : Follows m a.rest (Station.endingWait input))
    (hasJob : input.jobId = some job) (calm : a.world.control.flags.Calm)
    (now : a.world.now = tick) : a.CanRetryAt m tick job := by
  refine .of_answer follows (.entered .endWait) rfl fun rest follows => ?_
  rw [calm.next_endingWait] at follows
  exact canRetry_of_hydrating follows hasJob now

theorem canRetry_of_ended {span : Duration} {due : Option Nat}
    (follows : Follows m a.rest (Station.waiting input span)) (hasJob : input.jobId = some job)
    (calm : a.world.control.flags.Calm) (now : a.world.now = tick)
    (hasEnded : a.world.wait = some (due, .ended)) : a.CanRetryAt m tick job :=
  .of_answer follows (.waited span .schedule due hasEnded) rfl fun _ follows =>
    canRetry_of_endingWait follows hasJob calm now

/-- A manager that sleeps through its wait goes on when its time has come. -/
theorem canRetry_of_parked {span : Duration} (left : Nat)
    (follows : Follows m a.rest (Station.waiting input span)) (hasJob : input.jobId = some job)
    (calm : a.world.control.flags.Calm) (ahead : a.world.now + left = tick)
    (parked : a.world.wait = some (some tick, .parked false)) : a.CanRetryAt m tick job := by
  induction left generalizing a with
  | zero =>
    have ended : (Waiter.parked false).step .schedule a.world.control.flags
        ((some tick).any (· ≤ a.world.now)) = .ended := by
      simp [Waiter.step, ← ahead]
    have step := step_going follows (.step span .schedule _ _ parked)
    rw [ended] at step
    let later := { a.world with wait := some (some tick, .ended) }
    exact (canRetry_of_ended (a := ⟨a.rest, later⟩) follows hasJob calm ahead rfl).of_step step rfl
  | succ left ih =>
    have before (t : Nat) (same : some tick = some t) : a.world.now < t := by
      cases same
      omega
    have step := step_going follows (.tick _ ⟨_, parked, before⟩)
    let later := { a.world with now := a.world.now + 1 }
    have ahead : later.now + left = tick := by
      show a.world.now + 1 + left = tick
      omega
    exact (ih (a := ⟨a.rest, later⟩) follows calm ahead parked).of_step step rfl

theorem canRetry_of_waiter {span : Duration} {rest : Talk (Option RunInput)} {w : TimedWorld}
    (waiter : Waiter) (follows : Follows m rest (Station.waiting input span))
    (hasJob : input.jobId = some job) (calm : w.control.flags.Calm)
    (undisturbed : w.control.flags.skipScheduling = false) (within : w.now ≤ tick)
    (ended : waiter = .ended → w.now = tick) (begun : w.wait = some (some tick, waiter)) :
    CanRetryAt m tick job ⟨rest, w⟩ := by
  have uninterrupted := calm.uninterrupted undisturbed
  have goes (waiter : Waiter) {next : Waiter}
      (stepped : waiter.step .schedule w.control.flags ((some tick).any (· ≤ w.now)) = next)
      (h : CanRetryAt m tick job ⟨rest, { w with wait := some (some tick, next) }⟩) :
      CanRetryAt m tick job ⟨rest, { w with wait := some (some tick, waiter) }⟩ := by
    subst stepped
    exact h.of_step (step_going (a := ⟨rest, _⟩) follows (.step span .schedule _ _ rfl)) rfl
  have parked : CanRetryAt m tick job ⟨rest, { w with wait := some (some tick, .parked false) }⟩ :=
    canRetry_of_parked (tick - w.now) follows hasJob calm (Nat.add_sub_cancel' within) rfl
  have registered (rung : Bool)
      (h : CanRetryAt m tick job ⟨rest, { w with wait := some (some tick, .parked rung) }⟩) :
      CanRetryAt m tick job ⟨rest, { w with wait := some (some tick, .registered rung) }⟩ :=
    goes _ (by simp [Waiter.step, uninterrupted]) h
  -- Woken by the bell it registers anew and finds nothing that ends its wait.
  have arriving := goes .arriving rfl (registered false parked)
  have rung := goes (.parked true) rfl arriving
  have same : w = { w with wait := some (some tick, waiter) } := by rw [← begun]
  cases waiter with
  | arriving => exact same ▸ arriving
  | registered ringing =>
    cases ringing with
    | false => exact same ▸ registered false parked
    | true => exact same ▸ registered true rung
  | parked ringing =>
    cases ringing with
    | false => exact same ▸ parked
    | true => exact same ▸ rung
  | ended => exact canRetry_of_ended (a := ⟨rest, w⟩) follows hasJob calm (ended rfl) begun

/-- From wherever a manager stands before the next attempt it can come to that. -/
theorem canRetry_of_pends {template : Option RetryBudget} {spot : Spot} {recorded : Nat}
    {untilNext : Duration} (follows : Follows m a.rest spot) (calm : a.world.control.flags.Calm)
    (pends : a.world.Pends template job recorded untilNext spot)
    (failed : (tries a.world.past).failed = some recorded)
    (asked : (tries a.world.past).untilNext = some untilNext)
    (here : deadline recorded (retryDelay template (tries a.world.past).failures untilNext) =
      some tick) : a.CanRetryAt m tick job := by
  have within := pends.now_le failed asked here
  have arrived (isDue : a.world.IsDue template) : a.world.now = tick :=
    Option.some.inj ((isDue.deadline failed asked).symm.trans here)
  cases pends with
  | waiting input span again waits =>
    obtain ⟨rest, w⟩ := a
    rw [← waits.delay] at here
    cases begun : w.wait with
    | none =>
      have step := step_going (a := ⟨rest, w⟩) follows (.begin span .schedule begun)
      have due : deadline w.now span = some tick := by rw [waits.unbegun begun, here]
      rw [due] at step
      let arriving := { w with wait := some (some tick, .arriving) }
      exact (canRetry_of_waiter (w := arriving) .arriving follows again.jobId calm
        again.undisturbed within nofun rfl).of_step step rfl
    | some wait =>
      obtain ⟨due, waiter⟩ := wait
      obtain ⟨same, -, ended⟩ := waits.begun begun
      rw [here] at same
      subst same
      exact canRetry_of_waiter waiter follows again.jobId calm again.undisturbed within
        (fun hasEnded => (Option.some.inj (ended hasEnded)).symm) begun
  | endingWait input again isDue =>
    exact canRetry_of_endingWait follows again.jobId calm (arrived isDue)
  | hydrating input isReset again isDue =>
    exact canRetry_of_hydrating follows again.jobId (arrived isDue)
  | creating input budget isReset left tried holds isDue =>
    exact canRetry_of_creating follows (arrived isDue)

end TimedMoment

/-! ### Delays beyond the clock -/

/-- A wait that outlasts the clock is never over, and nothing becomes of the job. -/
theorem tries_of_step {m : Manager} {template : Option RetryBudget} {a b : TimedMoment}
    {spot : Spot} {job : JobId} {recorded : Nat} {untilNext : Duration}
    (follows : Follows m a.rest spot) (pends : a.world.Pends template job recorded untilNext spot)
    (failed : (tries a.world.past).failed = some recorded)
    (asked : (tries a.world.past).untilNext = some untilNext)
    (never : deadline recorded
      (retryDelay template (tries a.world.past).failures untilNext) = none)
    (step : a.Step m b) : tries b.world.past = tries a.world.past := by
  have unreached {P : Prop} (isDue : a.world.IsDue template) : P := by
    cases never.symm.trans (isDue.deadline failed asked)
  cases step with
  | signal rest w free => rfl
  | ring rest w => rfl
  | going r next w w' goes => cases goes <;> rfl
  | generation input w =>
    cases follows
    cases pends
  | answer r next w w' answer answers =>
    cases pends with
    | waiting input span again waits =>
      cases follows
      cases answers with
      | waited _ _ due hasEnded =>
        obtain ⟨rfl, -, ended⟩ := waits.begun hasEnded
        have reached := ended rfl
        rw [waits.delay] at reached
        cases never.symm.trans reached
    | endingWait _ _ isDue | hydrating _ _ _ isDue | creating _ _ _ _ _ _ isDue =>
      exact unreached isDue

/-! ### Runs -/

section Runs

variable {m : Manager} {store : RetryStore} {a b : TimedMoment} {recorded : Nat}
  {untilNext : Duration}

theorem tries_of_steps (reached : a.Reachable m store)
    (failed : (tries a.world.past).failed = some recorded)
    (asked : (tries a.world.past).untilNext = some untilNext)
    (never : deadline recorded
      (retryDelay store.template (tries a.world.past).failures untilNext) = none)
    (steps : a.Steps m b) : tries b.world.past = tries a.world.past := by
  obtain ⟨start, before⟩ := reached
  induction steps with
  | refl => rfl
  | tail steps step ih =>
    obtain ⟨spot, follows, -, times⟩ := times_reachable ⟨start, before.trans steps⟩
    rw [← ih] at failed asked never
    obtain ⟨job, pends⟩ := times.pends failed asked
    exact (tries_of_step follows pends failed asked never step).trans ih

theorem OnTime.isDue {template : Option RetryBudget} {created n : Nat} {job : JobId}
    {later earlier past : List (Nat × Event)} (h : OnTime template past)
    (split : past = later ++ (created, .told (.call (.createAttempt job)) (.ok n)) :: earlier)
    (failed : (tries earlier).failed = some recorded) :
    (tries earlier).job = some job ∧ (tries earlier).IsDue template created := by
  subst split
  induction later with
  | nil => exact h.1 job n recorded rfl failed
  | cons e later ih => exact ih h.2

/-- An attempt of a job that has failed is created at the tick at which the delay is over that the
policy says for the failures without progress so far, but at the latest when the next run is due;
without a policy at the tick of the failure. Until then nothing becomes of the job, and it can be
attempted then; if the delay is beyond the clock, nothing ever does. The delay is exact if the
intervals are whole numbers of ticks. -/
theorem retried_on_time (reached : a.Reachable m store) :
    (∀ later created job n earlier recorded, a.world.past =
        later ++ (created, .told (.call (.createAttempt job)) (.ok n)) :: earlier →
      (tries earlier).failed = some recorded →
      (tries earlier).job = some job ∧ ∃ untilNext, (tries earlier).untilNext = some untilNext ∧
        let delay := retryDelay store.template (tries earlier).failures untilNext
        deadline recorded delay = some created ∧
          (store.IsWhole → untilNext.IsWhole ∨ untilNext = .longest →
            1000000 * created = 1000000 * recorded + delay.total)) ∧
    ∀ recorded untilNext, (tries a.world.past).failed = some recorded →
      (tries a.world.past).untilNext = some untilNext →
      let delay := retryDelay store.template (tries a.world.past).failures untilNext
      (∀ due, deadline recorded delay = some due → a.world.now ≤ due ∧
        ∃ job, (tries a.world.past).job = some job ∧ a.CanRetryAt m due job) ∧
      (deadline recorded delay = none →
        ∀ b, a.Steps m b → tries b.world.past = tries a.world.past) := by
  obtain ⟨spot, follows, keeps, times⟩ := times_reachable reached
  refine ⟨fun later created job n earlier recorded split failed => ?_,
    fun recorded untilNext failed asked => ⟨fun due here => ?_, fun never b steps => ?_⟩⟩
  · obtain ⟨hasJob, recorded', untilNext, failed', asked, due⟩ := keeps.onTime.isDue split failed
    obtain rfl := Option.some.inj (failed.symm.trans failed')
    refine ⟨hasJob, untilNext, asked, due, fun whole next => ?_⟩
    rw [eq_of_deadline due, ← (whole.retryDelay next _).ticks]
    omega
  · obtain ⟨job, pends⟩ := times.pends failed asked
    exact ⟨pends.now_le failed asked here, job, pends.hasJob,
      TimedMoment.canRetry_of_pends follows keeps.calm pends failed asked here⟩
  · exact tries_of_steps reached failed asked never steps

/-- Two milliseconds before the second attempt, and twice as long before each one after it. -/
def RetryStore.doubling : RetryStore where
  template := some { backoff := some ⟨.ofMillis 2, .ofMillis 10, 2⟩ }

/-- The second attempt of a job has failed too, in the fifth tick; a run is due every third tick. -/
def TimedMoment.twiceFailed : TimedMoment :=
  play .sample (.ofMillis 3) 60 (first .sample 0 .doubling)

theorem thirdAttempt_on_time :
    ∃ b n earlier, TimedMoment.twiceFailed.Steps .sample b ∧
      b.world.past = (8, .told (.call (.createAttempt 1)) (.ok n)) :: earlier ∧
      (tries earlier).failed = some 5 ∧ (tries earlier).failures = 2 ∧
      1000000 * 8 =
        1000000 * 5 + (retryDelay RetryStore.doubling.template 2 (.ofMillis 3)).total := by
  have reached : TimedMoment.twiceFailed.Reachable .sample .doubling :=
    ⟨0, TimedMoment.steps_play _ _ _ _⟩
  have failures : (tries TimedMoment.twiceFailed.world.past).failures = 2 := by decide +kernel
  have failed : (tries TimedMoment.twiceFailed.world.past).failed = some 5 := by decide +kernel
  have asked : (tries TimedMoment.twiceFailed.world.past).untilNext = some (.ofMillis 3) := by
    decide +kernel
  have isOpen : (tries TimedMoment.twiceFailed.world.past).job = some 1 := by decide +kernel
  have here : deadline 5 (retryDelay RetryStore.doubling.template 2 (.ofMillis 3)) = some 8 := by
    decide +kernel
  obtain ⟨due, -⟩ := (retried_on_time reached).2 5 _ failed asked
  rw [failures] at due
  obtain ⟨-, job, hasJob, b, n, earlier, steps, past, same⟩ := due 8 here
  obtain rfl := Option.some.inj (isOpen.symm.trans hasJob)
  rw [← same] at failures failed asked
  obtain ⟨start, before⟩ := reached
  obtain ⟨-, untilNext, asked', -, timed⟩ :=
    (retried_on_time ⟨start, before.trans steps⟩).1 [] 8 1 n earlier 5 past failed
  obtain rfl := Option.some.inj (asked.symm.trans asked')
  rw [failures] at timed
  have whole : RetryStore.doubling.IsWhole := by
    intro policy same
    cases same
    exact ⟨by decide, by decide⟩
  exact ⟨b, n, earlier, steps, past, failed, failures, timed whole (.inl (by decide))⟩

end Runs

end ConnectorSync.Sync
