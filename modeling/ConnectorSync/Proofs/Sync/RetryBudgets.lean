import ConnectorSync.Proofs.Sync.Fitting
import ConnectorSync.Proofs.Sync.Replay
import ConnectorSync.Proofs.Sync.RetryLedger

/-!
# Retry budgets

While the budgets are kept, the one that a manager holds at a station is the one that the ledger
tells of its job. So a job is given up for too many failures just when they exceed a limit, and no
job is attempted more often than its budget, or without budgets the number of attempts, allows.
-/

namespace ConnectorSync.Sync

/-! ### What is asked of the surroundings -/

/-- A budget that is asked for is the one in the store, and one that is to be kept is kept. -/
def Event.honours (store : RetryStore) : Event → Bool
  | .told (.call (.hydrate job)) (.ok budget) => budget = store.hydrate job
  | .told (.call (.hydrate _)) (.error _) | .told (.call (.persist ..)) (.error _) => false
  | _ => true

/-- The budgets were kept in a store, which is given as it was at first. -/
def budgetsKept (first : RetryStore) : List Event → Bool
  | [] => true
  | e :: past => e.honours (ledger first past).store && budgetsKept first past

def Event.allowsMost (most : Nat) : Event → Bool
  | .told (.call .maxAttempts) (.ok n) => n = most
  | .told (.call .maxAttempts) (.error _) => false
  | _ => true

/-- Whenever it was asked, the number of attempts was the same. -/
def MostIs (most : Nat) (past : List Event) : Prop := ∀ e ∈ past, e.allowsMost most

instance (most : Nat) (past : List Event) : Decidable (MostIs most past) :=
  inferInstanceAs (Decidable (∀ e ∈ past, _))

/-! ### Stations -/

namespace Ledger

variable (most : Nat) (id : Uuid) (l : Ledger)

structure Opens (job : JobId) (budget : Option RetryBudget) : Prop where
  settled : (l.tally job).attempts = (l.tally job).complete + (l.tally job).incomplete
  allowed : l.Allows most job
  budget : budget = l.budget job

def Holds (input : RunInput) : Prop :=
  ∀ job, input.jobId = some job → l.Opens most job (l.store.hydrate (some job))

structure Flies (input : RunInput) (budget : Option RetryBudget) (job : JobId) : Prop where
  unsettled : (l.tally job).attempts = (l.tally job).complete + (l.tally job).incomplete + 1
  budget : budget = l.budget job
  numbered : (l.tally job).attempts ≤ input.attempt

structure Fails (job : JobId) (summary : FailureSummary) : Prop where
  settled : (l.tally job).attempts = (l.tally job).complete + (l.tally job).incomplete
  summary : (l.tally job).summary = some summary

structure Rules (job : JobId) (summary : FailureSummary) (withinLimits : Bool) : Prop
    extends l.Fails job summary where
  stored : l.store.hydrate (some job) = l.budget job
  allowed : withinLimits = true → l.Allows most job
  exceeded : l.store.template.isSome → withinLimits = false → ¬ l.Allows most job

def Blames (job : JobId) (reason : String) : Prop :=
  (∃ summary, (l.tally job).summary = some summary ∧ Station.isConfigError summary ∧
      reason = (summary.failures.head?.bind (·.internalMessage)).getD "Unknown failure reason") ∨
    reason = Manager.tooManyRetries id ∧ (l.store.template.isSome → ¬ l.Allows most job)

variable {most id l}

theorem Opens.lt_mostAttempts {job : JobId} {budget : Option RetryBudget}
    (h : l.Opens most job budget) : (l.tally job).attempts < l.mostAttempts most := by
  obtain ⟨settled, allowed, -⟩ := h
  unfold Allows at allowed
  unfold mostAttempts
  split at allowed
  · omega
  · exact allowed

theorem opens_of_unused {job : JobId} (unused : l.tally job = {}) :
    l.Opens most job (l.store.hydrate none) := by
  refine ⟨?_, ?_, ?_⟩
  · rw [unused]
    rfl
  · unfold Allows
    rw [unused]
    split
    · exact ⟨Nat.zero_le _, Nat.zero_le _⟩
    · exact Nat.lt_of_lt_of_le Nat.zero_lt_one (Nat.le_max_left ..)
  · unfold budget
    rw [unused]
    rfl

theorem Opens.attempted {input : RunInput} {job : JobId} {budget : Option RetryBudget} {n : Nat}
    (h : l.Opens most job budget) (numbered : (l.tally job).attempts < n) :
    (l.count job Tally.attempt).Flies { input with attempt := n } budget job where
  unsettled := by
    rw [tally_count_self]
    exact congrArg (· + 1) h.settled
  budget := by
    unfold Ledger.budget
    rw [tally_count_self]
    exact h.budget
  numbered := by
    rw [tally_count_self]
    exact numbered

section Failed

variable {input : RunInput} {budget : Option RetryBudget} {job : JobId} {summary : FailureSummary}

theorem Flies.failed (h : l.Flies input budget job) (madeProgress : Bool) :
    let l' := l.count job fun t => t.fail (if madeProgress then .incomplete else .failed) summary
    l'.Fails job summary ∧ budget.map (·.recordFailure madeProgress) = l'.budget job := by
  obtain ⟨unsettled, rfl, -⟩ := h
  refine ⟨⟨?_, ?_⟩, ?_⟩
  · rw [tally_count_self]
    cases madeProgress <;> simp only [Tally.fail] <;> simp <;> omega
  · rw [tally_count_self]
    cases madeProgress <;> rfl
  · unfold Ledger.budget
    rw [Option.map_map, tally_count_self]
    refine congrArg (Option.map · _) (funext fun b => ?_)
    show (b.spent _ _).recordFailure madeProgress = _
    rw [RetryBudget.recordFailure_spent]
    cases madeProgress <;> rfl

theorem hydrate_persist (store : RetryStore) (job : JobId) (kept : RetryBudget) :
    (store.persist job kept).hydrate (some job) = store.template.map fun _ => kept := by
  simp [RetryStore.hydrate, RetryStore.persist, RetryStore.find?]

/-- The budget that is kept after a failure settles whether there is another attempt. -/
theorem Fails.kept {kept : RetryBudget} (h : l.Fails job summary)
    (told : some kept = l.budget job)
    (limited : ∀ b, l.store.template = some b → b.limits.CanBeExceeded) :
    ({ l with store := l.store.persist job kept } : Ledger).Rules most job summary
      kept.shouldRetry := by
  obtain ⟨b, template, rfl⟩ := Option.map_eq_some_iff.1 told.symm
  have allows : ({ l with store := l.store.persist job (b.spent (l.tally job).complete
      (l.tally job).incomplete) } : Ledger).Allows most job ↔
      (b.spent (l.tally job).complete (l.tally job).incomplete).shouldRetry = true := by
    rw [RetryBudget.shouldRetry_spent (limited b template)]
    unfold Allows
    simp only [RetryStore.persist, template]
  refine ⟨⟨h.settled, h.summary⟩, ?_, allows.2, fun _ exceeded allowed => ?_⟩
  · exact (hydrate_persist ..).trans (by simp [template, Ledger.budget, RetryStore.persist])
  · rw [allows.1 allowed] at exceeded
    cases exceeded

theorem Fails.unlimited {within : Bool} (h : l.Fails job summary) (none : l.store.template = none)
    (fewer : within = true → (l.tally job).attempts < most) :
    l.Rules most job summary within := by
  refine ⟨h, ?_, fun allowed => ?_, fun some => ?_⟩
  · simp [RetryStore.hydrate, Ledger.budget, none]
  · have less := fewer allowed
    simp only [Allows, none]
    omega
  · simp [none] at some

theorem Rules.opens {within : Bool} (h : l.Rules most job summary within)
    (allowed : within = true) :
    l.Opens most job (l.store.hydrate (some job)) :=
  ⟨h.settled, h.allowed allowed, h.stored⟩

end Failed

theorem holds_of_none {input : RunInput} (none : input.jobId = none) : l.Holds most input := by
  intro job some
  rw [none] at some
  cases some

end Ledger

def Task.Balances (most : Nat) (id : Uuid) (l : Ledger) : Task → Prop
  | untilNextRun input _ => l.Holds most input
  | createJob _ budget _ => budget = l.store.hydrate none
  | createAttempt _ budget job _ => l.Opens most job budget
  | startJob input budget context | lastFailure input budget context =>
    l.Flies input budget context.jobId
  | failAttempt input budget job .. => l.Flies input budget job
  | failJob _ job reason => l.Blames most id job reason
  | listStale _ | getStale .. | failStaleAttempt .. | failStaleJob .. | succeed .. | cancelJob ..
  | autoDisable _ => True

def Station.Balances (most : Nat) (id : Uuid) (l : Ledger) : Station → Prop
  | calling task _ _ | pausing task _ _ => task.Balances most id l
  | beginning input | hydrating input | waiting input _ | endingWait input
  | hydratingAttempt input _ | ending input => l.Holds most input
  | registering input budget context | looking input budget context
  | checking input budget context .. | executing input budget context
  | timingError input budget context _ | releasing input budget context _ =>
    l.Flies input budget context.jobId
  | checkingProgress input budget job .. => l.Flies input budget job
  | persistingFailure _ budget job summary => l.Fails job summary ∧ some budget = l.budget job
  | askingMost input job summary =>
    l.Fails job summary ∧ l.store.template = none ∧ (l.tally job).attempts ≤ input.attempt
  | recordingFailure _ job summary withinLimits => l.Rules most job summary withinLimits
  | timingStale .. | persistingSuccess .. | recordingSuccess | timingCancel .. | lookingBack _
  | recovering .. | timingRecovery .. | failingAttempt .. | failingJob .. => True

def Spot.Balances (most : Nat) (id : Uuid) (l : Ledger) : Spot → Prop
  | .between input => l.Holds most input
  | .at station => station.Balances most id l
  | .stopped => True

namespace Station

variable {most : Nat} {id : Uuid} {m : Manager} {l : Ledger} {c : Course} {input : RunInput}
  {budget : Option RetryBudget}

theorem cleaning_balances (jobs : List JobId) (none : input.jobId = none) :
    (cleaning m input jobs).Balances most id l := by
  cases jobs with
  | nil => exact Ledger.holds_of_none none
  | cons job jobs => exact trivial

theorem failingStale_balances (job : JobId) (jobs : List JobId) (attempts : List Nat) :
    (failingStale m input job jobs attempts).Balances most id l := by
  cases attempts <;> exact trivial

theorem leaving_balances (last : Bool) (none : input.jobId = none) :
    (leaving last input).Balances most id l := by
  cases last with
  | false => exact Ledger.holds_of_none none
  | true => exact trivial

theorem cancelling_balances (failures : List FailureReason) (partialSuccess : Option Bool)
    (last : Bool) : (cancelling input failures partialSuccess last).Balances most id l := by
  unfold cancelling
  split
  · next none => exact leaving_balances last none
  · exact trivial

theorem checkingSides_balances {context : AttemptContext}
    (h : l.Flies input budget context.jobId) (sides : List Side) :
    (checkingSides input budget context sides).Balances most id l := by
  cases sides <;> exact h

theorem opening_balances (isReset : Bool) (h : l.Holds most input)
    (told : budget = l.store.hydrate input.jobId) :
    (opening m input budget isReset).Balances most id l := by
  unfold opening
  split
  · next job some =>
    rw [some] at told
    rw [told]
    exact h job some
  · next none =>
    rw [none] at told
    exact told

theorem reporting_balances {context : AttemptContext} (h : l.Flies input budget context.jobId)
    (hasJob : input.jobId = some context.jobId) (flags : Flags) (outcome : AttemptOutcome) :
    (reporting m input budget context flags outcome).Balances most id l := by
  cases outcome with
  | succeeded output => exact trivial
  | cancelled => exact cancelling_balances ..
  | failed failures partialSuccess =>
    unfold reporting
    dsimp only
    split
    · exact cancelling_balances ..
    · unfold failing
      rw [hasJob]
      exact h

theorem limiting_balances {job : JobId} {summary : FailureSummary} (h : l.Fails job summary)
    (told : budget = l.budget job) (numbered : (l.tally job).attempts ≤ input.attempt) :
    (limiting input job summary budget).Balances most id l := by
  cases budget with
  | some budget => exact ⟨h, told⟩
  | none => exact ⟨h, Option.map_eq_none_iff.1 told.symm, numbered⟩

theorem givenUp_balances (task : Task) (error : ActivityError) (h : task.Balances most id l) :
    (givenUp task error).Balances most id l := by
  cases task with
  | lastFailure input budget context => exact h
  | _ => exact trivial

def Counts (l : Ledger) : (r : Request) → r.Answer → Prop
  | .call (.createJob _), .ok job => l.tally job = {}
  | .call (.createAttempt job), .ok n => (l.tally job).attempts < n
  | _, _ => True

theorem carried_balances (task : Task) (reply : task.call.Reply) (fits : task.Fits c)
    (h : task.Balances most id l) (counts : Counts l (.call task.call) (.ok reply)) :
    (carried m task reply).Balances most id (l.after (.told (.call task.call) (.ok reply))) := by
  cases task with
  | listStale input => exact cleaning_balances _ fits.2
  | getStale input job jobs => exact failingStale_balances ..
  | failStaleAttempt input job attempt attempts jobs now => exact failingStale_balances ..
  | failStaleJob input job jobs => exact cleaning_balances _ fits.2
  | untilNextRun input budget => exact h
  | createJob input budget isReset =>
    obtain rfl := h
    exact Ledger.opens_of_unused counts
  | createAttempt input budget job isReset => exact Ledger.Opens.attempted h counts
  | startJob input budget context => exact h
  | lastFailure input budget context =>
    exact checkingSides_balances h _
  | succeed input budget context output =>
    cases budget <;> exact trivial
  | cancelJob input job summary last => exact trivial
  | failAttempt input budget job madeProgress summary =>
    obtain ⟨fails, told⟩ := h.failed madeProgress
    have same : ((l.count job fun t =>
        t.fail (if madeProgress then .incomplete else .failed) summary).tally job).attempts =
        (l.tally job).attempts := by
      rw [Ledger.tally_count_self, Tally.attempts_fail]
    exact limiting_balances fails told (Nat.le_trans (Nat.le_of_eq same) h.numbered)
  | failJob input job reason => exact trivial
  | autoDisable input => exact Ledger.holds_of_none rfl

theorem recordingFailure_balances {job : JobId} {summary : FailureSummary} {withinLimits : Bool}
    (h : l.Rules most job summary withinLimits) (hasJob : input.jobId = some job)
    (answer : Control × Control) :
    ((recordingFailure input job summary withinLimits).next m answer).Balances most m.connectionId
      l := by
  simp only [next]
  split
  · next again =>
    obtain ⟨allowed, -⟩ := Bool.and_eq_true_iff.1 again
    intro job' some
    obtain rfl := Option.some.inj (hasJob.symm.trans some)
    exact h.opens allowed
  · next rest =>
    by_cases config : isConfigError summary
    · refine .inl ⟨summary, h.summary, config, ?_⟩
      rw [if_pos config]
    · refine .inr ⟨if_neg config, fun some => h.exceeded some ?_⟩
      simpa [config] using rest

theorem next_balances (s : Station) (a : (s.request m).Answer) (fits : s.Fits c)
    (h : s.Balances most m.connectionId l) (counts : Counts l (s.request m) a)
    (kept : (Event.told (s.request m) a).honours l.store)
    (limited : ∀ b, l.store.template = some b → b.limits.CanBeExceeded)
    (asked : l.store.template = none → (Event.told (s.request m) a).allowsMost most) :
    (s.next m a).Balances most m.connectionId (l.after (.told (s.request m) a)) := by
  cases s with
  | beginning input =>
    simp only [next]
    split
    · exact trivial
    · exact h
  | calling task left failed =>
    cases a with
    | ok reply => exact carried_balances task reply fits h counts
    | error error =>
      show Spot.Balances most m.connectionId (l.after (.told (.call task.call) (.error error))) _
      rw [Ledger.after_failed]
      cases left with
      | zero => exact givenUp_balances task error h
      | succ left => exact h
  | pausing task left failed => exact h
  | hydrating input => exact h
  | waiting input span => exact h
  | endingWait input =>
    obtain ⟨_, control⟩ := a
    simp only [next]
    split
    · exact cancelling_balances ..
    split
    · exact h
    split
    · exact cancelling_balances ..
    · exact h
  | hydratingAttempt input isReset =>
    cases a with
    | error e => cases kept
    | ok budget => exact opening_balances _ h (of_decide_eq_true kept)
  | registering input budget context => exact h
  | looking input budget context =>
    obtain ⟨control, _⟩ := a
    simp only [next]
    split <;> exact h
  | checking input budget context side sides =>
    rcases a with error | (_ | reason | _)
    · exact h
    · exact checkingSides_balances h sides
    · exact h
    · exact h
  | executing input budget context =>
    cases a <;> exact h
  | timingError input budget context error => exact h
  | releasing input budget context outcome =>
    cases outcome with
    | ok outcome => exact reporting_balances h fits.jobId _ outcome
    | error failure => exact trivial
  | checkingProgress input budget job failures partialSuccess =>
    cases a <;> exact h
  | persistingFailure input budget job summary =>
    cases a with
    | error e => cases kept
    | ok reply => exact h.1.kept h.2 limited
  | askingMost input job summary =>
    obtain ⟨fails, none, numbered⟩ := h
    have asked := asked none
    cases a with
    | error e => cases asked
    | ok n =>
      obtain rfl : n = most := of_decide_eq_true asked
      refine fails.unlimited none fun fewer => ?_
      exact Nat.lt_of_le_of_lt numbered (of_decide_eq_true fewer)
  | recordingFailure input job summary withinLimits =>
    exact recordingFailure_balances h fits.jobId a
  | lookingBack last => exact leaving_balances last rfl
  | recovering input failure =>
    simp only [next]
    split
    · exact trivial
    · exact Ledger.holds_of_none rfl
  | recordingSuccess | failingJob => exact Ledger.holds_of_none rfl
  | ending input =>
    obtain ⟨before, _⟩ := a
    simp only [next]
    split
    · exact trivial
    · exact h
  | timingStale | persistingSuccess | timingCancel | timingRecovery | failingAttempt =>
    exact trivial

theorem lt_mostAttempts_of_createAttempt {s : Station} {job : JobId}
    (h : s.Balances most id l) (hr : s.request m = .call (.createAttempt job)) :
    (l.tally job).attempts < l.mostAttempts most := by
  cases s with
  | calling task left failed =>
    cases task with
    | createAttempt input budget job isReset =>
      cases hr
      exact h.lt_mostAttempts
    | _ => cases hr
  | _ => cases hr

theorem blames_of_failJob {s : Station} {job : JobId} {reason : String}
    (h : s.Balances most id l) (hr : s.request m = .call (.failJob job reason)) :
    l.Blames most id job reason ∨ reason = Manager.staleJobReason ∨
      ∃ failure : ActivityFailure, reason = failure.message := by
  cases s with
  | calling task left failed =>
    cases task with
    | failJob input job reason =>
      cases hr
      exact .inl h
    | failStaleJob =>
      cases hr
      exact .inr (.inl rfl)
    | _ => cases hr
  | failingJob job failure =>
    cases hr
    exact .inr (.inr ⟨failure, rfl⟩)
  | _ => cases hr

end Station

/-! ### Runs -/

structure World.Balances (first : RetryStore) (most : Nat) (id : Uuid) (spot : Spot) (w : World) :
    Prop where
  counts : w.Counts first
  balances : budgetsKept first w.past → (first.template = none → MostIs most w.past) →
    spot.Balances most id (ledger first w.past) ∧
      ∀ job, ((ledger first w.past).tally job).attempts ≤ (ledger first w.past).mostAttempts most

section Runs

variable {first : RetryStore} {most : Nat} {m : Manager} {a : Moment}

theorem MostIs.tail {e : Event} {past : List Event} (h : MostIs most (e :: past)) :
    MostIs most past :=
  fun e' mem => h e' (List.mem_cons_of_mem e mem)

theorem World.Balances.hear {id : Uuid} {spot : Spot} {w : World} (s : Signal)
    (h : w.Balances first most id spot) : (w.hear s).Balances first most id spot := by
  refine ⟨h.counts.hear, fun kept asked => ?_⟩
  obtain ⟨-, kept⟩ := Bool.and_eq_true_iff.1 kept
  exact h.balances kept fun none => (asked none).tail

theorem Ledger.within_after {l : Ledger} {e : Event}
    (h : ∀ job, (l.tally job).attempts ≤ l.mostAttempts most)
    (due : ∀ job n, e = .told (.call (.createAttempt job)) (.ok n) →
      (l.tally job).attempts < l.mostAttempts most) (job : JobId) :
    ((l.after e).tally job).attempts ≤ (l.after e).mostAttempts most := by
  have same : (l.after e).mostAttempts most = l.mostAttempts most := by
    unfold mostAttempts
    rw [template_after]
  rw [same]
  rcases l.attempts_after e job with unchanged | ⟨⟨n, created⟩, more⟩
  · exact Nat.le_trans (Nat.le_of_eq unchanged) (h job)
  · exact Nat.le_trans (Nat.le_of_eq more) (due job n created)

theorem World.Answers.counts {w w' : World} {r : Request} {a : r.Answer}
    (h : w.Answers m.connectionId r a w') (counted : w.Counts first) :
    Station.Counts (ledger first w.past) r a := by
  cases h with
  | carried call reply jobs effect =>
    cases call with
    | createJob isReset => exact counted.created effect
    | createAttempt job => exact counted.attempted effect
    | _ => exact trivial
  | failed call e => cases call <;> exact trivial
  | checked | executed | entered | waited | paused | timed => exact trivial

theorem balances_answer {s : Station} {w w' : World} (a : (s.request m).Answer)
    (limited : ∀ b, first.template = some b → b.limits.CanBeExceeded)
    (fits : s.Fits (course w.past)) (h : w.Balances first most m.connectionId s)
    (answers : w.Answers m.connectionId (s.request m) a w') :
    (w'.note (s.request m) a).Balances first most m.connectionId (s.next m a) := by
  refine ⟨h.counts.answer answers, fun kept asked => ?_⟩
  have past : (w'.note (s.request m) a).past = .told (s.request m) a :: w.past := by
    rw [World.note, answers.past]
  rw [past] at kept asked ⊢
  obtain ⟨honours, kept⟩ := Bool.and_eq_true_iff.1 kept
  obtain ⟨balances, within⟩ := h.balances kept fun none => (asked none).tail
  have template := template_ledger first w.past
  refine ⟨s.next_balances a fits balances (answers.counts h.counts) honours ?_ ?_, ?_⟩
  · rw [template]
    exact limited
  · intro none
    exact asked (template.symm.trans none) _ List.mem_cons_self
  · refine Ledger.within_after within fun job n created => ?_
    have asks : s.request m = .call (.createAttempt job) := by
      injection created
    exact Station.lt_mostAttempts_of_createAttempt balances asks

/-- The ledger stays in balance as long as the budgets can be used up. -/
theorem kept_balances (m : Manager) (most : Nat)
    (limited : ∀ b, first.template = some b → b.limits.CanBeExceeded) :
    Kept m fun spot w => spot.Fits (course w.past) ∧ w.Balances first most m.connectionId spot :=
  .withFits (fun s h => h.hear s) (fun h => ⟨h.counts, h.balances⟩)
    fun a fits h answers => balances_answer a limited fits h answers

variable (first) in
theorem balances_reachable (h : a.Reachable m) (most : Nat)
    (limited : ∀ b, first.template = some b → b.limits.CanBeExceeded) :
    a.Has m fun spot w =>
      spot.Fits (course w.past) ∧ w.Balances first most m.connectionId spot := by
  refine (kept_balances m most limited).reachable (fun rows => ?_) h
  refine ⟨⟨⟨rfl, rfl, rfl⟩, rfl, rfl, rfl, rfl⟩, World.Counts.first rows, fun _ _ => ⟨?_, ?_⟩⟩
  · exact Ledger.holds_of_none rfl
  · exact fun _ => Nat.zero_le _

theorem Manager.head_tooManyRetries (id : Uuid) :
    (tooManyRetries id).toList.head? = some 'J' := by
  have text (s : String) :
      ("Job failed after too many retries for connection " ++ s).toList.head? = some 'J' := by
    simp [String.toList_append]
  exact text id.render

theorem Manager.tooManyRetries_ne_stale (id : Uuid) : tooManyRetries id ≠ staleJobReason := by
  intro same
  have head := head_tooManyRetries id
  have text (s : String) :
      ("Failing job because the workflow for this connection was restarted and existing job " ++
        s).toList.head? = some 'F' := by
    simp [String.toList_append]
  rw [same] at head
  cases head.symm.trans (text "state was cleaned")

theorem Manager.tooManyRetries_ne_message (id : Uuid) (failure : ActivityFailure) :
    tooManyRetries id ≠ failure.message := by
  intro same
  have head := head_tooManyRetries id
  rw [same] at head
  simp [ActivityFailure.message, String.toList_append] at head

/-- A configuration error that a job failed with last says what a job is told that is given up for
too many failures. -/
def Tally.Misleads (t : Tally) (id : Uuid) : Prop :=
  ∃ summary, t.summary = some summary ∧ Station.isConfigError summary ∧
    summary.failures.head?.bind (·.internalMessage) = some (Manager.tooManyRetries id)

theorem attempts_le_of_budget {b : RetryBudget} (h : a.Reachable m)
    (kept : budgetsKept first a.world.past) (template : first.template = some b)
    (limited : b.limits.CanBeExceeded) (job : JobId) :
    ((ledger first a.world.past).tally job).attempts ≤
      b.limits.complete + b.limits.incomplete + 1 := by
  -- under a template the number of attempts is never asked for, so that any will do
  obtain ⟨spot, -, -, balances⟩ := balances_reachable first h 0
    fun b' other => Option.some.inj (template.symm.trans other) ▸ limited
  have within := (balances.balances kept (by simp [template])).2 job
  simpa [Ledger.mostAttempts, template_ledger, template] using within

theorem attempts_le_of_most (h : a.Reachable m) (kept : budgetsKept first a.world.past)
    (template : first.template = none) (asked : MostIs most a.world.past) (job : JobId) :
    ((ledger first a.world.past).tally job).attempts ≤ max 1 most := by
  obtain ⟨spot, -, -, balances⟩ := balances_reachable first h most
    fun b' other => by cases template.symm.trans other
  have within := (balances.balances kept fun _ => asked).2 job
  simpa [Ledger.mostAttempts, template_ledger, template] using within

theorem exceeded_of_tooManyRetries {b : RetryBudget} {job : JobId} (h : a.Reachable m)
    (kept : budgetsKept first a.world.past) (template : first.template = some b)
    (limited : b.limits.CanBeExceeded)
    (asks : a.Asks (.call (.failJob job (Manager.tooManyRetries m.connectionId)))) :
    b.limits.complete < ((ledger first a.world.past).tally job).complete ∨
      b.limits.incomplete < ((ledger first a.world.past).tally job).incomplete ∨
      ((ledger first a.world.past).tally job).Misleads m.connectionId := by
  obtain ⟨s, hr, -, balances⟩ := (balances_reachable first h 0
    fun b' other => Option.some.inj (template.symm.trans other) ▸ limited).station asks
  have balances := (balances.balances kept (by simp [template])).1
  rcases Station.blames_of_failJob balances hr with
    (⟨summary, told, config, same⟩ | ⟨-, exceeded⟩) | stale | ⟨failure, same⟩
  · refine .inr (.inr ⟨summary, told, config, ?_⟩)
    cases message : summary.failures.head?.bind (·.internalMessage) with
    | some text =>
      rw [message] at same
      exact congrArg some same.symm
    | none =>
      have head := Manager.head_tooManyRetries m.connectionId
      rw [message] at same
      rw [same] at head
      simp at head
  · have denied := exceeded (by rw [template_ledger, template]; rfl)
    simp only [Ledger.Allows, template_ledger, template] at denied
    omega
  · exact absurd stale (Manager.tooManyRetries_ne_stale _)
  · exact absurd same (Manager.tooManyRetries_ne_message _ failure)

/-- While the budgets are kept, no job is attempted more often than they allow, and a job that is
failed for too many retries has exceeded a limit, unless a configuration error says the same.
Without budgets no job is attempted more often than the number of attempts that is answered. -/
theorem attempts_bounded (first : RetryStore) (h : a.Reachable m)
    (kept : budgetsKept first a.world.past) :
    (∀ b, first.template = some b → b.limits.CanBeExceeded → ∀ job,
        ((ledger first a.world.past).tally job).attempts ≤
          b.limits.complete + b.limits.incomplete + 1 ∧
        (a.Asks (.call (.failJob job (Manager.tooManyRetries m.connectionId))) →
          b.limits.complete < ((ledger first a.world.past).tally job).complete ∨
          b.limits.incomplete < ((ledger first a.world.past).tally job).incomplete ∨
          ((ledger first a.world.past).tally job).Misleads m.connectionId)) ∧
      (first.template = none → ∀ most, MostIs most a.world.past → ∀ job,
        ((ledger first a.world.past).tally job).attempts ≤ max 1 most) :=
  ⟨fun _ template limited job => ⟨attempts_le_of_budget h kept template limited job,
      exceeded_of_tooManyRetries h kept template limited⟩,
    fun template _ asked => attempts_le_of_most h kept template asked⟩

end Runs

/-! ### A first attempt that fails -/

namespace Moment

/-- The call that waits for its answer is given a budget, if it asks for one. -/
def budgeted (store : RetryStore) : Moment → Moment
  | ⟨.ask (.call (.hydrate job)) next, w⟩ =>
    let budget := .ok ((ledger store w.past).store.hydrate job)
    ⟨next budget, w.note (.call (.hydrate job)) budget⟩
  | a => a

theorem steps_budgeted (m : Manager) (store : RetryStore) (a : Moment) :
    a.Steps m (a.budgeted store) := by
  unfold budgeted
  split
  · next job next w =>
    exact .single (.answer (.call (.hydrate job)) next w w _ (.carried _ _ _ rfl))
  · exact .refl

/-- The first attempt of a job has failed, and the failure was counted. -/
def judged (store : RetryStore) (failure : FailureReason) : Moment :=
  let parked := (replay .sample [.serve .cancelled 3]).budgeted store
  serve .sample (.failed [failure] false) 12 ((serve .sample .cancelled 3 parked).budgeted store)

theorem reachable_judged (store : RetryStore) (failure : FailureReason) :
    (judged store failure).Reachable .sample :=
  ⟨[], (steps_replay .sample _ _).trans <| (steps_budgeted .sample store _).trans <|
    (steps_serve .sample _ _ _).trans <| (steps_budgeted .sample store _).trans <|
      steps_serve .sample _ _ _⟩

end Moment

/-- No failure is put up with. -/
def RetryBudget.strict : RetryBudget where
  limits := ⟨0, 0, 0, 0⟩

/-- A failure that says what a job is told that is given up for too many. -/
def FailureReason.misleading (kind : FailureKind) : FailureReason where
  origin := .source
  kind := kind
  externalMessage := "boom"
  internalMessage := some (Manager.tooManyRetries Uuid.zero)
  timestamp := default

theorem judged_asks (store : RetryStore) (kind : FailureKind)
    (asks : (Moment.judged store (.misleading kind)).request? =
      some (.call (.failJob 1 (Manager.tooManyRetries Uuid.zero)))) :
    (Moment.judged store (.misleading kind)).Asks
      (.call (.failJob 1 (Manager.tooManyRetries Manager.sample.connectionId))) :=
  Moment.asks_of_request? asks

/-- A job is attempted twice, as often as is answered to be allowed. -/
def Moment.attemptedTwice : Moment := .replay .sample [.serve (.failed [] false) 41]

theorem attempts_bounded_judged :
    (let past := (Moment.judged { template := some .strict } (.misleading .systemError)).world.past
      let tally := (ledger { template := some .strict } past).tally 1
      tally.attempts ≤ 1 ∧
        (0 < tally.complete ∨ 0 < tally.incomplete ∨ tally.Misleads Uuid.zero)) ∧
      ((ledger {} Moment.attemptedTwice.world.past).tally 1).attempts ≤ 2 := by
  refine ⟨?_, ?_⟩
  · have bounded := attempts_bounded { template := some .strict }
      (Moment.reachable_judged { template := some .strict } (.misleading .systemError))
      (by decide +kernel)
    obtain ⟨attempts, exceeded⟩ := bounded.1 .strict rfl (by decide) 1
    exact ⟨attempts, exceeded (judged_asks _ _ (by decide +kernel))⟩
  · have bounded := attempts_bounded {}
      (Moment.reachable_replay .sample [.serve (.failed [] false) 41]) (by decide +kernel)
    exact bounded.2 rfl 2 (by decide +kernel) 1

/-- A job is failed for too many retries by what a configuration error says, after its first
attempt. -/
theorem failed_within_budget : ∃ (m : Manager) (first : RetryStore) (b : RetryBudget) (a : Moment)
    (job : JobId), a.Reachable m ∧ budgetsKept first a.world.past ∧ first.template = some b ∧
      b.limits.CanBeExceeded ∧
      a.Asks (.call (.failJob job (Manager.tooManyRetries m.connectionId))) ∧
      ((ledger first a.world.past).tally job).complete ≤ b.limits.complete ∧
      ((ledger first a.world.past).tally job).incomplete ≤ b.limits.incomplete := by
  refine ⟨.sample, { template := some {} }, {}, .judged { template := some {} }
    (.misleading .configError), 1, Moment.reachable_judged _ _, ?_, rfl, by decide, ?_, ?_, ?_⟩
  · decide +kernel
  · exact judged_asks _ _ (by decide +kernel)
  · decide +kernel
  · decide +kernel

end ConnectorSync.Sync
