import ConnectorSync.Proofs.Sync.AtHand

/-!
# Finality

What has ended stays as it is in a run, whatever fails, but for one thing: the new start after a
generation that was given up fails the attempt of that generation even if it has ended.
-/

namespace ConnectorSync.Sync

/-- Whether an event fails an attempt that is not in flight, for a generation that was given up. -/
def Event.overrules (past : List Event) : Event → Bool
  | .told (.call (.failAttempt job attempt _ _)) (.ok _) =>
    (course past).report = some .abandoned && flight past ≠ some (job, attempt)
  | _ => false

/-- Whether an attempt that was not in flight was failed for a generation given up. -/
def overruled : List Event → Bool
  | [] => false
  | e :: past => e.overrules past || overruled past

/-! ### Steps -/

section Call

variable {m : Manager} {station : Station} {w : World} {call : Call} {reply : call.Reply}
  {jobs : JobStore} {k : JobId} {n : Nat} {row : Job}

theorem overrules_of_target (past : List Event) (target : call.target = none) :
    (Event.told (.call call) (.ok reply)).overrules past = false := by
  cases call with
  | failAttempt => cases target
  | _ => rfl

theorem distinct_of_target (h : w.Surveys m.connectionId station)
    (hr : station.request m = .call call) (target : call.target = some k)
    (calm : (course w.past).report ≠ some .abandoned) (found : w.jobs.find? k = some row) :
    row.numbers.Nodup := by
  rcases Station.fits_target h.fits hr target with ⟨hasJob, going, -⟩ | ⟨free | abandoned, -⟩
  · obtain ⟨row', found', held⟩ := h.held k (Course.atHand_of_going hasJob going calm)
    rw [found] at found'
    cases found'
    exact held.distinct
  · obtain ⟨row', found', own, -⟩ :=
      h.lists.listed.isOpen k (Station.target_todo h.fits hr target free calm)
    rw [found] at found'
    cases found'
    exact h.distinct k row found own
  · exact absurd abandoned calm

theorem running_of_target {id : Uuid} {c : Course} {s : JobStore} {f : Option (JobId × Nat)}
    (stands : station.Stands False id s) (knows : station.Knows id c f s)
    (hr : station.request m = .call call)
    (kind : (∃ status summary, call = .failAttempt k n status summary) ∨
      ∃ output, call = .jobSuccess k n output)
    (found : s.find? k = some row) : n ∈ row.runningAttempts := by
  cases station with
  | calling task left failed =>
    cases hr
    cases task with
    | failStaleAttempt input job attempt attempts jobs now =>
      rcases kind with ⟨status, summary, same⟩ | ⟨output, same⟩ <;> cases same
      rw [show row.runningAttempts = n :: attempts from knows row found]
      exact List.mem_cons_self
    | succeed input budget context output =>
      rcases kind with ⟨status, summary, same⟩ | ⟨output, same⟩ <;> cases same
      rw [(stands.aloft.flies found).running]
      exact List.mem_cons_self
    | failAttempt input budget job madeProgress summary =>
      rcases kind with ⟨status, summary, same⟩ | ⟨output, same⟩ <;> cases same
      rw [(stands.flies found).running]
      exact List.mem_cons_self
    | _ => rcases kind with ⟨status, summary, same⟩ | ⟨output, same⟩ <;> cases same
  | failingAttempt => exact stands.elim
  | _ => rcases kind with ⟨status, summary, rfl⟩ | ⟨output, rfl⟩ <;> cases hr

theorem abides_of_calm (h : w.Surveys m.connectionId station)
    (hr : station.request m = .call call) (target : call.target = some k)
    (calm : (course w.past).report ≠ some .abandoned)
    (found : w.jobs.find? k = some row) : row.Abides (call.revise row) := by
  have distinct := distinct_of_target h hr target calm found
  have running {n : Nat} (kind : (∃ status summary, call = .failAttempt k n status summary) ∨
      ∃ output, call = .jobSuccess k n output) : n ∈ row.runningAttempts :=
    running_of_target (h.steady calm) h.knows hr kind found
  obtain ⟨row', found', isOpen⟩ := h.isOpen hr target calm
  rw [found] at found'
  cases found'
  cases call with
  | createAttempt job => exact Call.abides_createAttempt
  | reportJobStart job => exact Call.abides_reportJobStart isOpen
  | failAttempt job n status summary =>
    cases target
    exact Call.abides_setAttempt isOpen distinct (running (.inl ⟨_, _, rfl⟩)) rfl
  | failJob job reason => exact Call.abides_failJob (.inl isOpen)
  | jobSuccess job n output =>
    cases target
    exact Call.abides_setAttempt isOpen distinct (running (.inr ⟨_, rfl⟩)) rfl
  | jobCancelled job n summary => exact Call.abides_jobCancelled isOpen distinct
  | _ => cases target

/-- What a new start does to what has ended is settled by the attempt in flight. -/
theorem abides_iff_of_abandoned (h : w.Surveys m.connectionId station)
    (effect : call.Effect m.connectionId w.jobs reply jobs)
    (hr : station.request m = .call call) (target : call.target = some k)
    (abandoned : (course w.past).report = some .abandoned) (found : w.jobs.find? k = some row) :
    row.Abides (call.revise row) ↔
      (Event.told (.call call) (.ok reply)).overrules w.past = false := by
  rcases Station.of_abandoned h.fits abandoned hr target with
    ⟨input, failure, now, rfl⟩ | ⟨failure, rfl⟩
  · cases hr
    obtain ⟨row', found', held⟩ := h.knows
    rw [found] at found'
    cases found'
    obtain rfl := JobStore.id_of_find? found
    show _ ↔ (decide _ && decide _) = false
    rw [decide_eq_true abandoned, Bool.true_and, decide_eq_false_iff_not, not_not]
    constructor
    · intro abides
      by_contra grounded
      refine Call.not_abides_failAttempt (effect.mem_numbers found)
        (fun runs => grounded ((held.running _).1 runs)) (fun a mem ended told => ?_) abides
      obtain ⟨summary, same, partialSuccess⟩ := held.told a mem ended
      rw [told] at same
      cases same
      cases partialSuccess
    · intro flying
      obtain ⟨row', found', -, isOpen, runs⟩ := h.aloft _ _ flying
      rw [found] at found'
      cases found'
      exact Call.abides_setAttempt isOpen held.distinct runs rfl
  · cases hr
    obtain ⟨row', found', traced⟩ := h.knows
    rw [found] at found'
    cases found'
    exact iff_of_true (Call.abides_failJob traced.status) rfl

theorem abides_carried (h : w.Surveys m.connectionId station) (hr : station.request m = .call call)
    (effect : call.Effect m.connectionId w.jobs reply jobs) :
    w.jobs.Abides jobs ↔ (Event.told (.call call) (.ok reply)).overrules w.past = false := by
  cases target : call.target with
  | none =>
    exact iff_of_true (effect.abides h.sorted.numbered target) (overrules_of_target _ target)
  | some k =>
    obtain ⟨row, found, -⟩ := (effect.revises target).found
    rw [effect.abides_revise target found]
    by_cases abandoned : (course w.past).report = some .abandoned
    · exact abides_iff_of_abandoned h effect hr target abandoned found
    · refine iff_of_true (abides_of_calm h hr target abandoned found) ?_
      cases call with
      | failAttempt => simp [Event.overrules, abandoned]
      | _ => rfl

end Call

theorem abides_answer {m : Manager} {station : Station} {w w' : World} {r : Request}
    {a : r.Answer} (h : w.Surveys m.connectionId station) (hr : station.request m = r)
    (answers : w.Answers m.connectionId r a w') :
    w.jobs.Abides w'.jobs ↔ (Event.told r a).overrules w.past = false := by
  cases answers with
  | carried call reply jobs effect => exact abides_carried h hr effect
  | failed call e =>
    refine iff_of_true (.refl _) ?_
    cases call <;> rfl
  | _ => exact iff_of_true (.refl _) rfl

/-! ### Runs -/

variable {m : Manager} {a b : Moment} {rows : List Job}

theorem overruled_step (steps : Moment.Steps m (.first m rows) a)
    (distinct : ∀ row ∈ rows, row.connectionId = m.connectionId → row.numbers.Nodup)
    (step : a.Step m b) : overruled b.world.past = false ↔
      overruled a.world.past = false ∧ a.world.jobs.Abides b.world.jobs := by
  obtain ⟨spot, follows, surveys⟩ :=
    (kept_surveys m).steps steps ⟨_, .between _, surveys_first m distinct⟩
  cases step with
  | signal rest w s => exact (and_iff_left (JobStore.Abides.refl _)).symm
  | generation input w => exact (and_iff_left (JobStore.Abides.refl _)).symm
  | answer r next w w' answer answers =>
    cases follows with
    | «at» station rest hn =>
      show overruled (w'.note _ answer).past = false ↔ _
      rw [answers.past_note, overruled, Bool.or_eq_false_iff, and_comm]
      exact and_congr_right fun _ => (abides_answer surveys rfl answers).symm

/-- In a run, whatever fails in it, what has ended abides at every step just if no attempt that was
not in flight was failed for a generation that was given up. -/
theorem abides_iff (steps : Moment.Steps m (.first m rows) a)
    (distinct : ∀ row ∈ rows, row.connectionId = m.connectionId → row.numbers.Nodup) :
    Relation.ReflTransGen (fun a b => a.Step m b ∧ a.world.jobs.Abides b.world.jobs)
      (.first m rows) a ↔ overruled a.world.past = false := by
  constructor
  · intro settled
    clear steps
    induction settled with
    | refl => rfl
    | tail before step ih =>
      have steps : Moment.Steps m _ _ := before.lift id fun _ _ step => step.1
      exact (overruled_step steps distinct step.1).2 ⟨ih, step.2⟩
  · intro never
    induction steps with
    | refl => exact .refl
    | tail before step ih =>
      obtain ⟨never, abides⟩ := (overruled_step before distinct step).1 never
      exact (ih never).tail ⟨step, abides⟩

/-- A leftover job was failed. The failure of the attempt after it could not be recorded, so a new
start has failed that attempt and its job. -/
def Moment.unrecorded : Moment :=
  .serve .hasty .cancelled 5
    ([.serve (.failed [] false) 23].foldl (move .hasty) (first .hasty [.leftover])).refuse

theorem unrecorded_steps : Moment.Steps .hasty (.first .hasty [.leftover]) .unrecorded :=
  (Moment.steps_replay .hasty _ _).trans
    ((Moment.steps_refuse .hasty _).trans (Moment.steps_serve .hasty _ _ _))

theorem abides_of_unrecorded :
    Relation.ReflTransGen
      (fun a b : Moment => a.Step .hasty b ∧ a.world.jobs.Abides b.world.jobs)
      (.first .hasty [.leftover]) .unrecorded := by
  refine (abides_iff unrecorded_steps fun row mem _ => ?_).2 (by decide +kernel)
  obtain rfl := List.mem_singleton.1 mem
  decide

def FailureReason.misconfigured : FailureReason where
  origin := .source
  kind := .configError
  externalMessage := "boom"
  internalMessage := some "boom"
  timestamp := default

/-- A job has failed for a configuration error, and whether to disable its connection could not be
found out. A new start is about to fail its attempt. -/
def Moment.undecided : Moment :=
  .serve .hasty .cancelled 2
    (replay .hasty [.serve (.failed [.misconfigured] false) 21]).refuse

theorem reachable_undecided : Moment.undecided.Reachable .hasty :=
  ⟨[], (Moment.steps_replay .hasty _ _).trans
    ((Moment.steps_refuse .hasty _).trans (Moment.steps_serve .hasty _ _ _))⟩

def JobStore.firstOutcome (s : JobStore) (k : JobId) :
    Option (JobStatus × AttemptStatus × Option (Option Bool)) :=
  (s.find? k).bind fun j => j.attempts[0]?.map fun a =>
    (j.status, a.status, a.failureSummary.map (·.partialSuccess))

theorem JobStore.of_firstOutcome {s : JobStore} {k : JobId} {outcome}
    (h : s.firstOutcome k = some outcome) : ∃ j a, s.find? k = some j ∧ j.attempts[0]? = some a ∧
      j.status = outcome.1 ∧ a.status = outcome.2.1 ∧
      a.failureSummary.map (·.partialSuccess) = outcome.2.2 := by
  obtain ⟨j, found, h⟩ := Option.bind_eq_some_iff.1 h
  obtain ⟨a, there, rfl⟩ := Option.map_eq_some_iff.1 h
  exact ⟨j, a, found, there, rfl, rfl, rfl⟩

/-- A job that has failed is open again, and an attempt of it that has failed has another
summary. -/
theorem failed_job_reopened : ∃ (m : Manager) (a b : Moment) (k : JobId) (j j' : Job)
    (x x' : Attempt), a.Reachable m ∧ a.Steps m b ∧
      a.world.jobs.find? k = some j ∧ b.world.jobs.find? k = some j' ∧
      j.status = .failed ∧ j'.status = .running ∧
      j.attempts[0]? = some x ∧ j'.attempts[0]? = some x' ∧
      x.status = .failed ∧ x.failureSummary ≠ x'.failureSummary := by
  have before : Moment.undecided.world.jobs.firstOutcome 1 =
      some (.failed, .failed, some (some false)) := by
    decide +kernel
  have after : (Moment.serve .hasty .cancelled 1 .undecided).world.jobs.firstOutcome 1 =
      some (.running, .failed, some none) := by
    decide +kernel
  obtain ⟨j, x, found, there, failed, ended, told⟩ := JobStore.of_firstOutcome before
  obtain ⟨j', x', found', there', reopened, -, told'⟩ := JobStore.of_firstOutcome after
  refine ⟨.hasty, _, _, 1, j, j', x, x', reachable_undecided, Moment.steps_serve _ _ _ _, found,
    found', failed, reopened, there, there', ended, fun same => ?_⟩
  rw [same, told'] at told
  cases told

end ConnectorSync.Sync
