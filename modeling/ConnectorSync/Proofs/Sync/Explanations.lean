import ConnectorSync.Proofs.Sync.Finality

/-!
# Explanations

Which jobs have an attempt with a reason why it did not succeed. That is read off the records that
were written: a reason that was given stays, since a record without one is only ever written over
that of an attempt which is running.
-/

namespace ConnectorSync.Sync

/-! ### Rows -/

def Attempt.IsExplained (a : Attempt) : Prop :=
  ∃ summary, a.failureSummary = some summary ∧ summary.failures ≠ []

def Job.IsExplained (j : Job) : Prop := ∃ a ∈ j.attempts, a.IsExplained

def Job.Unsaid (j : Job) : Prop := ∀ a ∈ j.attempts, a.status = .running → a.failureSummary = none

theorem Job.mem_runningAttempts {j : Job} {n : Nat} :
    n ∈ j.runningAttempts ↔ j.attempts.any (fun a => a.number = n && a.status = .running) := by
  unfold Job.runningAttempts
  simp [and_comm, and_assoc]

section Attempts

variable {n : Nat} {status : AttemptStatus} {attempts : List Attempt}

theorem explained_setAttempt {summary : FailureSummary} (reasons : summary.failures ≠ [])
    (there : n ∈ attempts.map (·.number)) :
    ∃ a ∈ JobStore.setAttempt n status (some summary) attempts, a.IsExplained := by
  obtain ⟨i, a, -, -, written⟩ := exists_getElem?_setAttempt status (some summary) there
  exact ⟨_, List.mem_of_getElem? written, summary, rfl, reasons⟩

/-- A record without a reason over one without a summary changes nothing. -/
theorem explained_setAttempt_iff {summary : Option FailureSummary}
    (blank : ∀ x ∈ summary, x.failures = [])
    (unsaid : ∀ a ∈ attempts, a.number = n → a.failureSummary = none) :
    (∃ a ∈ JobStore.setAttempt n status summary attempts, a.IsExplained) ↔
      ∃ a ∈ attempts, a.IsExplained := by
  constructor
  · rintro ⟨a, mem, said, same, reasons⟩
    obtain mem | ⟨-, written⟩ := mem_setAttempt mem
    · exact ⟨a, mem, said, same, reasons⟩
    · exact absurd (blank said (written.symm.trans same)) reasons
  · rintro ⟨a, mem, said, same, reasons⟩
    have other : a.number ≠ n := by
      intro here
      cases (unsaid a mem here).symm.trans same
    obtain ⟨i, found⟩ := List.getElem?_of_mem mem
    exact ⟨a, List.mem_of_getElem? (getElem?_setAttempt_of_ne other found), said, same, reasons⟩

end Attempts

theorem Call.unsaid_revise {c : Call} {j : Job}
    (ended : ∀ job n status summary, c = failAttempt job n status summary → status ≠ .running)
    (h : j.Unsaid) : (c.revise j).Unsaid := by
  have written {n : Nat} {status : AttemptStatus} {summary : Option FailureSummary}
      (hasEnded : status ≠ .running) :
      ∀ a ∈ JobStore.setAttempt n status summary j.attempts, a.status = .running →
        a.failureSummary = none := by
    intro a mem isRunning
    obtain mem | ⟨same, -⟩ := mem_setAttempt mem
    · exact h a mem isRunning
    · exact absurd (same.symm.trans isRunning) hasEnded
  cases c with
  | createAttempt job =>
    intro a mem isRunning
    obtain mem | mem := List.mem_append.1 mem
    · exact h a mem isRunning
    · obtain rfl := List.mem_singleton.1 mem
      rfl
  | failAttempt job n status summary => exact written (ended job n status summary rfl)
  | jobSuccess job n output => exact written (by decide)
  | jobCancelled job n summary =>
    show (j.cancel n summary).Unsaid
    unfold Job.cancel
    split
    · exact written (by decide)
    · exact h
  | _ => exact h

/-! ### What is said of running attempts -/

def World.Unsaid (w : World) : Prop :=
  ∀ k row, (course w.past).atHand = some k → w.jobs.find? k = some row → row.Unsaid

variable {m : Manager} {station : Station} {w w' : World} {call : Call} {reply : call.Reply}
  {jobs : JobStore} {k : JobId} {n : Nat} {row : Job}

theorem unsaid_carried (hr : station.request m = .call call) (unsaid : w.Unsaid)
    (effect : call.Effect m.connectionId w.jobs reply jobs)
    (atHand : ((course w.past).after (.told (.call call) (.ok reply))).atHand = some k)
    (found : jobs.find? k = some row) : row.Unsaid := by
  have ended (job : JobId) (n : Nat) (status : AttemptStatus) (summary : FailureSummary)
      (same : call = .failAttempt job n status summary) : status ≠ .running := by
    subst same
    obtain rfl | rfl := Station.status_of_failAttempt hr
    · nofun
    · nofun
  obtain before | ⟨isReset, created⟩ := Course.atHand_after atHand fun _ same => by cases same
  · obtain ⟨-, old, there, rfl⟩ | ⟨-, there⟩ | ⟨-, isReset, now, rfl⟩ := effect.row found
    · exact Call.unsaid_revise ended (unsaid k old before there)
    · exact unsaid k row before there
    · nofun
  · cases created
    obtain ⟨now, rows⟩ := effect.opened
    rw [rows, if_pos rfl] at found
    cases found
    nofun

theorem World.Unsaid.cons {e : Event} (h : w.Unsaid) (past : w'.past = e :: w.past)
    (jobs : w'.jobs = w.jobs)
    (old : ∀ isReset job, e ≠ .told (.call (.createJob isReset)) (.ok job))
    (fresh : ∀ a, e = .told (.enter .recordFailure) a → (course w.past).report = none) :
    w'.Unsaid := by
  intro k row atHand found
  rw [past] at atHand
  rw [jobs] at found
  obtain before | ⟨isReset, new⟩ := Course.atHand_after atHand fresh
  · exact h k row before found
  · exact absurd new (old isReset k)

theorem unsaid_answer {r : Request} {a : r.Answer} (hr : station.request m = r)
    (fits : station.Fits (course w.past)) (h : w.Unsaid)
    (answers : w.Answers m.connectionId r a w') : (w'.note r a).Unsaid := by
  cases answers with
  | carried call reply jobs effect => exact fun _ _ => unsaid_carried (w := w) hr h effect
  | entered sec =>
    refine h.cons rfl rfl (fun _ _ same => by cases same) fun _ same => ?_
    cases same
    exact Station.fits_recordFailure fits hr
  | _ => exact h.cons rfl rfl (fun _ _ same => by cases same) fun _ same => by cases same

/-! ### Reasons that are given -/

/-- The job of which an event records a reason. A cancellation has its own for an attempt in
flight. -/
def Event.accounts (past : List Event) : Event → Option JobId
  | .told (.call (.failAttempt job _ _ summary)) (.ok _) =>
    if summary.failures = [] then none else some job
  | .told (.call (.jobCancelled job attempt summary)) (.ok _) =>
    if summary.failures = [] ∨ flight past ≠ some (job, attempt) then none else some job
  | _ => none

/-- The jobs of which a reason was recorded. -/
def accounted : List Event → List JobId
  | [] => []
  | e :: past => (e.accounts past).toList ++ accounted past

theorem FailureSummary.failures_ofReasons {failures : List FailureReason}
    {partialSuccess : Option Bool} :
    (ofReasons failures partialSuccess).failures = [] ↔ failures = [] := by
  rw [← List.length_eq_zero_iff, ← List.length_eq_zero_iff]
  unfold ofReasons
  rw [List.length_mergeSort]

theorem FailureSummary.failures_ofCancellation {job : Option JobId} {attempt : Option Nat}
    {failures : List FailureReason} {partialSuccess : Option Bool} {now : Timestamp} :
    (ofCancellation job attempt failures partialSuccess now).failures ≠ [] :=
  List.append_ne_nil_of_right_ne_nil _ (List.cons_ne_nil _ _)

/-- Only the failure of the attempt at hand may be recorded without a reason. -/
theorem Station.atHand_of_failAttempt {c : Course} {job : JobId} {status : AttemptStatus}
    {summary : FailureSummary} (fits : station.Fits c)
    (hr : station.request m = .call (.failAttempt job n status summary))
    (blank : summary.failures = []) : c.atHand = some job := by
  cases station with
  | calling task left failed =>
    cases task with
    | failStaleAttempt =>
      cases hr
      cases FailureSummary.failures_ofReasons.1 blank
    | failAttempt input budget job madeProgress summary =>
      cases hr
      exact (Course.atHand_of_unreported fits.report).trans (fits.openJob.trans fits.jobId)
    | _ => cases hr
  | failingAttempt =>
    cases hr
    cases FailureSummary.failures_ofReasons.1 blank
  | _ => cases hr

theorem Station.atHand_of_over {c : Course} (fits : station.Fits c)
    (hr : station.request m = .call call) (closing : (∃ n output, call = .jobSuccess k n output) ∨
      ∃ n summary, call = .jobCancelled k n summary) : c.atHand = some k := by
  cases station with
  | calling task left failed =>
    cases hr
    cases task with
    | succeed | cancelJob =>
      obtain ⟨n, output, same⟩ | ⟨n, summary, same⟩ := closing <;> cases same
      exact (Course.atHand_of_unreported fits.report).trans (fits.openJob.trans fits.jobId)
    | _ => obtain ⟨n, output, same⟩ | ⟨n, summary, same⟩ := closing <;> cases same
  | _ => obtain ⟨n, output, rfl⟩ | ⟨n, summary, rfl⟩ := closing <;> cases hr

/-- Nothing was said of an attempt at hand that is running. -/
theorem unsaid_of_running (h : w.Surveys m.connectionId station) (unsaid : w.Unsaid)
    (atHand : (course w.past).atHand = some k) (found : w.jobs.find? k = some row)
    (runs : n ∈ row.runningAttempts) :
    ∀ a ∈ row.attempts, a.number = n → a.failureSummary = none := by
  obtain ⟨row', found', held⟩ := h.held k atHand
  rw [found] at found'
  cases found'
  rintro a mem rfl
  exact unsaid k row atHand found a mem (status_of_mem_running held.distinct mem runs)

/-- A call explains the job whose row it writes if it records a reason, and leaves it explained. -/
theorem isExplained_revise (hr : station.request m = .call call)
    (h : w.Surveys m.connectionId station) (unsaid : w.Unsaid)
    (effect : call.Effect m.connectionId w.jobs reply jobs) (target : call.target = some k)
    (found : w.jobs.find? k = some row) :
    (call.revise row).IsExplained ↔
      (Event.told (.call call) (.ok reply)).accounts w.past = some k ∨ row.IsExplained := by
  have steady (atHand : (course w.past).atHand = some k) :=
    h.steady (Course.of_atHand atHand).2
  cases call with
  | createAttempt job =>
    rw [or_iff_right nofun]
    constructor
    · rintro ⟨a, mem, explained⟩
      obtain mem | mem := List.mem_append.1 mem
      · exact ⟨a, mem, explained⟩
      · obtain rfl := List.mem_singleton.1 mem
        obtain ⟨said, same, -⟩ := explained
        cases same
    · rintro ⟨a, mem, explained⟩
      exact ⟨a, List.mem_append_left _ mem, explained⟩
  | reportJobStart | failJob => exact (or_iff_right nofun).symm
  | failAttempt job n status summary =>
    cases target
    by_cases blank : summary.failures = []
    · have atHand := Station.atHand_of_failAttempt h.fits hr blank
      have runs := running_of_target (steady atHand) h.knows hr (.inl ⟨_, _, rfl⟩) found
      rw [Event.accounts, if_pos blank, or_iff_right nofun]
      refine explained_setAttempt_iff ?_ (unsaid_of_running h unsaid atHand found runs)
      rintro _ ⟨⟩
      exact blank
    · rw [Event.accounts, if_neg blank]
      exact iff_of_true (explained_setAttempt blank (effect.mem_numbers found)) (.inl rfl)
  | jobSuccess job n output =>
    cases target
    have atHand := Station.atHand_of_over h.fits hr (.inl ⟨_, _, rfl⟩)
    have runs := running_of_target (steady atHand) h.knows hr (.inr ⟨_, rfl⟩) found
    rw [or_iff_right nofun]
    exact explained_setAttempt_iff nofun (unsaid_of_running h unsaid atHand found runs)
  | jobCancelled job n summary =>
    cases target
    have atHand := Station.atHand_of_over h.fits hr (.inr ⟨_, _, rfl⟩)
    obtain ⟨row', found', held⟩ := h.held k atHand
    rw [found] at found'
    cases found'
    have flying : n ∈ row.runningAttempts ↔ flight w.past = some (k, n) := by
      rw [held.running, JobStore.id_of_find? found]
    show (row.cancel n summary).IsExplained ↔ _
    rw [Event.accounts, Job.cancel]
    by_cases runs : n ∈ row.runningAttempts
    · rw [if_pos (Job.mem_runningAttempts.1 runs)]
      by_cases blank : summary.failures = []
      · rw [if_pos (.inl blank), or_iff_right nofun]
        refine explained_setAttempt_iff ?_ (unsaid_of_running h unsaid atHand found runs)
        rintro _ ⟨⟩
        exact blank
      · rw [if_neg (not_or.2 ⟨blank, not_not.2 (flying.1 runs)⟩)]
        exact iff_of_true (explained_setAttempt blank (mem_numbers_of_mem_running runs)) (.inl rfl)
    · rw [if_neg (mt Job.mem_runningAttempts.2 runs), if_pos (.inr (mt flying.2 runs)),
        or_iff_right nofun]
      exact Iff.rfl
  | _ => cases target

/-! ### Runs -/

/-- A job has an attempt with a reason why it did not succeed. -/
def JobStore.Explains (s : JobStore) (k : JobId) : Prop :=
  ∃ row, s.find? k = some row ∧ row.IsExplained

theorem accounts_target {past : List Event}
    (accounts : (Event.told (.call call) (.ok reply)).accounts past = some k) :
    call.target = some k := by
  unfold Event.accounts at accounts
  split at accounts
  · next same =>
    cases same
    split at accounts
    · cases accounts
    · exact accounts
  · next same =>
    cases same
    split at accounts
    · cases accounts
    · exact accounts
  · cases accounts

theorem explains_carried (hr : station.request m = .call call)
    (h : w.Surveys m.connectionId station) (unsaid : w.Unsaid)
    (effect : call.Effect m.connectionId w.jobs reply jobs) :
    jobs.Explains k ↔
      (Event.told (.call call) (.ok reply)).accounts w.past = some k ∨ w.jobs.Explains k := by
  by_cases target : call.target = some k
  · obtain ⟨row, found, written⟩ := (effect.revises target).found
    have before : w.jobs.Explains k ↔ row.IsExplained := by
      simp [JobStore.Explains, found]
    have after : jobs.Explains k ↔ (call.revise row).IsExplained := by
      simp [JobStore.Explains, written]
    rw [before, after]
    exact isExplained_revise hr h unsaid effect target found
  · rw [or_iff_right (mt accounts_target target)]
    constructor
    · rintro ⟨row, found, explained⟩
      obtain ⟨here, -⟩ | ⟨-, before⟩ | ⟨-, isReset, now, rfl⟩ := effect.row found
      · exact absurd here target
      · exact ⟨row, before, explained⟩
      · obtain ⟨a, mem, -⟩ := explained
        cases mem
    · rintro ⟨row, found, explained⟩
      exact ⟨row, effect.keeps h.sorted.numbered found target, explained⟩

theorem explains_answer {r : Request} {a : r.Answer} (hr : station.request m = r)
    (h : w.Surveys m.connectionId station) (unsaid : w.Unsaid)
    (answers : w.Answers m.connectionId r a w') (k : JobId) :
    w'.jobs.Explains k ↔ (Event.told r a).accounts w.past = some k ∨ w.jobs.Explains k := by
  cases answers with
  | carried call reply jobs effect => exact explains_carried hr h unsaid effect
  | failed call e =>
    refine (or_iff_right ?_).symm
    cases call <;> nofun
  | _ => exact (or_iff_right nofun).symm

theorem kept_unsaid (m : Manager) : Kept m fun spot w =>
    w.Surveys m.connectionId spot ∧ w.Unsaid :=
  (kept_surveys m).and
    (fun _ h => h.cons rfl rfl (fun _ _ same => by cases same) fun _ same => by cases same)
    (fun h => h) fun _ surveys h answers => unsaid_answer rfl surveys.fits h answers

structure World.Explained (id : Uuid) (start : JobStore) (spot : Spot) (w : World) : Prop where
  surveys : w.Surveys id spot
  unsaid : w.Unsaid
  accounted : ∀ k, w.jobs.Explains k ↔ k ∈ accounted w.past ∨ start.Explains k

theorem kept_explained (m : Manager) (start : JobStore) : Kept m fun spot w =>
    w.Explained m.connectionId start spot := by
  have kept : Kept m fun spot w => (w.Surveys m.connectionId spot ∧ w.Unsaid) ∧
      ∀ k, w.jobs.Explains k ↔ k ∈ accounted w.past ∨ start.Explains k :=
    (kept_unsaid m).and (fun _ h => h) (fun h => h)
      fun {station w w'} a ⟨surveys, unsaid⟩ h answers k => by
        rw [answers.past_note, accounted, List.mem_append, Option.mem_toList, or_assoc, ← h k]
        exact explains_answer rfl surveys unsaid answers k
  refine kept.congr fun {spot w} => ⟨?_, fun h => ⟨⟨h.surveys, h.unsaid⟩, h.accounted⟩⟩
  rintro ⟨⟨surveys, unsaid⟩, accounted⟩
  exact ⟨surveys, unsaid, accounted⟩

theorem explained_first (m : Manager) {rows : List Job}
    (distinct : ∀ row ∈ rows, row.connectionId = m.connectionId → row.numbers.Nodup) :
    (Moment.first m rows).world.Explained m.connectionId (Moment.first m rows).world.jobs
      (.between (.fresh m.connectionId)) :=
  ⟨surveys_first m distinct, nofun, fun _ => (or_iff_right List.not_mem_nil).symm⟩

end ConnectorSync.Sync
