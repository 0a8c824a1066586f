import ConnectorSync.Proofs.Sync.Rows

/-!
# The open job of a connection

Which jobs of a connection are open and what of them is running, while jobs left open from before
are failed and then a job is created, attempted and over. Each lemma is about one call.
-/

namespace ConnectorSync.Sync

/-! ### Rows -/

namespace Job

/-- The attempts have distinct numbers, and none of them is running if the job is over. -/
structure Tidy (j : Job) : Prop where
  distinct : j.numbers.Nodup
  landed : j.status.isTerminal → j.runningAttempts = []

structure Flies (id : Uuid) (flying : List Nat) (j : Job) : Prop where
  connection : j.connectionId = id
  isOpen : j.status.isTerminal = false
  running : j.runningAttempts = flying
  numbers : j.numbers = List.range' 1 j.attempts.length

variable {id : Uuid} {flying : List Nat} {n : Nat} {job : JobId} {j : Job}

theorem Flies.tidy (h : j.Flies id flying) : j.Tidy where
  distinct := by
    rw [h.numbers]
    exact List.nodup_range'
  landed ended := by
    rw [h.isOpen] at ended
    cases ended

theorem Flies.createAttempt (h : j.Flies id []) :
    ((Call.createAttempt job).revise j).Flies id [j.attempts.length + 1] where
  connection := h.connection
  isOpen := h.isOpen
  running := by rw [Call.runningAttempts_createAttempt, h.running, List.nil_append]
  numbers := by
    have length : ((Call.createAttempt job).revise j).attempts.length = j.attempts.length + 1 :=
      List.length_append
    rw [Call.numbers_createAttempt, h.numbers, length, List.range'_concat]
    simp [Nat.add_comm]

theorem Flies.reportJobStart (h : j.Flies id flying) :
    ((Call.reportJobStart job).revise j).Flies id flying :=
  ⟨h.connection, rfl, h.running, h.numbers⟩

theorem Flies.failAttempt {status : AttemptStatus} (summary : FailureSummary)
    (h : j.Flies id [n]) (ended : status ≠ .running)
    (isOpen : status.jobStatus.isTerminal = false) :
    ((Call.failAttempt job n status summary).revise j).Flies id [] where
  connection := h.connection
  isOpen := isOpen
  running := by
    rw [Call.runningAttempts_failAttempt ended h.tidy.distinct, h.running]
    simp
  numbers := by
    have length : ((Call.failAttempt job n status summary).revise j).attempts.length =
        j.attempts.length := length_setAttempt
    rw [Call.numbers_revise (fun _ same => by cases same), h.numbers, length]

theorem Flies.jobSuccess {output : SyncOutput} (h : j.Flies id [n]) :
    ((Call.jobSuccess job n output).revise j).runningAttempts = [] := by
  rw [Call.runningAttempts_jobSuccess h.tidy.distinct, h.running]
  simp

theorem Flies.jobCancelled {summary : FailureSummary} (h : j.Flies id flying)
    (own : ∀ k ∈ flying, k = n) :
    ((Call.jobCancelled job n summary).revise j).runningAttempts = [] := by
  rw [Call.runningAttempts_jobCancelled h.tidy.distinct, h.running]
  simpa using own

/-- A call that leaves a job over and nothing of it running. -/
theorem Flies.lands {c : Call} (h : j.Flies id flying) (old : ∀ job, c ≠ .createAttempt job)
    (landed : (c.revise j).runningAttempts = []) : (c.revise j).Tidy where
  distinct := by
    rw [Call.numbers_revise old]
    exact h.tidy.distinct
  landed _ := landed

end Job

/-! ### Stores -/

namespace JobStore

def Tidy (id : Uuid) (s : JobStore) : Prop :=
  ∀ k row, s.find? k = some row → row.connectionId = id → row.Tidy

/-! Only what is said of running attempts needs the jobs to have been tidy at first; `neat` says
that they were. -/

structure Stale (neat : Prop) (id : Uuid) (todo : List JobId) (s : JobStore) : Prop where
  tidy : neat → s.Tidy id
  listed : ∀ k row, s.find? k = some row → row.connectionId = id →
    row.status.isTerminal = false → k ∈ todo
  own : ∀ k ∈ todo, ∃ row, s.find? k = some row ∧ row.connectionId = id

structure Failing (neat : Prop) (id : Uuid) (job : JobId) (attempts : List Nat) (jobs : List JobId)
    (s : JobStore) : Prop extends Stale neat id (job :: jobs) s where
  running : neat → ∀ row, s.find? job = some row → row.runningAttempts = attempts

/-- At most one job is open, and just the given attempts of it are running. -/
structure Aloft (neat : Prop) (id : Uuid) (job : Option JobId) (flying : List Nat) (s : JobStore) :
    Prop where
  tidy : neat → s.Tidy id
  ended : ∀ k row, s.find? k = some row → row.connectionId = id → job ≠ some k →
    row.status.isTerminal
  aloft : ∀ k, job = some k → ∃ row, s.find? k = some row ∧ row.Flies id flying

structure InFlight (neat : Prop) (id : Uuid) (input : RunInput) (context : AttemptContext)
    (s : JobStore) : Prop where
  aloft : s.Aloft neat id (some context.jobId) [context.attempt]
  connection : context.connectionId = id
  attempt : input.attempt = context.attempt

def Aborting (neat : Prop) (id : Uuid) (input : RunInput) (job : JobId) (s : JobStore) : Prop :=
  ∃ flying, (∀ n ∈ flying, n = input.attempt) ∧ s.Aloft neat id (some job) flying

def Begins (neat : Prop) (id : Uuid) (input : RunInput) (s : JobStore) : Prop :=
  match input.jobId with
  | none => neat → s.Tidy id
  | some job => s.Aloft neat id (some job) []

variable {neat : Prop} {id : Uuid} {s t : JobStore} {job : JobId} {jobs : List JobId} {n : Nat}
  {attempts flying flying' : List Nat} {f : Job → Job} {input : RunInput}
  {context : AttemptContext}

theorem Aloft.begins (h : s.Aloft neat id input.jobId []) : s.Begins neat id input := by
  unfold Begins
  split
  · exact h.tidy
  · next job hasJob =>
    rw [← hasJob]
    exact h

theorem Begins.tidy (h : s.Begins neat id input) : neat → s.Tidy id := by
  unfold Begins at h
  split at h
  · exact h
  · exact h.tidy

theorem Begins.aloft (h : s.Begins neat id input) (hasJob : ¬ input.jobId.isNone) :
    s.Aloft neat id input.jobId [] := by
  unfold Begins at h
  split at h
  · next none =>
    rw [none] at hasJob
    exact absurd rfl hasJob
  · next job some =>
    rw [some]
    exact h

theorem Aloft.aborting (h : s.Aloft neat id (some job) []) : s.Aborting neat id input job :=
  ⟨[], nofun, h⟩

theorem InFlight.aborting (h : s.InFlight neat id input context) :
    s.Aborting neat id input context.jobId := by
  refine ⟨_, fun n mem => ?_, h.aloft⟩
  rw [h.attempt]
  exact List.mem_singleton.1 mem

theorem Aloft.flies {row : Job} (h : s.Aloft neat id (some job) flying)
    (found : s.find? job = some row) : row.Flies id flying := by
  obtain ⟨row', found', flies⟩ := h.aloft job rfl
  rw [found] at found'
  cases found'
  exact flies

theorem Aloft.openRows {openJob : Option JobId} (ordered : s.Ordered)
    (h : s.Aloft neat id openJob flying) :
    (s.openRows id).map (·.id) = openJob.toList ∧
      ∀ row ∈ s.openRows id, row.runningAttempts = flying := by
  cases openJob with
  | none =>
    have nothing : s.openRows id = [] := by
      refine List.eq_nil_iff_forall_not_mem.2 fun row mem => ?_
      obtain ⟨found, own, isOpen⟩ := (mem_openRows ordered).1 mem
      rw [h.ended row.id row found own nofun] at isOpen
      cases isOpen
    rw [nothing]
    exact ⟨rfl, nofun⟩
  | some job =>
    obtain ⟨row, found, flies⟩ := h.aloft job rfl
    obtain rfl := id_of_find? found
    have single : s.openRows id = [row] := by
      refine List.perm_singleton.1 ?_
      refine (List.perm_ext_iff_of_nodup (nodup_openRows ordered) (List.nodup_singleton row)).2
        fun other => ⟨fun mem => ?_, fun mem => ?_⟩
      · obtain ⟨found', own, isOpen⟩ := (mem_openRows ordered).1 mem
        by_cases same : row.id = other.id
        · rw [← same, found] at found'
          exact List.mem_singleton.2 (Option.some.inj found').symm
        · rw [h.ended other.id other found' own fun here => same (Option.some.inj here)] at isOpen
          cases isOpen
      · obtain rfl := List.mem_singleton.1 mem
        exact (mem_openRows ordered).2 ⟨found, flies.connection, flies.isOpen⟩
    rw [single]
    exact ⟨rfl, fun _ mem => List.mem_singleton.1 mem ▸ flies.running⟩

theorem Aloft.nonTerminalJobs {openJob : Option JobId} (ordered : s.Ordered)
    (h : s.Aloft neat id openJob flying) : s.nonTerminalJobs id = openJob.toList :=
  (h.openRows ordered).1

theorem Aloft.flights {openJob : Option JobId} (ordered : s.Ordered)
    (h : s.Aloft neat id openJob flying) (tidy : neat) :
    s.flights id = openJob.toList.flatMap fun k => flying.map (k, ·) := by
  obtain ⟨ids, running⟩ := h.openRows ordered
  have landed (k : JobId) (row : Job) (found : s.find? k = some row)
      (own : row.connectionId = id) : row.status.isTerminal → row.runningAttempts = [] :=
    (h.tidy tidy k row found own).landed
  rw [flights_eq ordered landed, ← ids, List.flatMap_map]
  exact List.flatMap_congr fun row mem => by rw [running row mem]

/-! #### Writing the row of a job -/

theorem Revises.tidy (r : s.Revises job f t) (tidy : s.Tidy id)
    (row : ∀ row, s.find? job = some row → (f row).connectionId = id → (f row).Tidy) :
    t.Tidy id := by
  intro k row' found own
  by_cases same : k = job
  · subst same
    obtain ⟨old, before, after⟩ := r.found
    rw [after] at found
    cases found
    exact row old before own
  · rw [r.others k same] at found
    exact tidy k row' found own

theorem Aloft.stays (h : s.Aloft neat id (some job) flying) (r : s.Revises job f t)
    (row : ∀ row, s.find? job = some row → row.Flies id flying → (f row).Flies id flying') :
    t.Aloft neat id (some job) flying' := by
  obtain ⟨old, found, flies⟩ := h.aloft job rfl
  obtain ⟨old', before, after⟩ := r.found
  obtain rfl := Option.some.inj (found.symm.trans before)
  refine ⟨fun neat => ?_, fun k row' found own other => ?_, ?_⟩
  · refine r.tidy (h.tidy neat) fun row' before _ => ?_
    rw [found] at before
    cases before
    exact (row old found flies).tidy
  · have other' : k ≠ job := fun same => other (congrArg some same.symm)
    rw [r.others k other'] at found
    exact h.ended k row' found own other
  · rintro _ ⟨⟩
    exact ⟨_, after, row old found flies⟩

theorem Aloft.lands {c : Call} (h : s.Aloft neat id (some job) flying)
    (r : s.Revises job c.revise t) (old : ∀ job, c ≠ .createAttempt job)
    (ended : ∀ status, (c.leaves status).isTerminal)
    (landed : ∀ row, row.Flies id flying → (c.revise row).runningAttempts = []) :
    t.Aloft neat id none [] := by
  obtain ⟨row, found, flies⟩ := h.aloft job rfl
  refine ⟨fun neat => ?_, fun k row' found' own _ => ?_, nofun⟩
  · refine r.tidy (h.tidy neat) fun row' before _ => ?_
    rw [found] at before
    cases before
    exact flies.lands old (landed row flies)
  · by_cases same : k = job
    · subst same
      obtain ⟨_, -, after⟩ := r.found
      rw [after] at found'
      cases found'
      rw [Call.revise_status]
      exact ended _
    · rw [r.others k same] at found'
      exact h.ended k row' found' own fun here => same (Option.some.inj here).symm

/-- A new job is open, and nothing of it is running. -/
theorem Aloft.opened {isReset : Bool} (h : s.Aloft neat id none [])
    (effect : (Call.createJob isReset).Effect id s job t) : t.Aloft neat id (some job) [] := by
  obtain ⟨now, rows⟩ := effect.opened
  have flies : (Job.mk job id isReset .pending [] now).Flies id [] := ⟨rfl, rfl, rfl, rfl⟩
  refine ⟨fun neat k row found own => ?_, fun k row found own other => ?_, ?_⟩
  · rw [rows] at found
    split at found
    · cases found
      exact flies.tidy
    · exact h.tidy neat k row found own
  · rw [rows, if_neg fun same => other (congrArg some same)] at found
    exact h.ended k row found own nofun
  · rintro _ ⟨⟩
    exact ⟨_, (rows job).trans (if_pos rfl), flies⟩

/-! #### Jobs left open from before -/

theorem Stale.aloft (h : s.Stale neat id []) : s.Aloft neat id none [] := by
  refine ⟨h.tidy, fun k row found own _ => ?_, nofun⟩
  cases ended : row.status.isTerminal with
  | true => rfl
  | false => cases h.listed k row found own ended

theorem stale_nonTerminalJobs (ordered : s.Ordered) (tidy : neat → s.Tidy id) :
    s.Stale neat id (s.nonTerminalJobs id) where
  tidy := tidy
  listed k row found own isOpen := (mem_nonTerminalJobs ordered).2 ⟨row, found, own, isOpen⟩
  own k mem := by
    obtain ⟨row, found, own, -⟩ := (mem_nonTerminalJobs ordered).1 mem
    exact ⟨row, found, own⟩

theorem Stale.failing {row : Job} (h : s.Stale neat id (job :: jobs))
    (found : s.find? job = some row) : s.Failing neat id job row.runningAttempts jobs where
  toStale := h
  running _ row' found' := by
    rw [found] at found'
    cases found'
    rfl

/-- A call about the first of the jobs leaves it among them, unless it is over by that. -/
theorem Stale.revised {c : Call} (h : s.Stale neat id (job :: jobs))
    (r : s.Revises job c.revise t) (old : ∀ job, c ≠ .createAttempt job)
    (landed : neat → ∀ row, s.find? job = some row → row.Tidy → (c.leaves row.status).isTerminal →
      (c.revise row).runningAttempts = [])
    (todo : List JobId) (rest : ∀ k ∈ todo, k ∈ job :: jobs)
    (listed : ∀ k ∈ job :: jobs, k ∈ todo ∨ k = job ∧ ∀ status, (c.leaves status).isTerminal) :
    t.Stale neat id todo := by
  obtain ⟨old', before, after⟩ := r.found
  refine ⟨fun neat => r.tidy (h.tidy neat) fun row found own => ?_,
    fun k row found own isOpen => ?_, fun k mem => ?_⟩
  · have tidy := h.tidy neat job row found (Call.revise_connectionId.symm.trans own)
    refine ⟨by rw [Call.numbers_revise old]; exact tidy.distinct, fun ended => ?_⟩
    rw [Call.revise_status] at ended
    exact landed neat row found tidy ended
  · by_cases same : k = job
    · subst same
      rw [after] at found
      cases found
      rw [Call.revise_status] at isOpen
      rcases listed k List.mem_cons_self with mem | ⟨-, ended⟩
      · exact mem
      · rw [ended old'.status] at isOpen
        cases isOpen
    · rw [r.others k same] at found
      exact (listed k (h.listed k row found own isOpen)).resolve_right fun here => same here.1
  · obtain ⟨row, found, own⟩ := h.own k (rest k mem)
    by_cases same : k = job
    · subst same
      rw [before] at found
      cases found
      exact ⟨_, after, Call.revise_connectionId.trans own⟩
    · exact ⟨row, (r.others k same).trans found, own⟩

theorem Failing.failAttempt {summary : FailureSummary}
    (h : s.Failing neat id job (n :: attempts) jobs)
    (r : s.Revises job (Call.failAttempt job n .failed summary).revise t) :
    t.Failing neat id job attempts jobs := by
  have old (k : JobId) : Call.failAttempt job n .failed summary ≠ .createAttempt k := nofun
  refine ⟨h.toStale.revised r old (fun _ _ _ _ ended => by cases ended) _ (fun _ mem => mem)
    fun _ => .inl, fun neat row' found => ?_⟩
  obtain ⟨row, before, after⟩ := r.found
  rw [after] at found
  cases found
  obtain ⟨own', found', own⟩ := h.own job List.mem_cons_self
  rw [before] at found'
  cases found'
  have tidy := h.tidy neat job row before own
  rw [Call.runningAttempts_failAttempt (by decide) tidy.distinct, h.running neat row before]
  have distinct : (n :: attempts).Nodup := by
    rw [← h.running neat row before]
    exact tidy.distinct.sublist (List.filter_sublist.map _)
  obtain ⟨fresh, -⟩ := List.nodup_cons.1 distinct
  rw [List.filter_cons_of_neg (by simp), List.filter_eq_self]
  intro k mem
  rw [decide_eq_true_eq]
  rintro rfl
  exact fresh mem

theorem Failing.failJob {reason : String} (h : s.Failing neat id job [] jobs)
    (r : s.Revises job (Call.failJob job reason).revise t) : t.Stale neat id jobs := by
  refine h.toStale.revised r nofun (fun neat row found _ _ => h.running neat row found) jobs
    (fun k => List.mem_cons_of_mem job) fun k mem => ?_
  rcases List.mem_cons.1 mem with rfl | mem
  · exact .inr ⟨rfl, fun _ => rfl⟩
  · exact .inl mem

end JobStore

end ConnectorSync.Sync
