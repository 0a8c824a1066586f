import Mathlib.Data.List.Nodup
import ConnectorSync.Proofs.Sync.JobStore

/-!
# Rows of a job store

Which attempts of a row a call leaves running. The rows are kept in the order of their numbers, so
there is one row of a number, and what is open of a connection can be listed.
-/

namespace ConnectorSync.Sync

/-! ### The attempts of a row -/

section Attempts

def running (attempts : List Attempt) : List Nat :=
  (attempts.filter (·.status = .running)).map (·.number)

def Job.numbers (j : Job) : List Nat := j.attempts.map (·.number)

variable {n : Nat} {status : AttemptStatus} {summary : Option FailureSummary}
  {attempts : List Attempt}

theorem mem_numbers_of_mem_running (h : n ∈ running attempts) : n ∈ attempts.map (·.number) := by
  obtain ⟨a, mem, rfl⟩ := List.mem_map.1 h
  exact List.mem_map_of_mem (List.mem_of_mem_filter mem)

theorem numbers_setAttempt :
    (JobStore.setAttempt n status summary attempts).map (·.number) = attempts.map (·.number) := by
  induction attempts with
  | nil => rfl
  | cons a rest ih =>
    unfold JobStore.setAttempt
    split
    · rfl
    · rw [List.map_cons, List.map_cons, ih]

theorem length_setAttempt :
    (JobStore.setAttempt n status summary attempts).length = attempts.length := by
  have numbers : (JobStore.setAttempt n status summary attempts).map (·.number) =
      attempts.map (·.number) := numbers_setAttempt
  simpa only [List.length_map] using congrArg List.length numbers

theorem running_cons (a : Attempt) (rest : List Attempt) :
    running (a :: rest) =
      if a.status = .running then a.number :: running rest else running rest := by
  unfold running
  rw [List.filter_cons]
  by_cases isRunning : a.status = .running
  · simp [isRunning]
  · simp [isRunning]

/-- An attempt that has ended is no longer among the running ones. -/
theorem running_setAttempt (ended : status ≠ .running)
    (distinct : (attempts.map (·.number)).Nodup) :
    running (JobStore.setAttempt n status summary attempts) =
      (running attempts).filter (· ≠ n) := by
  induction attempts with
  | nil => rfl
  | cons a rest ih =>
    obtain ⟨fresh, distinct⟩ := List.nodup_cons.1 distinct
    unfold JobStore.setAttempt
    split
    · next same =>
      have others : (running rest).filter (· ≠ n) = running rest := by
        rw [List.filter_eq_self]
        intro k mem
        rw [decide_eq_true_eq]
        rintro rfl
        have there : a.number ∈ rest.map (·.number) := by
          rw [same]
          exact mem_numbers_of_mem_running mem
        exact fresh there
      rw [running_cons, running_cons, if_neg ended]
      split
      · rw [List.filter_cons_of_neg (by simp [same]), others]
      · rw [others]
    · next different =>
      rw [running_cons, running_cons, ih distinct]
      split
      · rw [List.filter_cons_of_pos (by simp [different])]
      · rfl

theorem running_append_running :
    running (attempts ++ [⟨n, .running, summary⟩]) = running attempts ++ [n] := by
  simp [running]

end Attempts

/-! ### What is running after a call -/

namespace Call

variable {id : Uuid} {c : Call} {s t : JobStore} {reply : c.Reply}

theorem Effect.attempted {job : JobId} {n : Nat} {row : Job}
    (h : (createAttempt job).Effect id s n t) (found : s.find? job = some row) :
    n = row.attempts.length + 1 := by
  have h : s.createAttempt job = .ok (n, t) := h
  unfold JobStore.createAttempt at h
  cases got : s.get job with
  | error e =>
    rw [got] at h
    cases h
  | ok row' =>
    rw [got] at h
    cases h
    rw [Option.some.inj (found.symm.trans (JobStore.found_of_get got))]

variable {j : Job} {job : JobId} {n : Nat}

theorem numbers_revise (old : ∀ job, c ≠ createAttempt job) :
    (c.revise j).numbers = j.numbers := by
  cases c with
  | createAttempt job => exact absurd rfl (old job)
  | failAttempt | jobSuccess => exact numbers_setAttempt
  | jobCancelled job n summary =>
    show (j.cancel n summary).numbers = _
    unfold Job.cancel
    split
    · exact numbers_setAttempt
    · rfl
  | _ => rfl

theorem runningAttempts_createAttempt :
    ((createAttempt job).revise j).runningAttempts =
      j.runningAttempts ++ [j.attempts.length + 1] :=
  running_append_running

theorem numbers_createAttempt :
    ((createAttempt job).revise j).numbers = j.numbers ++ [j.attempts.length + 1] :=
  List.map_append

theorem runningAttempts_failAttempt {status : AttemptStatus} {summary : FailureSummary}
    (ended : status ≠ .running) (distinct : j.numbers.Nodup) :
    ((failAttempt job n status summary).revise j).runningAttempts =
      j.runningAttempts.filter (· ≠ n) :=
  running_setAttempt ended distinct

theorem runningAttempts_jobSuccess {output : SyncOutput} (distinct : j.numbers.Nodup) :
    ((jobSuccess job n output).revise j).runningAttempts = j.runningAttempts.filter (· ≠ n) :=
  running_setAttempt (by decide) distinct

theorem runningAttempts_jobCancelled {summary : FailureSummary} (distinct : j.numbers.Nodup) :
    ((jobCancelled job n summary).revise j).runningAttempts =
      j.runningAttempts.filter (· ≠ n) := by
  show (j.cancel n summary).runningAttempts = _
  unfold Job.cancel
  split
  · exact running_setAttempt (by decide) distinct
  · next notRunning =>
    symm
    refine List.filter_eq_self.2 fun k mem => ?_
    rw [decide_eq_true_eq]
    rintro rfl
    obtain ⟨a, mem, number⟩ := List.mem_map.1 mem
    obtain ⟨there, isRunning⟩ := List.mem_filter.1 mem
    refine notRunning (List.any_eq_true.2 ⟨a, there, ?_⟩)
    simpa [number] using isRunning

end Call

/-! ### The order of rows -/

namespace JobStore

variable {s t : JobStore} {id : Uuid} {k : JobId} {row : Job}

/-- The jobs are in the order of their numbers, which are distinct. -/
def Ordered (s : JobStore) : Prop := (s.jobs.map (·.id)).Pairwise (· < ·)

theorem mem_place {job other : Job} {jobs : List Job} (h : other ∈ place job jobs) :
    other = job ∨ other ∈ jobs := by
  induction jobs with
  | nil => exact .inl (List.mem_singleton.1 h)
  | cons j rest ih =>
    unfold place at h
    split at h
    · exact List.mem_cons.1 h
    · split at h
      · exact (List.mem_cons.1 h).imp_right (List.mem_cons_of_mem j)
      · rcases List.mem_cons.1 h with rfl | h
        · exact .inr List.mem_cons_self
        · exact (ih h).imp_right (List.mem_cons_of_mem j)

theorem pairwise_place (job : Job) {jobs : List Job} (h : (jobs.map (·.id)).Pairwise (· < ·)) :
    ((place job jobs).map (·.id)).Pairwise (· < ·) := by
  induction jobs with
  | nil => exact List.pairwise_singleton _ _
  | cons j rest ih =>
    obtain ⟨first, others⟩ := List.pairwise_cons.1 h
    unfold place
    split
    · next less =>
      refine List.pairwise_cons.2 ⟨fun k mem => ?_, h⟩
      rcases List.mem_cons.1 mem with rfl | mem
      · exact less
      · exact Int.lt_trans less (first k mem)
    · next notLess =>
      split
      · next same =>
        refine List.pairwise_cons.2 ⟨fun k mem => ?_, others⟩
        show job.id < k
        rw [same]
        exact first k mem
      · next different =>
        refine List.pairwise_cons.2 ⟨fun k mem => ?_, ih others⟩
        obtain ⟨other, placed, rfl⟩ := List.mem_map.1 mem
        rcases mem_place placed with rfl | mem
        · exact Int.lt_iff_le_and_ne.2 ⟨Int.not_lt.1 notLess, Ne.symm different⟩
        · exact first _ (List.mem_map_of_mem mem)

theorem ordered_foldl_insert (rows : List Job) (h : s.Ordered) :
    (rows.foldl insert s).Ordered := by
  induction rows generalizing s with
  | nil => exact h
  | cons job rest ih => exact ih (pairwise_place job h)

theorem find?_of_mem (ordered : s.Ordered) (mem : row ∈ s.jobs) : s.find? row.id = some row := by
  unfold Ordered at ordered
  unfold find?
  generalize s.jobs = jobs at ordered mem
  induction jobs with
  | nil => cases mem
  | cons j rest ih =>
    obtain ⟨first, others⟩ := List.pairwise_cons.1 ordered
    rcases List.mem_cons.1 mem with rfl | mem
    · simp
    · have less : j.id < row.id := first _ (List.mem_map_of_mem mem)
      rw [List.find?_cons_of_neg (by simpa using Int.ne_of_lt less)]
      exact ih others mem

theorem mem_of_find? (found : s.find? k = some row) : row ∈ s.jobs :=
  List.mem_of_find?_eq_some found

theorem row_of_foldl_insert {rows : List Job} (found : (rows.foldl insert s).find? k = some row) :
    row ∈ rows ∨ s.find? k = some row := by
  induction rows generalizing s with
  | nil => exact .inr found
  | cons job rest ih =>
    rcases ih found with mem | found
    · exact .inl (List.mem_cons_of_mem _ mem)
    · rw [find?_insert] at found
      split at found
      · cases found
        exact .inl List.mem_cons_self
      · exact .inr found

def openRows (s : JobStore) (id : Uuid) : List Job :=
  (s.jobsFor id).filter (! ·.status.isTerminal)

/-- The attempts of a connection's jobs that are running, with their jobs. -/
def flights (s : JobStore) (id : Uuid) : List (JobId × Nat) :=
  (s.jobsFor id).flatMap fun j => j.runningAttempts.map (j.id, ·)

theorem mem_openRows (ordered : s.Ordered) :
    row ∈ s.openRows id ↔
      s.find? row.id = some row ∧ row.connectionId = id ∧ row.status.isTerminal = false := by
  unfold openRows jobsFor
  rw [List.mem_filter, List.mem_filter, and_assoc]
  refine and_congr ⟨find?_of_mem ordered, mem_of_find?⟩ (and_congr decide_eq_true_iff ?_)
  rw [Bool.not_eq_true']

theorem nodup_openRows (ordered : s.Ordered) : (s.openRows id).Nodup := by
  refine (List.Nodup.of_map (·.id) ?_).filter _ |>.filter _
  exact ordered.imp fun less => Int.ne_of_lt less

theorem nodup_nonTerminalJobs (ordered : s.Ordered) : (s.nonTerminalJobs id).Nodup := by
  have ids : (s.jobs.map (·.id)).Nodup := ordered.imp fun less => Int.ne_of_lt less
  exact ids.sublist ((List.filter_sublist.trans List.filter_sublist).map _)

theorem mem_nonTerminalJobs (ordered : s.Ordered) :
    k ∈ s.nonTerminalJobs id ↔ ∃ row, s.find? k = some row ∧ row.connectionId = id ∧
      row.status.isTerminal = false := by
  show k ∈ (s.openRows id).map (·.id) ↔ _
  rw [List.mem_map]
  constructor
  · rintro ⟨row, mem, rfl⟩
    exact ⟨row, (mem_openRows ordered).1 mem⟩
  · rintro ⟨row, found, rest⟩
    obtain rfl := id_of_find? found
    exact ⟨row, (mem_openRows ordered).2 ⟨found, rest⟩, rfl⟩

/-- If nothing runs in the jobs that are over, what runs does so in the open ones. -/
theorem flights_eq (ordered : s.Ordered)
    (landed : ∀ k row, s.find? k = some row → row.connectionId = id → row.status.isTerminal →
      row.runningAttempts = []) :
    s.flights id = (s.openRows id).flatMap fun j => j.runningAttempts.map (j.id, ·) := by
  have rows : ∀ row ∈ s.jobsFor id, row.status.isTerminal → row.runningAttempts = [] := by
    intro row mem
    obtain ⟨mem, same⟩ := List.mem_filter.1 mem
    exact landed row.id row (find?_of_mem ordered mem) (of_decide_eq_true same)
  unfold flights openRows
  generalize s.jobsFor id = jobs at rows
  induction jobs with
  | nil => rfl
  | cons j rest ih =>
    have ih := ih fun row mem => rows row (List.mem_cons_of_mem _ mem)
    rw [List.flatMap_cons, ih, List.filter_cons]
    cases terminal : j.status.isTerminal with
    | false => rfl
    | true =>
      rw [rows j List.mem_cons_self terminal]
      rfl

end JobStore

theorem Call.Effect.ordered {id : Uuid} {c : Call} {s t : JobStore} {reply : c.Reply}
    (h : c.Effect id s reply t) (ordered : s.Ordered) : t.Ordered := by
  cases target : c.target with
  | some job =>
    unfold JobStore.Ordered
    rw [(h.revises target).ids]
    exact ordered
  | none =>
    cases c with
    | createJob isReset =>
      obtain ⟨now, h⟩ := h
      cases h
      exact JobStore.pairwise_place _ ordered
    | _ =>
      rw [h.same target fun _ created => by cases created]
      exact ordered

end ConnectorSync.Sync
