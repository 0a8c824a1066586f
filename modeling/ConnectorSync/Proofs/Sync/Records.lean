import ConnectorSync.Proofs.Sync.Rows

/-!
# Records of attempts

Which records of a row a call writes. What has ended abides: the record of an attempt that is not
running and the status of a job that is over are left as they are.
-/

namespace ConnectorSync.Sync

section Attempts

variable {n : Nat} {status : AttemptStatus} {summary : Option FailureSummary}
  {attempts : List Attempt} {a : Attempt}

theorem getElem?_setAttempt_of_ne {i : Nat} (other : a.number ≠ n) (found : attempts[i]? = some a) :
    (JobStore.setAttempt n status summary attempts)[i]? = some a := by
  induction attempts generalizing i with
  | nil => cases found
  | cons first rest ih =>
    unfold JobStore.setAttempt
    split
    · next same =>
      cases i with
      | zero =>
        cases found
        exact absurd same other
      | succ i => exact found
    · cases i with
      | zero => exact found
      | succ i => exact ih found

theorem exists_getElem?_setAttempt (status : AttemptStatus) (summary : Option FailureSummary)
    (mem : n ∈ attempts.map (·.number)) :
    ∃ (i : Nat) (a : Attempt), attempts[i]? = some a ∧ a.number = n ∧
      (JobStore.setAttempt n status summary attempts)[i]? =
        some { a with status, failureSummary := summary } := by
  induction attempts with
  | nil => cases mem
  | cons first rest ih =>
    unfold JobStore.setAttempt
    split
    · next same => exact ⟨0, first, rfl, same, rfl⟩
    · next different =>
      rcases List.mem_cons.1 mem with same | mem
      · exact absurd same.symm different
      · obtain ⟨i, a, found, same, written⟩ := ih mem
        exact ⟨i + 1, a, found, same, written⟩

theorem mem_setAttempt (mem : a ∈ JobStore.setAttempt n status summary attempts) :
    a ∈ attempts ∨ a.status = status ∧ a.failureSummary = summary := by
  induction attempts with
  | nil => cases mem
  | cons first rest ih =>
    unfold JobStore.setAttempt at mem
    split at mem
    · rcases List.mem_cons.1 mem with rfl | mem
      · exact .inr ⟨rfl, rfl⟩
      · exact .inl (List.mem_cons_of_mem first mem)
    · rcases List.mem_cons.1 mem with rfl | mem
      · exact .inl List.mem_cons_self
      · exact (ih mem).imp_left (List.mem_cons_of_mem first)

/-- An attempt is running if it has the number of one that is. -/
theorem status_of_mem_running (distinct : (attempts.map (·.number)).Nodup) (mem : a ∈ attempts)
    (runs : a.number ∈ running attempts) : a.status = .running := by
  obtain ⟨b, mem', same⟩ := List.mem_map.1 runs
  obtain ⟨there, isRunning⟩ := List.mem_filter.1 mem'
  obtain rfl : b = a := List.inj_on_of_nodup_map distinct there mem same
  exact of_decide_eq_true isRunning

end Attempts

/-! ### What has ended -/

/-- What had ended of a job is as it was. -/
structure Job.Abides (j j' : Job) : Prop where
  status : j.status.isTerminal → j'.status = j.status
  attempts : ∀ (i : Nat) (a : Attempt), j.attempts[i]? = some a → a.status ≠ .running →
    j'.attempts[i]? = some a

/-- What had ended of the jobs is as it was. -/
def JobStore.Abides (s t : JobStore) : Prop :=
  ∀ k j, s.find? k = some j → ∃ j', t.find? k = some j' ∧ j.Abides j'

theorem Job.Abides.refl (j : Job) : j.Abides j := ⟨fun _ => rfl, fun _ _ found _ => found⟩

theorem JobStore.Abides.refl (s : JobStore) : s.Abides s :=
  fun _ j found => ⟨j, found, .refl j⟩

namespace Call

variable {id : Uuid} {c : Call} {s t : JobStore} {reply : c.Reply} {k : JobId} {j : Job}

/-- Whether what has ended abides under a call is settled by the row that it writes. -/
theorem Effect.abides_revise (h : c.Effect id s reply t) (target : c.target = some k)
    (found : s.find? k = some j) : s.Abides t ↔ j.Abides (c.revise j) := by
  obtain ⟨⟨row, before, after⟩, others, -⟩ := h.revises target
  obtain rfl := Option.some.inj (before.symm.trans found)
  constructor
  · intro abides
    obtain ⟨j', found', abides⟩ := abides k row before
    rw [after] at found'
    cases found'
    exact abides
  · intro abides i j there
    by_cases same : i = k
    · subst same
      rw [before] at there
      cases there
      exact ⟨_, after, abides⟩
    · exact ⟨j, (others i same).trans there, .refl j⟩

theorem Effect.abides (h : c.Effect id s reply t) (numbered : s.Numbered)
    (target : c.target = none) : s.Abides t := by
  intro i j found
  refine ⟨j, h.keeps numbered found ?_, .refl j⟩
  rw [target]
  exact nofun

variable {job : JobId} {n : Nat} {status : AttemptStatus} {summary : FailureSummary}
  {output : SyncOutput}

theorem abides_createAttempt : j.Abides ((createAttempt job).revise j) := by
  refine ⟨fun _ => rfl, fun i a found _ => ?_⟩
  show (j.attempts ++ _)[i]? = some a
  obtain ⟨inside, -⟩ := List.getElem?_eq_some_iff.1 found
  rw [List.getElem?_append_left inside, found]

theorem abides_reportJobStart (isOpen : j.status.isTerminal = false) :
    j.Abides ((reportJobStart job).revise j) := by
  refine ⟨fun ended => ?_, fun _ _ found _ => found⟩
  rw [isOpen] at ended
  cases ended

theorem abides_setAttempt {j' : Job} (isOpen : j.status.isTerminal = false)
    (distinct : j.numbers.Nodup) (isRunning : n ∈ j.runningAttempts)
    {summary : Option FailureSummary}
    (same : j'.attempts = JobStore.setAttempt n status summary j.attempts) : j.Abides j' := by
  refine ⟨fun ended => ?_, fun i a found ended => ?_⟩
  · rw [isOpen] at ended
    cases ended
  · rw [same]
    refine getElem?_setAttempt_of_ne ?_ found
    rintro rfl
    exact ended (status_of_mem_running distinct (List.mem_of_getElem? found) isRunning)

theorem abides_jobCancelled (isOpen : j.status.isTerminal = false) (distinct : j.numbers.Nodup) :
    j.Abides ((jobCancelled job n summary).revise j) := by
  show j.Abides (j.cancel n summary)
  unfold Job.cancel
  split
  · next isRunning =>
    obtain ⟨a, mem, here⟩ := List.any_eq_true.1 isRunning
    simp only [Bool.and_eq_true, decide_eq_true_eq] at here
    refine abides_setAttempt isOpen distinct ?_ rfl
    exact List.mem_map.2 ⟨a, List.mem_filter.2 ⟨mem, decide_eq_true here.2⟩, here.1⟩
  · refine ⟨fun ended => ?_, fun _ _ found _ => found⟩
    rw [isOpen] at ended
    cases ended

theorem abides_failJob {reason : String}
    (status : j.status.isTerminal = false ∨ j.status = .failed) :
    j.Abides ((failJob job reason).revise j) := by
  refine ⟨fun ended => ?_, fun _ _ found _ => found⟩
  rcases status with isOpen | failed
  · rw [isOpen] at ended
    cases ended
  · exact failed.symm

theorem Effect.mem_numbers {reply : (failAttempt job n status summary).Reply}
    (h : (failAttempt job n status summary).Effect id s reply t)
    (found : s.find? job = some j) : n ∈ j.numbers := by
  obtain ⟨row, got, there, -⟩ := JobStore.updateAttempt_ok h
  obtain rfl := Option.some.inj (found.symm.trans (JobStore.found_of_get got))
  obtain ⟨a, mem, same⟩ := List.any_eq_true.1 there
  exact List.mem_map.2 ⟨a, mem, of_decide_eq_true same⟩

/-- A failure recorded over one that differs in whether there was partial success changes what had
ended. -/
theorem not_abides_failAttempt (there : n ∈ j.numbers) (ended : n ∉ j.runningAttempts)
    (told : ∀ a ∈ j.attempts, a.status ≠ .running → a.failureSummary ≠ some summary) :
    ¬ j.Abides ((failAttempt job n status summary).revise j) := by
  intro abides
  obtain ⟨i, a, found, rfl, written⟩ :=
    exists_getElem?_setAttempt status (some summary) there
  have mem := List.mem_of_getElem? found
  have hasEnded : a.status ≠ .running := fun isRunning => ended
    (List.mem_map.2 ⟨a, List.mem_filter.2 ⟨mem, decide_eq_true isRunning⟩, rfl⟩)
  have same := abides.attempts i a found hasEnded
  have same : some { a with status, failureSummary := some summary } = some a :=
    written.symm.trans same
  refine told a mem hasEnded ?_
  conv_lhs => rw [← Option.some.inj same]

end Call

end ConnectorSync.Sync
