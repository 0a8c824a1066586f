import ConnectorSync.Proofs.Sync.Run

/-!
# Job stores under calls

What a call makes of the job of a number: a call about one job writes the row of that job and leaves
the other jobs alone, and a new job takes a number that no job has.
-/

namespace ConnectorSync.Sync

namespace JobStore

/-! ### Jobs by number -/

theorem find?_place_self (job : Job) (jobs : List Job) :
    (place job jobs).find? (·.id = job.id) = some job := by
  have first (rest : List Job) : (job :: rest).find? (·.id = job.id) = some job :=
    List.find?_cons_of_pos (decide_eq_true rfl)
  induction jobs with
  | nil => exact first []
  | cons j jobs ih =>
    unfold place
    by_cases before : job.id < j.id
    · rw [if_pos before, first]
    rw [if_neg before]
    by_cases same : job.id = j.id
    · rw [if_pos same, first]
    · rw [if_neg same, List.find?_cons_of_neg (by simpa using Ne.symm same), ih]

theorem find?_place_other {job : Job} {id : JobId} (other : job.id ≠ id) (jobs : List Job) :
    (place job jobs).find? (·.id = id) = jobs.find? (·.id = id) := by
  have skips (rest : List Job) : (job :: rest).find? (·.id = id) = rest.find? (·.id = id) :=
    List.find?_cons_of_neg (by simpa using other)
  induction jobs with
  | nil => exact skips []
  | cons j jobs ih =>
    unfold place
    by_cases before : job.id < j.id
    · rw [if_pos before, skips]
    rw [if_neg before]
    by_cases same : job.id = j.id
    · rw [if_pos same, skips, List.find?_cons_of_neg (by simpa [← same] using other)]
    · rw [if_neg same, List.find?_cons, List.find?_cons, ih]

/-- A job that is inserted replaces the one of its number. -/
theorem find?_insert (s : JobStore) (job : Job) (id : JobId) :
    (s.insert job).find? id = if job.id = id then some job else s.find? id := by
  by_cases here : job.id = id
  · subst here
    rw [if_pos rfl]
    exact find?_place_self job s.jobs
  · rw [if_neg here]
    exact find?_place_other here s.jobs

theorem find?_update (s : JobStore) (id k : JobId) (f : Job → Job) (hf : ∀ j, (f j).id = j.id) :
    (s.update id f).find? k = (s.find? k).map fun j => if j.id = id then f j else j := by
  have same : ((fun j : Job => decide (j.id = k)) ∘ fun j => if j.id = id then f j else j) =
      fun j => decide (j.id = k) := by
    funext j
    show decide ((if j.id = id then f j else j).id = k) = decide (j.id = k)
    by_cases h : j.id = id
    · rw [if_pos h, hf]
    · rw [if_neg h]
  show (s.jobs.map _).find? _ = _
  rw [List.find?_map, same]
  rfl

theorem id_of_find? {s : JobStore} {id : JobId} {job : Job} (h : s.find? id = some job) :
    job.id = id := by
  simpa using List.find?_some h

def Numbered (s : JobStore) : Prop := ∀ id job, s.find? id = some job → id ≤ s.lastId

theorem numbered_empty : Numbered {} := by
  intro id job h
  cases h

theorem numbered_insert {s : JobStore} (h : s.Numbered) (job : Job) : (s.insert job).Numbered := by
  intro id j hj
  show id ≤ max s.lastId job.id
  rw [find?_insert] at hj
  by_cases he : job.id = id
  · exact he ▸ Int.le_max_right _ _
  · rw [if_neg he] at hj
    exact Int.le_trans (h id j hj) (Int.le_max_left _ _)

theorem numbered_foldl_insert {s : JobStore} (h : s.Numbered) (rows : List Job) :
    (rows.foldl insert s).Numbered := by
  induction rows generalizing s with
  | nil => exact h
  | cons job rows ih => exact ih (numbered_insert h job)

end JobStore

/-! ### What a call writes -/

open JobStore in
/-- The job is cancelled, and its attempt of a number if that is running. -/
def Job.cancel (j : Job) (n : Nat) (summary : FailureSummary) : Job :=
  if j.attempts.any fun a => a.number = n && a.status = .running then
    { j with
      attempts := setAttempt n .cancelled (some summary) j.attempts
      status := .cancelled }
  else { j with status := .cancelled }

open JobStore in
/-- What a call makes of the row of its job. -/
def Call.revise : Call → Job → Job
  | createAttempt _, j =>
    { j with attempts := j.attempts ++ [⟨j.attempts.length + 1, .running, none⟩] }
  | reportJobStart _, j => { j with status := .running }
  | failAttempt _ n status summary, j =>
    { j with
      attempts := setAttempt n status (some summary) j.attempts
      status := status.jobStatus }
  | failJob .., j => { j with status := .failed }
  | jobSuccess _ n _, j =>
    { j with
      attempts := setAttempt n .succeeded none j.attempts
      status := .succeeded }
  | jobCancelled _ n summary, j => j.cancel n summary
  | _, j => j

/-- The row of a number is written anew, and nothing else is. -/
structure JobStore.Revises (s : JobStore) (id : JobId) (f : Job → Job) (t : JobStore) : Prop where
  found : ∃ row, s.find? id = some row ∧ t.find? id = some (f row)
  others : ∀ k ≠ id, t.find? k = s.find? k
  ids : t.jobs.map (·.id) = s.jobs.map (·.id)
  lastId : t.lastId = s.lastId

namespace JobStore

variable {s t : JobStore} {id : JobId} {row : Job}

theorem found_of_get (h : s.get id = .ok row) : s.find? id = some row := by
  unfold get at h
  split at h
  · next job found =>
    cases h
    exact found
  · cases h

theorem revises_update (h : s.get id = .ok row) (f g : Job → Job) (keeps : ∀ j, (g j).id = j.id)
    (same : g row = f row) : s.Revises id f (s.update id g) := by
  have found := found_of_get h
  refine ⟨⟨row, found, ?_⟩, fun k other => ?_, ?_, rfl⟩
  · rw [find?_update s id id g keeps, found, ← same]
    simp [id_of_find? found]
  · rw [find?_update s id k g keeps]
    cases hj : s.find? k with
    | none => rfl
    | some j => simp [id_of_find? hj, other]
  · show (s.jobs.map _).map _ = _
    rw [List.map_map]
    refine List.map_congr_left fun j _ => ?_
    show (if j.id = id then g j else j).id = j.id
    split
    · exact keeps j
    · rfl

theorem Revises.of_jobs {f : Job → Job} {t' : JobStore} (h : s.Revises id f t)
    (same : t'.jobs = t.jobs) (last : t'.lastId = t.lastId) : s.Revises id f t' := by
  have found (k : JobId) : t'.find? k = t.find? k := by
    unfold find?
    rw [same]
  obtain ⟨⟨row, before, after⟩, others, ids, lastId⟩ := h
  refine ⟨⟨row, before, (found id).trans after⟩, fun k other => ?_, by rw [same, ids],
    last.trans lastId⟩
  exact (found k).trans (others k other)

theorem Revises.congr {f g : Job → Job} (h : s.Revises id f t)
    (same : ∀ row, s.find? id = some row → f row = g row) : s.Revises id g t := by
  obtain ⟨⟨row, before, after⟩, others, ids, lastId⟩ := h
  exact ⟨⟨row, before, after.trans (congrArg some (same row before))⟩, others, ids, lastId⟩

theorem setStatus_ok {status : JobStatus} (h : s.setStatus id status = .ok t) :
    ∃ row, s.get id = .ok row ∧ t = s.update id fun j => { j with status } := by
  unfold setStatus at h
  cases got : s.get id with
  | error e =>
    rw [got] at h
    cases h
  | ok row =>
    rw [got] at h
    cases h
    exact ⟨row, rfl, rfl⟩

theorem updateAttempt_ok {n : Nat} {status : AttemptStatus} {summary : Option FailureSummary}
    (h : s.updateAttempt id n status summary = .ok t) :
    ∃ row, s.get id = .ok row ∧ row.attempts.any (·.number = n) ∧ t = s.update id fun j =>
      { j with
        attempts := setAttempt n status summary j.attempts
        status := status.jobStatus } := by
  unfold updateAttempt at h
  cases got : s.get id with
  | error e =>
    rw [got] at h
    cases h
  | ok row =>
    simp only [got, bind, Except.bind, pure, Except.pure] at h
    split at h
    · next there =>
      cases h
      exact ⟨row, rfl, there, rfl⟩
    · cases h

theorem failJob_ok {reason : String} (h : s.failJob id reason = .ok t) :
    ∃ u, s.setStatus id .failed = .ok u ∧
      t = { u with failureReasons := (id, reason) :: u.failureReasons.filter (·.1 ≠ id) } := by
  unfold failJob at h
  cases set : s.setStatus id .failed with
  | error e =>
    rw [set] at h
    cases h
  | ok u =>
    rw [set] at h
    cases h
    exact ⟨u, rfl, rfl⟩

theorem setStatus_revises {status : JobStatus} (h : s.setStatus id status = .ok t) :
    s.Revises id (fun j => { j with status }) t := by
  obtain ⟨row, got, rfl⟩ := setStatus_ok h
  exact revises_update got _ _ (fun _ => rfl) rfl

theorem updateAttempt_revises {n : Nat} {status : AttemptStatus} {summary : Option FailureSummary}
    (h : s.updateAttempt id n status summary = .ok t) :
    s.Revises id (fun j => { j with
      attempts := setAttempt n status summary j.attempts
      status := status.jobStatus }) t := by
  obtain ⟨row, got, -, rfl⟩ := updateAttempt_ok h
  exact revises_update got _ _ (fun _ => rfl) rfl

structure Changes (s : JobStore) (id : JobId) (status : JobStatus → JobStatus) (t : JobStore) :
    Prop where
  found : ∃ job job', s.find? id = some job ∧ t.find? id = some job' ∧
    job'.isReset = job.isReset ∧ job'.status = status job.status
  others : ∀ k ≠ id, t.find? k = s.find? k
  lastId : t.lastId = s.lastId

end JobStore

/-! ### Calls -/

namespace Call

/-- The job that a call is about to change. -/
def target : Call → Option JobId
  | createAttempt job | reportJobStart job | failAttempt job .. | failJob job _ | jobSuccess job ..
  | jobCancelled job .. => some job
  | _ => none

def leaves : Call → JobStatus → JobStatus
  | reportJobStart _, _ => .running
  | failAttempt _ _ status _, _ => status.jobStatus
  | failJob .., _ => .failed
  | jobSuccess .., _ => .succeeded
  | jobCancelled .., _ => .cancelled
  | _, status => status

def closes : Call → Bool
  | jobSuccess .. | jobCancelled .. | failJob .. => true
  | _ => false

variable {id : Uuid} {c : Call} {s t : JobStore} {reply : c.Reply}

theorem isTerminal_of_closes (h : c.closes) (status : JobStatus) :
    (c.leaves status).isTerminal := by
  cases c with
  | jobSuccess | jobCancelled | failJob => rfl
  | _ => cases h

theorem Effect.revises {job : JobId} (h : c.Effect id s reply t) (target : c.target = some job) :
    s.Revises job c.revise t := by
  cases c with
  | createAttempt j =>
    cases target
    have h : s.createAttempt job = .ok (reply, t) := h
    unfold JobStore.createAttempt at h
    cases got : s.get job with
    | error e =>
      rw [got] at h
      cases h
    | ok row =>
      simp only [got, bind, Except.bind, pure, Except.pure, Except.ok.injEq, Prod.mk.injEq] at h
      obtain ⟨-, rfl⟩ := h
      exact JobStore.revises_update got _ _ (fun _ => rfl) rfl
  | reportJobStart j =>
    cases target
    exact JobStore.setStatus_revises h
  | failAttempt j n status summary =>
    cases target
    exact JobStore.updateAttempt_revises h
  | failJob j reason =>
    cases target
    obtain ⟨u, set, rfl⟩ := JobStore.failJob_ok h
    exact (JobStore.setStatus_revises set).of_jobs rfl rfl
  | jobSuccess j n output =>
    cases target
    have h : s.jobSuccess job n output = .ok t := h
    unfold JobStore.jobSuccess at h
    cases set : s.updateAttempt job n .succeeded none with
    | error e =>
      rw [set] at h
      cases h
    | ok u =>
      rw [set] at h
      cases h
      exact (JobStore.updateAttempt_revises set).of_jobs rfl rfl
  | jobCancelled j n summary =>
    cases target
    have h : s.jobCancelled job n summary = .ok t := h
    unfold JobStore.jobCancelled at h
    dsimp only at h
    split at h
    · next isRunning =>
      refine (JobStore.updateAttempt_revises h).congr fun row found => ?_
      rw [found, Option.any_some] at isRunning
      simp only [revise, Job.cancel, if_pos isRunning]
      rfl
    · next notRunning =>
      refine (JobStore.setStatus_revises h).congr fun row found => ?_
      rw [found, Option.any_some] at notRunning
      simp only [revise, Job.cancel, if_neg notRunning]
  | _ => cases target

/-- A call writes nothing but the attempts and the status of its job. -/
theorem revise_eq (c : Call) (j : Job) :
    ∃ attempts, c.revise j = { j with attempts, status := c.leaves j.status } := by
  cases c with
  | jobCancelled job n summary =>
    show ∃ attempts, j.cancel n summary = _
    unfold Job.cancel
    split
    · exact ⟨_, rfl⟩
    · exact ⟨j.attempts, rfl⟩
  | _ => exact ⟨_, rfl⟩

theorem revise_connectionId {j : Job} : (c.revise j).connectionId = j.connectionId := by
  obtain ⟨attempts, same⟩ := c.revise_eq j
  rw [same]

theorem revise_status {j : Job} : (c.revise j).status = c.leaves j.status := by
  obtain ⟨attempts, same⟩ := c.revise_eq j
  rw [same]

theorem revise_isReset {j : Job} : (c.revise j).isReset = j.isReset := by
  obtain ⟨attempts, same⟩ := c.revise_eq j
  rw [same]

theorem Effect.changes {job : JobId} (h : c.Effect id s reply t) (hj : c.target = some job) :
    s.Changes job c.leaves t := by
  obtain ⟨⟨row, before, after⟩, others, -, lastId⟩ := h.revises hj
  exact ⟨⟨row, c.revise row, before, after, revise_isReset, revise_status⟩, others, lastId⟩

/-- A new job is pending and has no attempts. -/
theorem Effect.opened {isReset : Bool} {job : JobId}
    (h : (createJob isReset).Effect id s job t) : ∃ now, ∀ k,
      t.find? k = if job = k then some ⟨job, id, isReset, .pending, [], now⟩ else s.find? k := by
  obtain ⟨now, h⟩ := h
  cases h
  exact ⟨now, fun k => JobStore.find?_insert s _ k⟩

/-- A new job has the next number, and is pending. -/
theorem Effect.created {isReset : Bool} {job : JobId}
    (h : (createJob isReset).Effect id s job t) :
    job = s.lastId + 1 ∧ t.lastId = max s.lastId job ∧ ∃ row : Job,
      row.isReset = isReset ∧ row.status = .pending ∧
      ∀ k, t.find? k = if job = k then some row else s.find? k := by
  obtain ⟨now, rows⟩ := h.opened
  obtain ⟨_, h⟩ := h
  cases h
  exact ⟨rfl, rfl, _, rfl, rfl, rows⟩

theorem Effect.same (h : c.Effect id s reply t) (hj : c.target = none)
    (hc : ∀ isReset, c ≠ createJob isReset) : t = s := by
  cases c with
  | createJob isReset => exact absurd rfl (hc isReset)
  | getJob job => exact h.2
  | nonTerminalJobs => exact h.2
  | isLastFailure job => exact h.2
  | createAttempt | reportJobStart | failAttempt | failJob | jobSuccess | jobCancelled => cases hj
  | _ => exact h

theorem Effect.numbered (h : c.Effect id s reply t) (hn : s.Numbered) : t.Numbered := by
  intro k row hk
  cases ht : c.target with
  | some job =>
    have changes := h.changes ht
    rw [changes.lastId]
    obtain ⟨old, _, found, -⟩ := changes.found
    by_cases hj : k = job
    · exact hj ▸ hn job old found
    · exact hn k row ((changes.others k hj).symm.trans hk)
  | none =>
    cases c with
    | createJob isReset =>
      obtain ⟨-, hl, _, -, -, rows⟩ := h.created
      rw [rows] at hk
      rw [hl]
      by_cases hj : reply = k
      · exact hj ▸ Int.le_max_right _ _
      · rw [if_neg hj] at hk
        exact Int.le_trans (hn k row hk) (Int.le_max_left _ _)
    | _ =>
      rw [h.same ht (fun _ created => by cases created)] at hk ⊢
      exact hn k row hk

/-- A call leaves the jobs alone that it is not about. -/
theorem Effect.keeps {k : JobId} {row : Job} (h : c.Effect id s reply t) (hn : s.Numbered)
    (hk : s.find? k = some row) (hc : c.target ≠ some k) : t.find? k = some row := by
  cases ht : c.target with
  | some job =>
    have hj : k ≠ job := fun he => hc (he ▸ ht)
    rw [(h.changes ht).others k hj, hk]
  | none =>
    cases c with
    | createJob isReset =>
      obtain ⟨hr, -, _, -, -, rows⟩ := h.created
      have hj : reply ≠ k := by
        intro he
        have le : k ≤ s.lastId := hn k row hk
        rw [← he, hr] at le
        exact absurd le (Int.not_le.mpr (Int.lt_succ _))
      rw [rows, if_neg hj, hk]
    | _ => rw [h.same ht (fun _ created => by cases created), hk]

theorem Effect.lastId_le (h : c.Effect id s reply t) : s.lastId ≤ t.lastId := by
  cases target : c.target with
  | some job => exact Int.le_of_eq (h.revises target).lastId.symm
  | none =>
    cases c with
    | createJob isReset =>
      rw [h.created.2.1]
      exact Int.le_max_left _ _
    | _ =>
      have same := h.same target fun _ created => by cases created
      exact Int.le_of_eq (congrArg JobStore.lastId same.symm)

/-- A row is one that the call has written or left alone, or that of a new job. -/
theorem Effect.row {k : JobId} {row : Job} (h : c.Effect id s reply t)
    (found : t.find? k = some row) :
    (c.target = some k ∧ ∃ old, s.find? k = some old ∧ row = c.revise old) ∨
      (c.target ≠ some k ∧ s.find? k = some row) ∨
      k = s.lastId + 1 ∧ ∃ isReset now, row = ⟨k, id, isReset, .pending, [], now⟩ := by
  cases target : c.target with
  | some job =>
    obtain ⟨⟨old, before, after⟩, others, -⟩ := h.revises target
    by_cases same : k = job
    · subst same
      rw [after] at found
      exact .inl ⟨rfl, old, before, (Option.some.inj found).symm⟩
    · refine .inr (.inl ⟨fun here => same (Option.some.inj here).symm, ?_⟩)
      exact (others k same).symm.trans found
  | none =>
    right
    cases c with
    | createJob isReset =>
      obtain ⟨now, rows⟩ := h.opened
      rw [rows] at found
      split at found
      · next same =>
        cases found
        exact .inr ⟨same ▸ h.created.1, isReset, now, by rw [← same]⟩
      · exact .inl ⟨nofun, found⟩
    | _ =>
      rw [h.same target fun _ created => by cases created] at found
      exact .inl ⟨nofun, found⟩

theorem Effect.isReset {k : JobId} {row : Job} (h : c.Effect id s reply t) (hn : s.Numbered)
    (hk : s.find? k = some row) : ∃ row', t.find? k = some row' ∧ row'.isReset = row.isReset := by
  by_cases hc : c.target = some k
  · obtain ⟨job, job', found, found', hr, -⟩ := (h.changes hc).found
    obtain rfl := Option.some.inj (found.symm.trans hk)
    exact ⟨job', found', hr⟩
  · exact ⟨row, h.keeps hn hk hc, rfl⟩

end Call

end ConnectorSync.Sync
