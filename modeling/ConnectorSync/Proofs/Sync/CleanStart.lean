import Mathlib.Data.List.Forall2
import ConnectorSync.Proofs.Surroundings
import ConnectorSync.Proofs.Sync.Records
import ConnectorSync.Proofs.Sync.Replay

/-!
# A clean start

A generation that begins without a job first fails the jobs of its connection that were left open,
with their running attempts. Its calls may fail, and one that fails may have been carried out all
the same; each is made again until it is answered, or has failed too often.
-/

namespace ConnectorSync.Sync

/-! ### What is left of the jobs -/

def Job.IsStale (id : Uuid) (row : Job) : Prop :=
  row.connectionId = id ∧ row.status.isTerminal = false

/-- An attempt that was running has failed for one reason; any other is as it was. -/
def Attempt.Cleaned (job : JobId) (a a' : Attempt) : Prop :=
  if a.status = .running then
    ∃ reason : FailureReason, a' = ⟨a.number, .failed, some ⟨[reason], none⟩⟩ ∧
      reason.origin = .platform ∧ reason.kind = .systemError ∧
      reason.jobId = some job ∧ reason.attempt = some a.number
  else a' = a

/-- A job has failed because its connection started afresh. -/
def Job.FailedIn (row : Job) (t : JobStore) : Prop :=
  t.failureReason row.id = some Manager.staleJobReason ∧
    ∃ attempts, t.find? row.id = some { row with status := .failed, attempts } ∧
      List.Forall₂ (Attempt.Cleaned row.id) row.attempts attempts

structure JobStore.KeepsBut (jobs : JobId → Prop) (s t : JobStore) : Prop where
  rows : ∀ k, ¬ jobs k → t.find? k = s.find? k
  reasons : ∀ k, ¬ jobs k → t.failureReason k = s.failureReason k
  outputs : t.outputs = s.outputs
  lastId : t.lastId = s.lastId

structure JobStore.FailedOnly (jobs : JobId → Prop) (s t : JobStore) : Prop
    extends JobStore.KeepsBut jobs s t where
  failed : ∀ k row, jobs k → s.find? k = some row → row.FailedIn t

/-! ### Calls that are lost -/

/-- The jobs, and how often in a row the call at hand has failed. -/
structure Desk where
  jobs : JobStore
  failures : Nat := 0

inductive Desk.Answers (id : Uuid) (d : Desk) : (r : Request) → r.Answer → Desk → Prop
  | carried {c : Call} (reply : c.Reply) (jobs : JobStore) (h : c.Effect id d.jobs reply jobs) :
    Answers id d (.call c) (.ok reply) ⟨jobs, 0⟩
  | failed {c : Call} (e : ActivityError) :
    Answers id d (.call c) (.error e) ⟨d.jobs, d.failures + 1⟩
  | lost {c : Call} (e : ActivityError) (reply : c.Reply) (jobs : JobStore)
    (h : c.Effect id d.jobs reply jobs) :
    Answers id d (.call c) (.error e) ⟨jobs, d.failures + 1⟩
  | other {r : Request} (a : r.Answer) (h : ∀ c, r ≠ .call c) : Answers id d r a d

def desk (id : Uuid) : Surroundings Request Request.Answer Desk where
  Happens _ _ := False
  Answers := Desk.Answers id

theorem lasts_desk {id : Uuid} (P : Desk → Prop) : (desk id).Lasts P :=
  fun _ _ _ happens => happens.elim

inductive Ends {α : Type} (most : Nat) (Q : α → JobStore → Prop) :
    Except ActivityFailure α × RunInput → Desk → Prop
  | ok {a : α} {input : RunInput} {s : JobStore} (h : Q a s) : Ends most Q (.ok a, input) ⟨s, 0⟩
  | error {failure : ActivityFailure} {input : RunInput} {d : Desk} (h : most ≤ d.failures) :
    Ends most Q (.error failure, input) d

namespace Manager

variable {m : Manager} {id : Uuid} {α β : Type} {input : RunInput} {d : Desk} {s : JobStore}
  {most : Nat}

/-- A part of a generation ends with a result of a property, however often its calls fail. -/
def Comes (id : Uuid) (most : Nat) (Q : α → JobStore → Prop) (part : Generation α) (d : Desk) :
    Prop :=
  ∀ input, (desk id).Leads (Ends most Q) (part.run.run input) d

namespace Comes

variable {Q : α → JobStore → Prop} {R : β → JobStore → Prop}

theorem pure {a : α} (h : Q a s) : Comes id most Q (Pure.pure a) ⟨s, 0⟩ := fun _ => .ok h

theorem bind {part : Generation β} {f : β → Generation α} (h : Comes id most R part d)
    (go : ∀ b t, R b t → Comes id most Q (f b) ⟨t, 0⟩) : Comes id most Q (part >>= f) d := by
  intro input
  rw [ExceptT.run_bind, StateT.run_bind]
  refine (h input).bind fun ended t r => ?_
  cases r with
  | ok r => exact go _ _ r _
  | error spent => exact .error spent

theorem ask {r : Request} {f : r.Answer → Generation α}
    (go : ∀ a t, Desk.Answers id d r a t → Comes id most Q (f a) t) :
    Comes id most Q (Manager.ask r >>= f) d := by
  intro input
  refine .request (lasts_desk (· = d)) rfl ?_
  rintro _ a t rfl answers
  exact go a t answers input

theorem mono {Q' : α → JobStore → Prop} {part : Generation α} (h : Comes id most Q part d)
    (weaker : ∀ a t, Q a t → Q' a t) : Comes id most Q' part d := by
  refine fun input => (h input).mono fun ended t ends => ?_
  cases ends with
  | ok q => exact .ok (weaker _ _ q)
  | error spent => exact .error spent

/-- A call that is lost was carried out before it is made again: what it needs has to outlast it. -/
theorem retrying {c : Call} {I : JobStore → Prop} {Q : c.Reply → JobStore → Prop}
    (keeps : ∀ {s reply t}, I s → c.Effect id s reply t → I t ∧ Q reply t) (left failed : Nat)
    (holds : I d.jobs) (count : d.failures = failed) :
    Comes id (failed + left + 1) Q (m.retrying c left failed) d := by
  induction left generalizing failed d with
  | zero =>
    rw [Manager.retrying]
    refine .ask fun a t answers => ?_
    cases answers with
    | carried reply jobs effect => exact .pure (keeps holds effect).2
    | failed | lost => exact fun _ => .error (by simp [count])
    | other _ notCall => exact absurd rfl (notCall c)
  | succ left ih =>
    have again {u : Desk} (holds : I u.jobs) (count : u.failures = failed + 1) :
        Comes id (failed + (left + 1) + 1) Q (do
          Manager.ask (.pause (m.config.retryDelay (failed + 1)))
          m.retrying c left (failed + 1)) u := by
      refine .ask fun _ v paused => ?_
      cases paused with
      | other =>
        have comes := ih (failed + 1) holds count
        rwa [Nat.add_right_comm failed 1 left] at comes
    rw [Manager.retrying]
    refine .ask fun a t answers => ?_
    cases answers with
    | carried reply jobs effect => exact .pure (keeps holds effect).2
    | failed e => exact again holds (by simp [count])
    | lost e reply jobs effect => exact again (keeps holds effect).1 (by simp [count])
    | other _ notCall => exact absurd rfl (notCall c)

theorem mandatory (c : Call) {I : JobStore → Prop} {Q : c.Reply → JobStore → Prop}
    (keeps : ∀ {s reply t}, I s → c.Effect id s reply t → I t ∧ Q reply t) (holds : I s) :
    Comes id (max m.config.activityMaxAttempts 1) Q (m.mandatory c) ⟨s, 0⟩ := by
  have comes := retrying (m := m) keeps (m.config.activityMaxAttempts - 1) 0
    (show I (Desk.mk s 0).jobs from holds) rfl
  have most : 0 + (m.config.activityMaxAttempts - 1) + 1 = max m.config.activityMaxAttempts 1 := by
    omega
  rwa [most] at comes

end Comes

end Manager

/-! ### One attempt after the other -/

section Attempts

variable {job : JobId} {n : Nat} {owed : List Nat} {a a' : Attempt} {orig now : List Attempt}

def Attempt.Cleaning (job : JobId) (owed : List Nat) (a a' : Attempt) : Prop :=
  a.Cleaned job a' ∨ a.number ∈ owed ∧ a' = a

theorem Attempt.Cleaned.number (h : a.Cleaned job a') : a'.number = a.number := by
  unfold Attempt.Cleaned at h
  split at h
  · obtain ⟨reason, rfl, -⟩ := h
    rfl
  · rw [h]

theorem Attempt.Cleaning.number (h : a.Cleaning job owed a') : a'.number = a.number := by
  rcases h with cleaned | ⟨-, rfl⟩
  · exact cleaned.number
  · rfl

theorem Attempt.Cleaning.of_ne (h : a.Cleaning job (n :: owed) a') (other : a.number ≠ n) :
    a.Cleaning job owed a' := by
  refine h.imp_right fun ⟨mem, same⟩ => ⟨?_, same⟩
  exact (List.mem_cons.1 mem).resolve_left other

theorem cleaned_staleState (isRunning : a.status = .running) (same : a'.number = a.number)
    (now : Timestamp) : a.Cleaned job { a' with
      status := .failed
      failureSummary := some (.ofReasons [.staleState job (some a.number) now] none) } := by
  unfold Attempt.Cleaned
  rw [if_pos isRunning]
  refine ⟨.staleState job (some a.number) now, ?_, rfl, rfl, rfl, rfl⟩
  rw [same]
  unfold FailureSummary.ofReasons
  rw [List.mergeSort_singleton]

theorem forall₂_setAttempt (time : Timestamp) (distinct : (orig.map (·.number)).Nodup)
    (runs : ∀ a ∈ orig, a.number = n → a.status = .running)
    (h : List.Forall₂ (Attempt.Cleaning job (n :: owed)) orig now) :
    List.Forall₂ (Attempt.Cleaning job owed) orig (JobStore.setAttempt n .failed
      (some (.ofReasons [.staleState job (some n) time] none)) now) := by
  induction h with
  | nil => exact .nil
  | @cons a a' orig now head tail ih =>
    obtain ⟨fresh, distinct⟩ := List.nodup_cons.1 distinct
    unfold JobStore.setAttempt
    split
    · next same =>
      -- No later attempt has this number, so none of those is still owed for it.
      have number : a.number = n := head.number.symm.trans same
      subst number
      have isRunning := runs a List.mem_cons_self rfl
      refine .cons (.inl (cleaned_staleState isRunning head.number time)) ?_
      refine ((List.forall₂_and_left orig now).2 ⟨fun b mem => mem, tail⟩).imp ?_
      rintro b b' ⟨mem, cleaning⟩
      exact cleaning.of_ne fun same => fresh (List.mem_map.2 ⟨b, mem, same⟩)
    · next other =>
      have different : a.number ≠ n := fun same => other (head.number.trans same)
      exact .cons (head.of_ne different) (ih distinct fun b mem => runs b (.tail a mem))

end Attempts

/-! ### One job after the other -/

namespace JobStore

variable {jobs more : JobId → Prop} {job : JobId} {s t u : JobStore}

theorem KeepsBut.refl (jobs : JobId → Prop) (s : JobStore) : s.KeepsBut jobs s :=
  ⟨fun _ _ => rfl, fun _ _ => rfl, rfl, rfl⟩

theorem KeepsBut.trans (first : s.KeepsBut jobs t) (second : t.KeepsBut jobs u) :
    s.KeepsBut jobs u where
  rows k other := (second.rows k other).trans (first.rows k other)
  reasons k other := (second.reasons k other).trans (first.reasons k other)
  outputs := second.outputs.trans first.outputs
  lastId := second.lastId.trans first.lastId

theorem KeepsBut.mono (h : s.KeepsBut jobs t) (sub : ∀ k, jobs k → more k) :
    s.KeepsBut more t where
  rows k other := h.rows k (mt (sub k) other)
  reasons k other := h.reasons k (mt (sub k) other)
  outputs := h.outputs
  lastId := h.lastId

theorem failureReason_of_failJob {reason : String} (h : s.failJob job reason = .ok t) (k : JobId) :
    t.failureReason k = if k = job then some reason else s.failureReason k := by
  obtain ⟨u, set, rfl⟩ := failJob_ok h
  obtain ⟨row, -, rfl⟩ := setStatus_ok set
  show Option.map _ (List.find? _ ((job, reason) :: s.failureReasons.filter _)) = _
  by_cases same : k = job
  · rw [if_pos same, List.find?_cons_of_pos (by simp [same])]
    rfl
  · rw [if_neg same, List.find?_cons_of_neg (by simpa using Ne.symm same), List.find?_filter]
    unfold failureReason
    congr 2
    funext entry
    by_cases here : entry.1 = k
    · simp [here, same]
    · simp [here]

theorem keepsBut_failAttempt {n : Nat} {status : AttemptStatus} {summary : FailureSummary}
    (h : s.failAttempt job n status summary = .ok t) : s.KeepsBut (· = job) t := by
  have revises := updateAttempt_revises h
  obtain ⟨row, -, -, rfl⟩ := updateAttempt_ok h
  exact ⟨revises.others, fun _ _ => rfl, rfl, rfl⟩

theorem keepsBut_failJob {reason : String} (h : s.failJob job reason = .ok t) :
    s.KeepsBut (· = job) t := by
  have reasons := failureReason_of_failJob h
  obtain ⟨u, set, rfl⟩ := failJob_ok h
  have revises := setStatus_revises set
  obtain ⟨row, -, rfl⟩ := setStatus_ok set
  exact ⟨revises.others, fun k other => (reasons k).trans (if_neg other), rfl, rfl⟩

/-- Some attempts of a job are yet to be failed, and nothing is changed but the job. -/
structure Cleaning (row : Job) (owed : List Nat) (s t : JobStore) : Prop
    extends KeepsBut (· = row.id) s t where
  row : ∃ status attempts, t.find? row.id = some { row with status, attempts } ∧
    List.Forall₂ (Attempt.Cleaning row.id owed) row.attempts attempts

variable {row : Job} {owed : List Nat} {n : Nat} {now : Timestamp}

theorem cleaning_runningAttempts (found : s.find? row.id = some row) :
    Cleaning row row.runningAttempts s s where
  toKeepsBut := .refl _ s
  row := by
    refine ⟨row.status, row.attempts, found, ?_⟩
    refine List.forall₂_same.2 fun a mem => ?_
    by_cases isRunning : a.status = .running
    · refine .inr ⟨List.mem_map.2 ⟨a, List.mem_filter.2 ⟨mem, ?_⟩, rfl⟩, rfl⟩
      exact decide_eq_true isRunning
    · left
      unfold Attempt.Cleaned
      rw [if_neg isRunning]

theorem Cleaning.cons (h : Cleaning row owed s t) (n : Nat) : Cleaning row (n :: owed) s t where
  toKeepsBut := h.toKeepsBut
  row := by
    obtain ⟨status, attempts, found, cleaning⟩ := h.row
    refine ⟨status, attempts, found, cleaning.imp fun a a' cleaning => ?_⟩
    exact cleaning.imp_right fun ⟨mem, same⟩ => ⟨.tail n mem, same⟩

theorem Cleaning.failAttempt (h : Cleaning row (n :: owed) s t) (distinct : row.numbers.Nodup)
    (runs : n ∈ row.runningAttempts)
    (carried : t.failAttempt row.id n .failed
      (.ofReasons [.staleState row.id (some n) now] none) = .ok u) : Cleaning row owed s u where
  toKeepsBut := h.toKeepsBut.trans (keepsBut_failAttempt carried)
  row := by
    obtain ⟨status, attempts, found, cleaning⟩ := h.row
    obtain ⟨⟨row', before, after⟩, -⟩ := updateAttempt_revises carried
    obtain rfl := Option.some.inj (found.symm.trans before)
    refine ⟨_, _, after, forall₂_setAttempt now distinct (fun a mem same => ?_) cleaning⟩
    subst same
    exact status_of_mem_running distinct mem runs

theorem Cleaning.failJob (h : Cleaning row [] s t) (found : s.find? row.id = some row)
    (carried : t.failJob row.id Manager.staleJobReason = .ok u) :
    Cleaning row [] s u ∧ s.FailedOnly (· = row.id) u := by
  have kept := h.toKeepsBut.trans (keepsBut_failJob carried)
  obtain ⟨status, attempts, there, cleaning⟩ := h.row
  have effect : (Call.failJob row.id Manager.staleJobReason).Effect row.connectionId t () u :=
    carried
  obtain ⟨row', before, after⟩ := (effect.revises rfl).found
  obtain rfl := Option.some.inj (there.symm.trans before)
  refine ⟨⟨kept, _, _, after, cleaning⟩, kept, fun k row' here found' => ?_⟩
  subst here
  obtain rfl := Option.some.inj (found.symm.trans found')
  refine ⟨?_, attempts, after, cleaning.imp fun a a' cleaning => ?_⟩
  · rw [failureReason_of_failJob carried, if_pos rfl]
  · exact cleaning.resolve_right fun ⟨mem, _⟩ => nomatch mem

theorem FailedOnly.cons {rest : List JobId} (fresh : job ∉ rest)
    (first : s.FailedOnly (· = job) t) (later : t.FailedOnly (· ∈ rest) u) :
    s.FailedOnly (· ∈ job :: rest) u where
  toKeepsBut := by
    refine (first.toKeepsBut.mono fun k same => ?_).trans
      (later.toKeepsBut.mono fun k mem => List.mem_cons_of_mem job mem)
    rw [same]
    exact List.mem_cons_self
  failed k row mem found := by
    rcases List.mem_cons.1 mem with rfl | mem
    · -- The jobs that follow leave the row alone.
      obtain ⟨reason, attempts, there, cleaned⟩ := first.failed k row rfl found
      obtain rfl := id_of_find? found
      refine ⟨(later.reasons _ fresh).trans reason, attempts, ?_, cleaned⟩
      exact (later.rows _ fresh).trans there
    · have other : k ≠ job := fun same => fresh (same ▸ mem)
      exact later.failed k row mem ((first.rows k other).trans found)

end JobStore

namespace Manager.Comes

open JobStore

variable {m : Manager} {s t : JobStore} {row : Job}

theorem failAttempts {left : List Nat} (distinct : row.numbers.Nodup)
    (run : ∀ n ∈ left, n ∈ row.runningAttempts) (cleaning : Cleaning row left s t) :
    Comes m.connectionId (max m.config.activityMaxAttempts 1) (fun _ t => Cleaning row [] s t)
      (left.forM fun attempt => do
        let now ← Manager.ask .time
        let reason := FailureReason.staleState row.id (some attempt) now
        m.mandatory (.failAttempt row.id attempt .failed (.ofReasons [reason] none))) ⟨t, 0⟩ := by
  induction left generalizing t with
  | nil => exact .pure cleaning
  | cons n left ih =>
    obtain ⟨runs, run⟩ := List.forall_mem_cons.1 run
    rw [List.forM]
    refine .bind (R := fun _ u => Cleaning row left s u) ?_ fun _ u cleaning => ih run cleaning
    refine .ask fun now d answers => ?_
    cases answers with
    | other =>
      refine mandatory (.failAttempt row.id n ..) (I := Cleaning row (n :: left) s) ?_ cleaning
      intro t _ u cleaning carried
      have done := cleaning.failAttempt distinct runs carried
      exact ⟨done.cons n, done⟩

theorem failStaleJob (found : s.find? row.id = some row) (distinct : row.numbers.Nodup) :
    Comes m.connectionId (max m.config.activityMaxAttempts 1)
      (fun _ t => s.FailedOnly (· = row.id) t) (m.failStaleJob row.id) ⟨s, 0⟩ := by
  have got : Comes m.connectionId (max m.config.activityMaxAttempts 1)
      (fun record t => record = row ∧ t = s) (m.mandatory (.getJob row.id)) ⟨s, 0⟩ := by
    refine mandatory (.getJob row.id) (I := (· = s)) ?_ rfl
    rintro s record t rfl ⟨got, rfl⟩
    exact ⟨rfl, Option.some.inj ((found_of_get got).symm.trans found), rfl⟩
  refine got.bind ?_
  rintro _ _ ⟨rfl, rfl⟩
  refine .bind (failAttempts distinct (fun _ mem => mem) (cleaning_runningAttempts found)) ?_
  intro _ t cleaning
  exact mandatory (.failJob _ _) (fun cleaning carried => cleaning.failJob found carried) cleaning

theorem failStaleJobs {jobs : List JobId} (distinct : jobs.Nodup)
    (present : ∀ k ∈ jobs, ∃ row, s.find? k = some row ∧ row.numbers.Nodup) :
    Comes m.connectionId (max m.config.activityMaxAttempts 1)
      (fun _ t => s.FailedOnly (· ∈ jobs) t) (jobs.forM m.failStaleJob) ⟨s, 0⟩ := by
  induction jobs generalizing s with
  | nil => exact .pure ⟨.refl _ s, nofun⟩
  | cons job rest ih =>
    obtain ⟨fresh, others⟩ := List.nodup_cons.1 distinct
    obtain ⟨⟨row, found, numbers⟩, remaining⟩ := List.forall_mem_cons.1 present
    obtain rfl := id_of_find? found
    rw [List.forM]
    refine .bind (failStaleJob found numbers) fun _ t first => ?_
    refine (ih others fun k mem => ?_).mono fun _ u later => first.cons fresh later
    obtain ⟨row', found', numbers'⟩ := remaining k mem
    exact ⟨row', (first.rows k fun same => fresh (same ▸ mem)).trans found', numbers'⟩

theorem cleanJobs (ordered : s.Ordered)
    (distinct : ∀ k row, s.find? k = some row → row.numbers.Nodup) :
    Comes m.connectionId (max m.config.activityMaxAttempts 1)
      (fun _ t => s.FailedOnly (· ∈ s.nonTerminalJobs m.connectionId) t) m.cleanJobs ⟨s, 0⟩ := by
  have listed : Comes m.connectionId (max m.config.activityMaxAttempts 1)
      (fun jobs t => jobs = s.nonTerminalJobs m.connectionId ∧ t = s)
      (m.mandatory .nonTerminalJobs) ⟨s, 0⟩ := by
    refine mandatory .nonTerminalJobs (I := (· = s)) ?_ rfl
    rintro s jobs t rfl ⟨rfl, rfl⟩
    exact ⟨rfl, rfl, rfl⟩
  refine listed.bind ?_
  rintro _ _ ⟨rfl, rfl⟩
  refine failStaleJobs (nodup_nonTerminalJobs ordered) fun k mem => ?_
  obtain ⟨row, found, -⟩ := (mem_nonTerminalJobs ordered).1 mem
  exact ⟨row, found, distinct k row found⟩

end Manager.Comes

variable {m : Manager} {s : JobStore} {t : Desk}

/-- Whichever calls fail, and whether they are carried out or not: a clean start that is not given
up has failed the stale jobs of its connection and nothing else, and one that is given up has had a
call fail as often in a row as it may be made. -/
theorem cleanJobs_fails_stale {input input' : RunInput} {result : Except ActivityFailure Unit}
    (ordered : s.Ordered) (distinct : ∀ k row, s.find? k = some row → row.numbers.Nodup)
    (steps : (desk m.connectionId).Steps ⟨m.cleanJobs.run.run input, ⟨s, 0⟩⟩
      ⟨.done (result, input'), t⟩) :
    (result = .ok () →
      s.FailedOnly (fun k => ∃ row, s.find? k = some row ∧ row.IsStale m.connectionId) t.jobs) ∧
    ∀ failure, result = .error failure → max m.config.activityMaxAttempts 1 ≤ t.failures := by
  have stale : (· ∈ s.nonTerminalJobs m.connectionId) =
      fun k => ∃ row, s.find? k = some row ∧ row.IsStale m.connectionId :=
    funext fun k => propext (JobStore.mem_nonTerminalJobs ordered)
  have comes := Manager.Comes.cleanJobs (m := m) ordered distinct input
  have ends := comes.ended (fun _ => lasts_desk _) steps
  cases ends with
  | ok failed =>
    rw [stale] at failed
    exact ⟨fun _ => failed, nofun⟩
  | error spent => exact ⟨nofun, fun _ _ => spent⟩

/-- Each call is carried out and fails nevertheless, and is carried out again. -/
def Desk.losing (id : Uuid) (d : Desk) : (r : Request) → Option (r.Answer × Desk)
  | .call c =>
    match c.carryOut id d.jobs with
    | .ok (reply, jobs) =>
      if d.failures = 0 then some (.error (.unavailable "down"), ⟨jobs, 1⟩)
      else some (.ok reply, ⟨jobs, 0⟩)
    | .error _ => none
  | .time => some (default, d)
  | .pause _ => some ((), d)
  | _ => none

theorem Desk.answers_losing {id : Uuid} {d d' : Desk} {r : Request} {a : r.Answer}
    (h : d.losing id r = some (a, d')) : (desk id).Answers d r a d' := by
  cases r with
  | call c =>
    unfold losing at h
    dsimp only at h
    split at h
    · next reply jobs carried =>
      have effect := Call.effect_carryOut carried
      split at h
      · next first =>
        cases h
        have lost := Answers.lost (.unavailable "down") reply jobs effect
        rw [first] at lost
        exact lost
      · cases h
        exact .carried reply jobs effect
    · cases h
  | time | pause =>
    cases h
    exact .other _ nofun
  | _ => cases h

/-- A job with a running attempt, one that is over, and one of another connection. -/
def JobStore.leftBehind : JobStore where
  jobs := [
    ⟨1, .zero, false, .running, [⟨1, .failed, none⟩, ⟨2, .running, none⟩], default⟩,
    ⟨2, .zero, false, .cancelled, [⟨1, .running, none⟩], default⟩,
    ⟨3, ⟨List.replicate 32 ⟨1, by decide⟩, by decide⟩, true, .pending, [⟨1, .running, none⟩],
      default⟩]
  lastId := 3

def JobStore.cleanStart (s : JobStore) (answers : Nat) :
    Surroundings.Scene Request Request.Answer Desk (Except ActivityFailure Unit × RunInput) :=
  Surroundings.served (Desk.losing .zero) answers
    ⟨Manager.sample.cleanJobs.run.run (.fresh .zero), ⟨s, 0⟩⟩

theorem JobStore.steps_cleanStart (s : JobStore) (answers : Nat) :
    (desk .zero).Steps ⟨Manager.sample.cleanJobs.run.run (.fresh .zero), ⟨s, 0⟩⟩
      (s.cleanStart answers) :=
  Surroundings.steps_served Desk.answers_losing answers _

/-- Each call is made twice, and the running attempt of the open job is failed twice. -/
theorem cleanJobs_fails_stale_of_leftBehind : ∃ t : Desk,
    JobStore.leftBehind.Ordered ∧
    (∀ k row, JobStore.leftBehind.find? k = some row → row.numbers.Nodup) ∧
    (desk Manager.sample.connectionId).Steps
      ⟨Manager.sample.cleanJobs.run.run (.fresh .zero), ⟨.leftBehind, 0⟩⟩
      ⟨.done (.ok (), .fresh .zero), t⟩ ∧
    JobStore.leftBehind.FailedOnly
      (fun k => ∃ row, JobStore.leftBehind.find? k = some row ∧ row.IsStale .zero) t.jobs := by
  have ordered : JobStore.leftBehind.Ordered := by
    unfold JobStore.Ordered
    decide
  have rows : ∀ row ∈ JobStore.leftBehind.jobs, row.numbers.Nodup := by decide
  have distinct : ∀ k row, JobStore.leftBehind.find? k = some row → row.numbers.Nodup :=
    fun k row found => rows row (JobStore.mem_of_find? found)
  have ends : (JobStore.leftBehind.cleanStart 13).rest = .done (.ok (), .fresh .zero) :=
    Surroundings.Scene.rest_of_result? (by decide +kernel)
  have steps : (desk Manager.sample.connectionId).Steps
      ⟨Manager.sample.cleanJobs.run.run (.fresh .zero), ⟨.leftBehind, 0⟩⟩
      ⟨.done (.ok (), .fresh .zero), (JobStore.leftBehind.cleanStart 13).state⟩ := by
    rw [← ends]
    exact JobStore.leftBehind.steps_cleanStart 13
  obtain ⟨failed, -⟩ := cleanJobs_fails_stale ordered distinct steps
  exact ⟨_, ordered, distinct, steps, failed rfl⟩

end ConnectorSync.Sync
