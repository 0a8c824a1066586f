import ConnectorSync.Proofs.Sync.AtHand
import ConnectorSync.Proofs.Sync.RetryLedger

/-!
# Checks before an execution

An attempt is executed at most once, and not if it was to end when it was registered. If its job
failed last, or the job before it, its connectors have passed their checks since it was created.
-/

namespace ConnectorSync.Sync

/-! ### What failed last -/

/-- The last attempt that ended failed, with progress or without. -/
def Job.LastFailed (j : Job) : Prop :=
  ∃ before a after, j.attempts = before ++ a :: after ∧
    (a.status = .failed ∨ a.status = .incomplete) ∧ ∀ b ∈ after, b.status = .running

/-- The last attempt of a job that ended failed, or the last of its connection's earlier jobs that
are over. -/
def JobStore.FollowsFailure (id : Uuid) (job : JobId) (s : JobStore) : Prop :=
  (∃ row ∈ s.jobsFor id, row.id = job ∧ row.LastFailed) ∨
    ∃ row ∈ s.jobsFor id, row.id < job ∧ row.status = .failed ∧
      ∀ other ∈ s.jobsFor id, other.id < job → other.status.isTerminal → other.id ≤ row.id

theorem Job.lastFailed_iff {j : Job} :
    (j.attempts.reverse.find? (·.status ≠ .running)).any
      (fun a => a.status = .failed || a.status = .incomplete) = true ↔ j.LastFailed := by
  have bad (a : Attempt) : (decide (a.status = .failed) || decide (a.status = .incomplete)) = true ↔
      a.status = .failed ∨ a.status = .incomplete := by simp
  rw [Option.any_eq_true]
  constructor
  · rintro ⟨a, found, failed⟩
    obtain ⟨-, after, before, split, running⟩ := List.find?_eq_some_iff_append.1 found
    refine ⟨before.reverse, a, after.reverse, ?_, (bad a).1 failed, fun b mem => ?_⟩
    · rw [← List.reverse_reverse j.attempts, split]
      simp
    · simpa using running b (List.mem_reverse.1 mem)
  · rintro ⟨before, a, after, split, failed, running⟩
    refine ⟨a, List.find?_eq_some_iff_append.2 ⟨?_, after.reverse, before.reverse, ?_, ?_⟩,
      (bad a).2 failed⟩
    · rcases failed with failed | failed <;> simp [failed]
    · simp [split]
    · intro b mem
      simpa using running b (List.mem_reverse.1 mem)

namespace JobStore

variable {s : JobStore} {id : Uuid} {job k : JobId} {row : Job}

theorem find?_jobsFor (ordered : s.Ordered) :
    (s.jobsFor id).find? (·.id = k) = some row ↔ row ∈ s.jobsFor id ∧ row.id = k := by
  constructor
  · intro found
    exact ⟨List.mem_of_find?_eq_some found, by simpa using List.find?_some found⟩
  · rintro ⟨mem, rfl⟩
    have there (other : Job) (mem : other ∈ s.jobsFor id) : s.find? other.id = some other :=
      find?_of_mem ordered (List.mem_of_mem_filter mem)
    cases found : (s.jobsFor id).find? (·.id = row.id) with
    | none => exact absurd (List.find?_eq_none.1 found row mem) (by simp)
    | some other =>
      have same : other.id = row.id := by simpa using List.find?_some found
      have found := there other (List.mem_of_find?_eq_some found)
      rw [same, there row mem] at found
      exact found.symm

theorem getLast?_eq_some_iff_greatest {rows : List Job}
    (ordered : (rows.map (·.id)).Pairwise (· < ·)) :
    rows.getLast? = some row ↔ row ∈ rows ∧ ∀ other ∈ rows, other.id ≤ row.id := by
  rw [List.getLast?_eq_some_iff]
  constructor
  · rintro ⟨front, rfl⟩
    refine ⟨List.mem_append_right front List.mem_cons_self, fun other mem => ?_⟩
    rw [List.map_append, List.pairwise_append] at ordered
    rcases List.mem_append.1 mem with mem | mem
    · exact Int.le_of_lt (ordered.2.2 _ (List.mem_map_of_mem mem) _ List.mem_cons_self)
    · exact Int.le_of_eq (congrArg Job.id (List.mem_singleton.1 mem))
  · rintro ⟨mem, greatest⟩
    obtain rfl | ⟨front, last, rfl⟩ := rows.eq_nil_or_concat'
    · cases mem
    refine ⟨front, ?_⟩
    rw [List.map_append, List.pairwise_append] at ordered
    rcases List.mem_append.1 mem with inFront | here
    · have less := ordered.2.2 _ (List.mem_map_of_mem inFront) _ List.mem_cons_self
      exact absurd (greatest last (List.mem_append_right _ List.mem_cons_self)) (Int.not_le.2 less)
    · rw [List.mem_singleton.1 here]

theorem isLastFailure_iff (ordered : s.Ordered) :
    s.isLastFailure id job = true ↔ s.FollowsFailure id job := by
  unfold isLastFailure FollowsFailure
  rw [Bool.or_eq_true, Option.any_eq_true, Option.any_eq_true]
  refine or_congr (exists_congr fun row => ?_) (exists_congr fun row => ?_)
  · rw [find?_jobsFor ordered, Job.lastFailed_iff, and_assoc]
  · have sorted : ((s.jobsFor id).map (·.id)).Pairwise (· < ·) :=
      ordered.sublist (List.filter_sublist.map _)
    rw [getLast?_eq_some_iff_greatest (sorted.sublist (List.filter_sublist.map _))]
    simp only [List.mem_filter, Bool.and_eq_true, decide_eq_true_eq, and_imp]
    constructor
    · rintro ⟨⟨⟨mem, earlier, -⟩, greatest⟩, failed⟩
      exact ⟨mem, earlier, failed, greatest⟩
    · rintro ⟨mem, earlier, failed, greatest⟩
      exact ⟨⟨⟨mem, earlier, by rw [failed]; rfl⟩, greatest⟩, failed⟩

end JobStore

/-! ### What has become of an attempt -/

/-- What was done of the attempt that was created last before it was executed. -/
structure Vetting where
  attempt : Option (JobId × Nat) := none
  ends : Option Bool := none
  checks : List (AttemptContext × Side × Except ActivityError CheckOutcome) := []

def Vetting.after (v : Vetting) : Event → Vetting
  | .told (.call (.createAttempt job)) (.ok n) => { attempt := some (job, n) }
  | .told (.enter .registerAttempt) (_, control) => { v with ends := control.attempt }
  | .told (.check context side) result => { v with checks := v.checks ++ [(context, side, result)] }
  | _ => v

def vetting : List Event → Vetting
  | [] => {}
  | e :: past => (vetting past).after e

/-- The attempts that have been executed, the latest first. -/
def executions : List Event → List (JobId × Nat)
  | [] => []
  | .told (.execute context) _ :: past => (context.jobId, context.attempt) :: executions past
  | _ :: past => executions past

theorem Vetting.after_failed (v : Vetting) (call : Call) (e : ActivityError) :
    v.after (.told (.call call) (.error e)) = v := by
  cases call <;> rfl

/-! ### Attempts that were executed -/

theorem Call.Effect.keeps_attempts {id : Uuid} {c : Call} {s t : JobStore} {reply : c.Reply}
    {k : JobId} {row : Job} (h : c.Effect id s reply t) (numbered : s.Numbered)
    (found : s.find? k = some row) :
    ∃ row', t.find? k = some row' ∧ row.attempts.length ≤ row'.attempts.length := by
  by_cases target : c.target = some k
  · obtain ⟨row', before, after⟩ := (h.revises target).found
    obtain rfl := Option.some.inj (before.symm.trans found)
    exact ⟨_, after, c.length_le_revise row'⟩
  · exact ⟨row, h.keeps numbered found target, Nat.le_refl _⟩

def Attempt.IsInconclusive (a : Attempt) : Prop :=
  a.status = .running ∨ a.status = .failed ∨ a.status = .incomplete

/-- What was executed are attempts of the jobs, and none of the job at hand succeeded or was
cancelled. -/
structure World.Ran (w : World) : Prop where
  executed : ∀ job n, (job, n) ∈ executions w.past →
    ∃ row, w.jobs.find? job = some row ∧ n ≤ row.attempts.length
  inconclusive : ∀ k row, (course w.past).atHand = some k → w.jobs.find? k = some row →
    ∀ a ∈ row.attempts, a.IsInconclusive

section Ran

variable {m : Manager} {station : Station} {w w' : World} {context : AttemptContext}
  {input : RunInput}

theorem World.Ran.cons {e : Event} (h : w.Ran) (past : w'.past = e :: w.past)
    (jobs : w'.jobs = w.jobs) (same : executions (e :: w.past) = executions w.past)
    (old : ∀ isReset job, e ≠ .told (.call (.createJob isReset)) (.ok job))
    (fresh : ∀ a, e = .told (.enter .recordFailure) a → (course w.past).report = none) :
    w'.Ran := by
  refine ⟨?_, fun k row atHand found => ?_⟩
  · rw [past, jobs, same]
    exact h.executed
  · rw [past] at atHand
    rw [jobs] at found
    rcases Course.atHand_after atHand fresh with before | ⟨isReset, new⟩
    · exact h.inconclusive k row before found
    · exact absurd new (old isReset k)

theorem inconclusive_carried {call : Call} {reply : call.Reply} {jobs : JobStore} {k : JobId}
    {row : Job} (hr : station.request m = .call call) (h : w.Ran)
    (effect : call.Effect m.connectionId w.jobs reply jobs)
    (atHand : ((course w.past).after (.told (.call call) (.ok reply))).atHand = some k)
    (found : jobs.find? k = some row) : ∀ a ∈ row.attempts, a.IsInconclusive := by
  rcases Course.atHand_after atHand (fun _ same => by cases same) with before | ⟨isReset, created⟩
  · rcases effect.row found with ⟨target, old, there, rfl⟩ | ⟨-, there⟩ | ⟨-, isReset, now, rfl⟩
    · have earlier := h.inconclusive k old before there
      intro a mem
      cases call with
      | createAttempt job =>
        rcases List.mem_append.1 mem with mem | mem
        · exact earlier a mem
        · rw [List.mem_singleton.1 mem]
          exact .inl rfl
      | failAttempt job n status summary =>
        rcases mem_setAttempt mem with mem | ⟨written, -⟩
        · exact earlier a mem
        · unfold Attempt.IsInconclusive
          rw [written]
          exact .inr (Station.status_of_failAttempt hr)
      | reportJobStart | failJob => exact earlier a mem
      | jobSuccess | jobCancelled => cases atHand
      | _ => cases target
    · exact h.inconclusive k row before there
    · exact nofun
  · cases created
    obtain ⟨now, rows⟩ := effect.opened
    rw [rows, if_pos rfl] at found
    cases found
    exact nofun

theorem JobStore.InFlight.attempt_le {neat : Prop} {id : Uuid} {s : JobStore}
    (h : s.InFlight neat id input context) :
    ∃ row, s.find? context.jobId = some row ∧ context.attempt ≤ row.attempts.length := by
  obtain ⟨row, found, flies⟩ := h.aloft.aloft context.jobId rfl
  have isRunning : context.attempt ∈ row.runningAttempts := by
    rw [flies.running]
    exact List.mem_cons_self
  have mem : context.attempt ∈ row.numbers := mem_numbers_of_mem_running isRunning
  rw [flies.numbers, List.mem_range'_1] at mem
  exact ⟨row, found, by omega⟩

/-- The attempt that is executed is in flight, whatever failed before. -/
theorem inFlight_of_executing (hr : station.request m = .execute context)
    (fits : station.Fits (course w.past)) (steady : w.Steady m.connectionId station) :
    (course w.past).atHand = some context.jobId ∧
      ∃ input, w.jobs.InFlight False m.connectionId input context := by
  cases station with
  | executing input budget context =>
    cases hr
    refine ⟨?_, input, steady (by rw [fits.report]; exact nofun)⟩
    rw [Course.atHand_of_unreported fits.report, fits.openJob, fits.jobId]
  | _ => cases hr

theorem ran_answer {r : Request} {a : r.Answer} (hr : station.request m = r)
    (fits : station.Fits (course w.past)) (sorted : w.Sorted)
    (steady : w.Steady m.connectionId station) (h : w.Ran)
    (answers : w.Answers m.connectionId r a w') : (w'.note r a).Ran := by
  cases answers with
  | carried call reply jobs effect =>
    refine ⟨fun job n mem => ?_, fun k row => inconclusive_carried (w := w) hr h effect⟩
    obtain ⟨row, found, within⟩ := h.executed job n mem
    obtain ⟨row', found', more⟩ := effect.keeps_attempts sorted.numbered found
    exact ⟨row', found', Nat.le_trans within more⟩
  | failed call e =>
    exact h.cons rfl rfl rfl (fun _ _ same => by cases same) fun _ same => by cases same
  | executed context result =>
    refine ⟨fun job n mem => ?_, h.inconclusive⟩
    rcases List.mem_cons.1 mem with same | mem
    · cases same
      exact (inFlight_of_executing hr fits steady).2.elim fun _ => (·.attempt_le)
    · exact h.executed job n mem
  | entered sec =>
    refine h.cons rfl rfl rfl (fun _ _ same => by cases same) fun _ same => ?_
    cases same
    exact Station.fits_recordFailure fits hr
  | _ => exact h.cons rfl rfl rfl (fun _ _ same => by cases same) fun _ same => by cases same

theorem kept_ran (m : Manager) : Kept m fun spot w =>
    (((spot.Fits (course w.past) ∧ w.Sorted) ∧ w.Lists m.connectionId spot) ∧
      w.Steady m.connectionId spot) ∧ w.Ran :=
  (kept_steady m).and
    (fun _ h => h.cons rfl rfl rfl (fun _ _ same => by cases same) fun _ same => by cases same)
    (fun h => h)
    fun _ ⟨⟨⟨fits, sorted⟩, _⟩, steady⟩ h answers => ran_answer rfl fits sorted steady h answers

end Ran

/-! ### From the creation of an attempt to its execution -/

structure World.Vets (context : AttemptContext) (passed : List Side) (w : World) : Prop where
  attempt : (vetting w.past).attempt = some (context.jobId, context.attempt)
  fresh : (context.jobId, context.attempt) ∉ executions w.past
  checks : (vetting w.past).checks = passed.map fun side => (context, side, .ok .succeeded)

def Task.Vets (w : World) : Task → Prop
  | startJob _ _ context => w.Vets context []
  | lastFailure _ _ context => w.Vets context [] ∧ (vetting w.past).ends = some false
  | _ => True

def Station.Vets (id : Uuid) (w : World) : Station → Prop
  | calling task _ _ | pausing task _ _ => task.Vets w
  | registering _ _ context => w.Vets context []
  | looking _ _ context =>
    w.Vets context [] ∧ ((vetting w.past).ends = some false ∨ w.control.attempt = some true)
  | checking _ _ context side sides =>
    (vetting w.past).ends = some false ∧ w.jobs.isLastFailure id context.jobId = true ∧
      ∃ passed, passed ++ side :: sides = Manager.checkedSides context.isReset ∧
        w.Vets context passed
  | executing _ _ context =>
    (vetting w.past).ends = some false ∧ w.Vets context
      (if w.jobs.isLastFailure id context.jobId then Manager.checkedSides context.isReset else [])
  | _ => True

def Spot.Vets (id : Uuid) (w : World) : Spot → Prop
  | .at station => station.Vets id w
  | .between _ | .stopped => True

section Vets

variable {m : Manager} {id : Uuid} {w w' : World} {input : RunInput} {budget : Option RetryBudget}
  {context : AttemptContext} {passed : List Side}

theorem World.Vets.cons {e : Event} (h : w.Vets context passed) (past : w'.past = e :: w.past)
    (same : (vetting w.past).after e = vetting w.past)
    (idle : executions (e :: w.past) = executions w.past) : w'.Vets context passed := by
  refine ⟨?_, ?_, ?_⟩
  · rw [past, vetting, same]
    exact h.attempt
  · rw [past, idle]
    exact h.fresh
  · rw [past, vetting, same]
    exact h.checks

theorem Task.Vets.cons {e : Event} {task : Task} (h : task.Vets w) (past : w'.past = e :: w.past)
    (same : (vetting w.past).after e = vetting w.past)
    (idle : executions (e :: w.past) = executions w.past) : task.Vets w' := by
  cases task with
  | startJob => exact World.Vets.cons h past same idle
  | lastFailure =>
    refine ⟨h.1.cons past same idle, ?_⟩
    rw [past, vetting, same]
    exact h.2
  | _ => exact trivial

theorem Spot.Vets.hear {spot : Spot} (signal : Signal) (h : spot.Vets id w) :
    spot.Vets id (w.hear signal) := by
  have heard {context : AttemptContext} {passed : List Side} (h : w.Vets context passed) :
      (w.hear signal).Vets context passed := h.cons rfl rfl rfl
  cases spot with
  | between | stopped => exact trivial
  | «at» station =>
    cases station with
    | calling task left failed | pausing task left failed => exact Task.Vets.cons h rfl rfl rfl
    | registering => exact heard h
    | looking => exact ⟨heard h.1, h.2.imp_right (w.control.hears_signal signal).attempt⟩
    | checking =>
      obtain ⟨going, failed, passed, split, vets⟩ := h
      exact ⟨going, failed, passed, split, heard vets⟩
    | executing => exact ⟨h.1, heard h.2⟩
    | _ => exact trivial

namespace Station

theorem cleaning_vets (jobs : List JobId) : (cleaning m input jobs).Vets id w := by
  cases jobs <;> exact trivial

theorem failingStale_vets (job : JobId) (jobs : List JobId) (attempts : List Nat) :
    (failingStale m input job jobs attempts).Vets id w := by
  cases attempts <;> exact trivial

theorem leaving_vets (last : Bool) : (leaving last input).Vets id w := by
  cases last <;> exact trivial

theorem cancelling_vets (failures : List FailureReason) (partialSuccess : Option Bool)
    (last : Bool) : (cancelling input failures partialSuccess last).Vets id w := by
  unfold cancelling
  split
  · exact leaving_vets last
  · exact trivial

theorem reporting_vets (flags : Flags) (outcome : AttemptOutcome) :
    (reporting m input budget context flags outcome).Vets id w := by
  cases outcome with
  | succeeded output => exact trivial
  | cancelled => exact cancelling_vets _ _ _
  | failed failures partialSuccess =>
    unfold reporting failing
    dsimp only
    split
    · exact cancelling_vets _ _ _
    · split <;> exact trivial

/-- The checks that are left, if the ones before have passed. -/
theorem checkingSides_vets {sides : List Side} (passed : List Side)
    (going : (vetting w.past).ends = some false)
    (failed : w.jobs.isLastFailure id context.jobId = true) (vets : w.Vets context passed)
    (split : passed ++ sides = Manager.checkedSides context.isReset) :
    (checkingSides input budget context sides).Vets id w := by
  cases sides with
  | nil =>
    refine ⟨going, ?_⟩
    rw [if_pos failed, ← split, List.append_nil]
    exact vets
  | cons side sides => exact ⟨going, failed, passed, split, vets⟩

theorem givenUp_vets (task : Task) (error : ActivityError) : (givenUp task error).Vets id w := by
  cases task <;> exact trivial

theorem carried_vets {jobs : JobStore} (task : Task) (reply : task.call.Reply) (ran : w.Ran)
    (h : task.Vets w) (effect : task.call.Effect m.connectionId w.jobs reply jobs) :
    (carried m task reply).Vets m.connectionId
      ({ w with jobs }.note (.call task.call) (.ok reply)) := by
  cases task with
  | listStale input => exact cleaning_vets _
  | getStale input job jobs => exact failingStale_vets _ _ _
  | failStaleAttempt input job attempt attempts jobs now => exact failingStale_vets _ _ _
  | failStaleJob input job jobs => exact cleaning_vets _
  | createAttempt input budget job isReset =>
    refine ⟨rfl, fun mem => ?_, rfl⟩
    -- The number is beyond those of the attempts that are there, so it was not executed.
    obtain ⟨row, found, within⟩ := ran.executed job reply mem
    rw [effect.attempted found] at within
    exact Nat.not_succ_le_self _ within
  | startJob input budget context => exact World.Vets.cons h rfl rfl rfl
  | lastFailure input budget context =>
    obtain ⟨vets, going⟩ := h
    obtain ⟨answer, rfl⟩ := effect
    cases reply with
    | false =>
      refine ⟨going, ?_⟩
      rw [if_neg (by simp [World.note, ← answer])]
      exact vets.cons rfl rfl rfl
    | true => exact checkingSides_vets [] going answer.symm (vets.cons rfl rfl rfl) rfl
  | succeed input budget context output => cases budget <;> exact trivial
  | failAttempt input budget job madeProgress summary => cases budget <;> exact trivial
  | _ => exact trivial

theorem next_vets (station : Station) (a : (station.request m).Answer) (ran : w.Ran)
    (h : station.Vets m.connectionId w)
    (answers : w.Answers m.connectionId (station.request m) a w') :
    (station.next m a).Vets m.connectionId (w'.note (station.request m) a) := by
  cases station with
  | beginning input =>
    simp only [next]
    split <;> exact trivial
  | calling task left failed =>
    cases answers with
    | carried call reply jobs effect => exact carried_vets task reply ran h effect
    | failed call error =>
      cases left with
      | zero => exact givenUp_vets task error
      | succ left => exact Task.Vets.cons h rfl (Vetting.after_failed _ _ error) rfl
  | pausing task left failed =>
    cases answers
    exact Task.Vets.cons h rfl rfl rfl
  | endingWait input =>
    obtain ⟨before, control⟩ := a
    simp only [next]
    split
    · exact cancelling_vets _ _ _
    split
    · exact trivial
    split
    · exact cancelling_vets _ _ _
    · exact trivial
  | hydratingAttempt input isReset =>
    simp only [next, opening]
    split <;> exact trivial
  | registering input budget context =>
    cases answers
    refine ⟨⟨h.attempt, h.fresh, h.checks⟩, ?_⟩
    show some _ = some false ∨ some _ = some true
    cases (w.control.flags.cancelled || w.control.flags.cancelledForReset ||
      w.control.flags.deleted) with
    | false => exact .inl rfl
    | true => exact .inr rfl
  | looking input budget context =>
    cases answers
    obtain ⟨vets, going⟩ := h
    simp only [next]
    split
    · exact trivial
    · next notEnding => exact ⟨vets.cons rfl rfl rfl, going.resolve_right notEnding⟩
  | checking input budget context side sides =>
    cases answers
    obtain ⟨going, failed, passed, split, vets⟩ := h
    rcases a with error | (_ | reason | _)
    · exact trivial
    · refine checkingSides_vets (passed ++ [side]) going failed
        ⟨vets.attempt, vets.fresh, ?_⟩ (by rw [List.append_assoc]; exact split)
      show (vetting w.past).checks ++ [_] = _
      rw [vets.checks, List.map_append]
      rfl
    · exact trivial
    · exact trivial
  | executing input budget context => cases a <;> exact trivial
  | releasing input budget context outcome =>
    cases outcome with
    | ok outcome => exact reporting_vets _ outcome
    | error failure => exact trivial
  | lookingBack last => exact leaving_vets last
  | recordingFailure input job summary withinLimits =>
    simp only [next]
    split <;> exact trivial
  | recovering input failure =>
    simp only [next]
    split <;> exact trivial
  | ending input =>
    obtain ⟨before, control⟩ := a
    simp only [next]
    split <;> exact trivial
  | _ => exact trivial

end Station

theorem kept_vets (m : Manager) : Kept m fun spot w =>
    ((((spot.Fits (course w.past) ∧ w.Sorted) ∧ w.Lists m.connectionId spot) ∧
      w.Steady m.connectionId spot) ∧ w.Ran) ∧ spot.Vets m.connectionId w :=
  (kept_ran m).and (fun signal h => h.hear signal) (fun _ => trivial)
    fun {station _ _} a ⟨_, ran⟩ h answers => station.next_vets a ran h answers

end Vets

/-! ### Executions -/

/-- An attempt after the first one follows one that failed. -/
theorem followsFailure_of_inFlight {id : Uuid} {s : JobStore} {input : RunInput}
    {context : AttemptContext} (inFlight : s.InFlight False id input context)
    (inconclusive : ∀ row, s.find? context.jobId = some row → ∀ a ∈ row.attempts, a.IsInconclusive)
    (later : 1 < context.attempt) : s.FollowsFailure id context.jobId := by
  obtain ⟨row, found, flies⟩ := inFlight.aloft.aloft context.jobId rfl
  have within : context.attempt ≤ row.attempts.length := by
    obtain ⟨row', found', within⟩ := inFlight.attempt_le
    obtain rfl := Option.some.inj (found.symm.trans found')
    exact within
  -- The first attempt is another one than that in flight, so some attempt has ended.
  obtain ⟨first, mem, number⟩ : ∃ a ∈ row.attempts, a.number = 1 := by
    refine List.mem_map.1 (?_ : 1 ∈ row.numbers)
    rw [flies.numbers, List.mem_range'_1]
    omega
  have ended : first.status ≠ .running := by
    intro isRunning
    have mem : first.number ∈ row.runningAttempts :=
      List.mem_map_of_mem (List.mem_filter.2 ⟨mem, decide_eq_true isRunning⟩)
    rw [flies.running, List.mem_singleton, number] at mem
    omega
  refine .inl ⟨row, List.mem_filter.2 ⟨JobStore.mem_of_find? found,
    decide_eq_true flies.connection⟩, JobStore.id_of_find? found, Job.lastFailed_iff.1 ?_⟩
  cases last : row.attempts.reverse.find? (·.status ≠ .running) with
  | none =>
    exact absurd (List.find?_eq_none.1 last first (List.mem_reverse.2 mem)) (by simpa using ended)
  | some a =>
    have hasEnded : a.status ≠ .running := by simpa using List.find?_some last
    rcases inconclusive row found a (List.mem_reverse.1 (List.mem_of_find?_eq_some last)) with
      running | failed | incomplete
    · exact absurd running hasEnded
    · simp [failed]
    · simp [incomplete]

/-- An attempt is executed at most once, and not if it was to end when it was registered. If it is
a later one of its job, or the last attempt of its job that ended failed, or the last of its
connection's earlier jobs that are over, then since it was created just the destination of a reset,
or the source and then the destination of a sync, was checked, and each passed. -/
theorem execution_vetted {m : Manager} {a : Moment} {context : AttemptContext}
    (reached : a.Reachable m) (asks : a.Asks (.execute context)) :
    (context.jobId, context.attempt) ∉ executions a.world.past ∧
      (vetting a.world.past).attempt = some (context.jobId, context.attempt) ∧
      (vetting a.world.past).ends = some false ∧
      (1 < context.attempt ∨ a.world.jobs.FollowsFailure m.connectionId context.jobId →
        (vetting a.world.past).checks =
          (if context.isReset then [.destination] else [.source, .destination]).map
            fun side => (context, side, .ok .succeeded)) := by
  have kept := (kept_vets m).reachable (fun rows =>
    ⟨⟨⟨⟨⟨⟨⟨rfl, rfl, rfl⟩, rfl, rfl, rfl, rfl⟩, sorted_first m rows⟩, lists_first m rows⟩,
      fun _ => False.elim⟩, nofun, nofun⟩, trivial⟩) reached
  obtain ⟨station, hr, ⟨⟨⟨⟨fits, sorted⟩, lists⟩, steady⟩, ran⟩, vets⟩ := kept.station asks
  obtain ⟨atHand, input, inFlight⟩ := inFlight_of_executing hr fits steady
  cases station with
  | executing input budget context =>
    cases hr
    obtain ⟨going, vets⟩ := vets
    refine ⟨vets.fresh, vets.attempt, going, fun needed => ?_⟩
    have follows : a.world.jobs.FollowsFailure m.connectionId context.jobId :=
      needed.elim (followsFailure_of_inFlight inFlight fun row => ran.inconclusive _ row atHand) id
    rw [vets.checks, if_pos ((JobStore.isLastFailure_iff lists.ordered).2 follows)]
    rfl
  | _ => cases hr

theorem secondAttempt_vetted :
    (8, 2) ∉ executions Moment.secondAttempt.world.past ∧
      (vetting Moment.secondAttempt.world.past).attempt = some (8, 2) ∧
      (vetting Moment.secondAttempt.world.past).ends = some false ∧
      (1 < 2 ∨ Moment.secondAttempt.world.jobs.FollowsFailure Manager.sample.connectionId 8 →
        (vetting Moment.secondAttempt.world.past).checks =
          (if false then [.destination] else [.source, .destination]).map
            fun side => (⟨Uuid.zero, 8, 2, false⟩, side, .ok .succeeded)) :=
  execution_vetted ⟨_, Moment.steps_replay .sample _ _⟩ secondAttempt_executes

end ConnectorSync.Sync
