import ConnectorSync.Proofs.Sync.Leftovers
import ConnectorSync.Proofs.Sync.Records

/-!
# The job at hand

What holds of the jobs whatever fails: as long as a generation is not given up its job stands as in
any other, and when it is given up at most the attempt in flight of that job is running. So it is
settled what a new start finds when it fails the attempt and the job of the generation before.
-/

namespace ConnectorSync.Sync

/-! ### The attempt in flight -/

def Call.ends (c : Call) (x : JobId × Nat) : Bool :=
  match c with
  | .failAttempt job attempt _ _ => x = (job, attempt)
  | c => c.closes && c.target = some x.1

/-- The last attempt created, until it is failed or its job is reported to be over. -/
def flight : List Event → Option (JobId × Nat)
  | [] => none
  | .told (.call (.createAttempt job)) (.ok attempt) :: _ => some (job, attempt)
  | .told (.call c) (.ok _) :: past => (flight past).filter (!c.ends ·)
  | _ :: past => flight past

section Flight

variable {c : Call} {reply : c.Reply} {past : List Event} {x : JobId × Nat}

theorem Call.target_of_ends (h : c.ends x) : c.target = some x.1 := by
  unfold ends at h
  split at h
  · obtain rfl := of_decide_eq_true h
    rfl
  · exact of_decide_eq_true (Bool.and_eq_true_iff.1 h).2

theorem flight_carried (old : ∀ job, c ≠ .createAttempt job) :
    flight (.told (.call c) (.ok reply) :: past) = (flight past).filter (!c.ends ·) := by
  cases c with
  | createAttempt job => exact absurd rfl (old job)
  | _ => rfl

theorem flight_carried_iff (old : ∀ job, c ≠ .createAttempt job) :
    flight (.told (.call c) (.ok reply) :: past) = some x ↔
      flight past = some x ∧ c.ends x = false := by
  rw [flight_carried old, Option.filter_eq_some_iff, Bool.not_eq_true']

theorem flight_failed (e : ActivityError) :
    flight (.told (.call c) (.error e) :: past) = flight past := by
  cases c <;> rfl

end Flight

/-! ### The row of the job at hand -/

namespace Job

structure Traced (id : Uuid) (flying : Option (JobId × Nat)) (j : Job) : Prop where
  connection : j.connectionId = id
  status : j.status.isTerminal = false ∨ j.status = .failed
  numbers : j.numbers = List.range' 1 j.attempts.length
  running : ∀ n, n ∈ j.runningAttempts ↔ flying = some (j.id, n)

structure Held (id : Uuid) (flying : Option (JobId × Nat)) (j : Job) : Prop
    extends j.Traced id flying where
  told : ∀ a ∈ j.attempts, a.status ≠ .running →
    ∃ summary, a.failureSummary = some summary ∧ summary.partialSuccess.isSome

variable {id : Uuid} {f : Option (JobId × Nat)} {j : Job} {n : Nat} {c : Call}

theorem Traced.distinct (h : j.Traced id f) : j.numbers.Nodup := by
  rw [h.numbers]
  exact List.nodup_range'

/-- Another job's attempt may end. -/
theorem Traced.filter (h : j.Traced id f) (other : c.target ≠ some j.id) :
    j.Traced id (f.filter (!c.ends ·)) := by
  refine ⟨h.connection, h.status, h.numbers, fun n => ?_⟩
  rw [h.running, Option.filter_eq_some_iff, Bool.not_eq_true']
  refine (and_iff_left_of_imp fun _ => ?_).symm
  by_contra ends
  exact other (Call.target_of_ends (Bool.not_eq_false _ ▸ ends))

theorem Traced.failAttempt {status : AttemptStatus} {summary : FailureSummary}
    (h : j.Traced id f) (ended : status = .failed ∨ status = .incomplete) :
    ((Call.failAttempt j.id n status summary).revise j).Traced id
      (f.filter (!(Call.failAttempt j.id n status summary).ends ·)) where
  connection := h.connection
  status := .inl (by rcases ended with rfl | rfl <;> rfl)
  numbers := by
    have length : ((Call.failAttempt j.id n status summary).revise j).attempts.length =
        j.attempts.length := length_setAttempt
    rw [Call.numbers_revise (fun _ same => by cases same), h.numbers, length]
  running k := by
    have ended : status ≠ .running := by rcases ended with rfl | rfl <;> exact nofun
    rw [Call.runningAttempts_failAttempt ended h.distinct, List.mem_filter, h.running,
      Option.filter_eq_some_iff]
    simp [Call.ends, Call.revise]

theorem Held.createAttempt (h : j.Held id f) (isOpen : j.status.isTerminal = false)
    (idle : j.runningAttempts = []) :
    ((Call.createAttempt j.id).revise j).Held id (some (j.id, j.attempts.length + 1)) where
  connection := h.connection
  status := .inl isOpen
  numbers := by
    have length : ((Call.createAttempt j.id).revise j).attempts.length = j.attempts.length + 1 :=
      List.length_append
    rw [Call.numbers_createAttempt, h.numbers, length, List.range'_concat]
    simp [Nat.add_comm]
  running k := by
    rw [Call.runningAttempts_createAttempt, idle]
    simp [Call.revise, eq_comm]
  told a mem ended := by
    rcases List.mem_append.1 mem with mem | mem
    · exact h.told a mem ended
    · obtain rfl := List.mem_singleton.1 mem
      exact absurd rfl ended

theorem Held.reportJobStart (h : j.Held id f) :
    ((Call.reportJobStart j.id).revise j).Held id f :=
  ⟨⟨h.connection, .inl rfl, h.numbers, h.running⟩, h.told⟩

theorem Held.failAttempt {status : AttemptStatus} {summary : FailureSummary}
    (h : j.Held id f) (ended : status = .failed ∨ status = .incomplete)
    (told : summary.partialSuccess.isSome) :
    ((Call.failAttempt j.id n status summary).revise j).Held id
      (f.filter (!(Call.failAttempt j.id n status summary).ends ·)) := by
  refine ⟨h.toTraced.failAttempt ended, fun a mem hasEnded => ?_⟩
  rcases mem_setAttempt mem with mem | ⟨-, written⟩
  · exact h.told a mem hasEnded
  · exact ⟨summary, written, told⟩

theorem Held.failJob {reason : String} (h : j.Held id f) (idle : j.runningAttempts = []) :
    ((Call.failJob j.id reason).revise j).Held id
      (f.filter (!(Call.failJob j.id reason).ends ·)) := by
  refine ⟨⟨h.connection, .inr rfl, h.numbers, fun n => ?_⟩, h.told⟩
  show n ∈ j.runningAttempts ↔ _
  rw [idle, Option.filter_eq_some_iff]
  simp [Call.ends, Call.closes, Call.target, Call.revise]

end Job

/-! ### Generations that are not given up -/

theorem Task.report_of_fits {c : Course} {task : Task} (h : task.Fits c) :
    c.report ≠ some .abandoned := by
  intro abandoned
  cases task with
  | listStale | getStale | failStaleAttempt | failStaleJob | createJob | createAttempt | failJob =>
    cases h.1.report.symm.trans abandoned
  | untilNextRun | startJob | lastFailure | succeed | cancelJob | failAttempt | autoDisable =>
    cases h.report.symm.trans abandoned

namespace Station

variable {m : Manager} {c : Course} {s t : JobStore}

/-- A generation that was given up is so to its end, and leaves nothing behind. -/
theorem after_abandoned (station : Station) (a : (station.request m).Answer)
    (fits : station.Fits c) (abandoned : c.report = some .abandoned) :
    (c.after (.told (station.request m) a)).report = some .abandoned ∨
      ∃ input, station = ending input ∧ input.jobId = none := by
  cases station with
  | calling task left failed | pausing task left failed =>
    exact absurd abandoned (Task.report_of_fits fits)
  | timingStale | hydratingAttempt => cases fits.1.report.symm.trans abandoned
  | recovering => exact .inl rfl
  | timingRecovery => exact .inl abandoned
  | failingAttempt =>
    cases a <;> exact .inl abandoned
  | failingJob =>
    left
    cases a with
    | error error => exact abandoned
    | ok reply =>
      simp only [request, Course.after, abandoned]
      exact abandoned
  | ending input =>
    obtain ⟨-, same, -⟩ := fits
    simp only [Course.leavesOpen, abandoned] at same
    exact .inr ⟨input, rfl, same.symm⟩
  | _ => cases fits.report.symm.trans abandoned

/-- After a generation was given up only its attempt and its job are written, in this order. -/
theorem of_abandoned {station : Station} {call : Call} {k : JobId} (fits : station.Fits c)
    (abandoned : c.report = some .abandoned) (hr : station.request m = .call call)
    (target : call.target = some k) :
    (∃ input failure now, station = failingAttempt input k failure now) ∨
      ∃ failure, station = failingJob k failure := by
  cases station with
  | failingAttempt input job failure now =>
    cases hr
    cases target
    exact .inl ⟨input, failure, now, rfl⟩
  | failingJob job failure =>
    cases hr
    cases target
    exact .inr ⟨failure, rfl⟩
  | calling task left failed | pausing task left failed =>
    exact absurd abandoned (Task.report_of_fits fits)
  | timingStale | hydratingAttempt => cases fits.1.report.symm.trans abandoned
  | recovering | timingRecovery | ending => cases hr
  | _ => cases fits.report.symm.trans abandoned

theorem next_steady (station : Station) (a : (station.request m).Answer) (fits : station.Fits c)
    (ordered : s.Ordered)
    (h : c.report ≠ some .abandoned → station.Stands False m.connectionId s)
    (effect : (station.request m).Effect m.connectionId a s t)
    (going : (c.after (.told (station.request m) a)).report ≠ some .abandoned) :
    (station.next m a).Stands False m.connectionId
      (c.after (.told (station.request m) a)) t := by
  by_cases abandoned : c.report = some .abandoned
  · rcases station.after_abandoned a fits abandoned with still | ⟨input, rfl, none⟩
    · exact absurd still going
    · obtain ⟨before, control⟩ := a
      have deleted : ¬ before.flags.deleted = true := by
        intro deleted
        have same := Course.after_endGeneration_of_deleted c deleted control
        exact going ((congrArg Course.report same).trans abandoned)
      simp only [next, if_neg deleted]
      show JobStore.Begins _ _ { input with skipScheduling := _ } t
      unfold JobStore.Begins
      simp only [none]
      exact False.elim
  · refine station.next_stands a fits ordered (h abandoned) effect ?_
    by_contra calm
    refine going ?_
    cases station with
    | recovering => rfl
    | _ => exact absurd rfl calm

end Station

def World.Steady (id : Uuid) (spot : Spot) (w : World) : Prop :=
  (course w.past).report ≠ some .abandoned → spot.Stands False id (course w.past) w.jobs

theorem kept_steady (m : Manager) : Kept m fun spot w =>
    ((spot.Fits (course w.past) ∧ w.Sorted) ∧ w.Lists m.connectionId spot) ∧
      w.Steady m.connectionId spot :=
  (kept_lists m).and (fun _ h => h) (fun h => h)
    fun {station _ _} a ⟨⟨fits, _⟩, lists⟩ h answers going => by
      rw [answers.past_note] at going ⊢
      exact station.next_steady a fits lists.ordered h answers.effect going

/-! ### What is known of the jobs -/

namespace Course

/-- The job that is failed if the generation is given up. -/
def atHand (c : Course) : Option JobId :=
  match c.report with
  | none | some .kept | some .failed => c.job
  | some (.cancelled _) | some .succeeded | some .abandoned => none

variable {c : Course} {k : JobId}

theorem of_atHand (h : c.atHand = some k) : c.job = some k ∧ c.report ≠ some .abandoned := by
  unfold atHand at h
  split at h
  · next reported => exact ⟨h, by simp [reported]⟩
  · next reported => exact ⟨h, by simp [reported]⟩
  · next reported => exact ⟨h, by simp [reported]⟩
  all_goals cases h

theorem atHand_of_going (hasJob : c.job = some k) (going : c.isOver = false)
    (calm : c.report ≠ some .abandoned) : c.atHand = some k := by
  unfold isOver at going
  unfold atHand
  split at going <;> simp_all

theorem atHand_of_unreported (h : c.report = none) : c.atHand = c.job := by
  simp only [atHand, h]

theorem atHand_after {e : Event} (h : (c.after e).atHand = some k)
    (fresh : ∀ a, e = .told (.enter .recordFailure) a → c.report = none) :
    c.atHand = some k ∨ ∃ isReset, e = .told (.call (.createJob isReset)) (.ok k) := by
  unfold after at h
  split at h
  · exact .inl h
  · next isReset job =>
    right
    have same : some job = some k := (of_atHand h).1
    cases same
    exact ⟨isReset, rfl⟩
  · exact .inl h
  · exact .inl h
  · cases h
  · split at h
    · cases h
    · exact .inl h
  · cases h
  · left
    unfold atHand
    rw [fresh _ rfl]
    exact h
  · split at h
    · next kept =>
      left
      unfold atHand
      rw [kept]
      exact h
    · exact .inl h
  · cases h
  · split at h
    · exact .inl h
    · left
      obtain ⟨hasJob, reported | kept⟩ := of_leavesOpen h
      · simpa only [atHand, reported] using hasJob
      · simpa only [atHand, kept] using hasJob
  · exact .inl h

end Course

def JobStore.Runs (job : JobId) (attempts : List Nat) (s : JobStore) : Prop :=
  ∀ row, s.find? job = some row → row.runningAttempts = attempts

def Task.Knows (c : Course) (s : JobStore) : Task → Prop
  | failStaleAttempt _ job attempt attempts _ _ => s.Runs job (attempt :: attempts)
  | failStaleJob _ job _ => s.Runs job []
  | failAttempt _ _ _ _ summary => summary.partialSuccess.isSome
  | failJob input job _ => input.jobId = some job
  | autoDisable input => c.job = input.jobId
  | _ => True

def Station.Knows (id : Uuid) (c : Course) (f : Option (JobId × Nat)) (s : JobStore) :
    Station → Prop
  | calling task _ _ | pausing task _ _ => task.Knows c s
  | timingStale _ job attempt attempts _ => s.Runs job (attempt :: attempts)
  | recovering input _ => ∀ job, input.jobId = some job → c.atHand = some job
  | timingRecovery _ job _ | failingAttempt _ job .. =>
    ∃ row, s.find? job = some row ∧ row.Held id f
  | failingJob job _ => ∃ row, s.find? job = some row ∧ row.Traced id f
  | _ => True

def Spot.Knows (id : Uuid) (c : Course) (f : Option (JobId × Nat)) (s : JobStore) : Spot → Prop
  | .at station => station.Knows id c f s
  | .between _ | .stopped => True

structure World.Charted (id : Uuid) (w : World) : Prop where
  distinct : ∀ k row, w.jobs.find? k = some row → row.connectionId = id → row.numbers.Nodup
  held : ∀ k, (course w.past).atHand = some k →
    ∃ row, w.jobs.find? k = some row ∧ row.Held id (flight w.past)
  aloft : ∀ k n, flight w.past = some (k, n) → ∃ row, w.jobs.find? k = some row ∧
    row.connectionId = id ∧ row.status.isTerminal = false ∧ n ∈ row.runningAttempts

structure World.Charts (id : Uuid) (spot : Spot) (w : World) : Prop extends w.Charted id where
  knows : spot.Knows id (course w.past) (flight w.past) w.jobs

structure World.Surveys (id : Uuid) (spot : Spot) (w : World) : Prop extends w.Charts id spot where
  fits : spot.Fits (course w.past)
  sorted : w.Sorted
  lists : w.Lists id spot
  steady : w.Steady id spot

namespace Station

variable {m : Manager} {id : Uuid} {c : Course} {f : Option (JobId × Nat)} {s : JobStore}
  {station : Station} {job k : JobId} {n : Nat} {status : AttemptStatus} {summary : FailureSummary}
  {row : Job}

theorem status_of_failAttempt
    (hr : station.request m = .call (.failAttempt job n status summary)) :
    status = .failed ∨ status = .incomplete := by
  cases station with
  | calling task left failed =>
    cases task with
    | failStaleAttempt =>
      cases hr
      exact .inl rfl
    | failAttempt input budget job madeProgress summary =>
      cases hr
      cases madeProgress
      · exact .inl rfl
      · exact .inr rfl
    | _ => cases hr
  | failingAttempt =>
    cases hr
    exact .inl rfl
  | _ => cases hr

/-- The failure of an attempt says whether that was a partial success, unless it is that of a job
left open or of a generation given up. -/
theorem told_of_failAttempt (fits : station.Fits c) (knows : station.Knows id c f s)
    (atHand : c.atHand = some k)
    (hr : station.request m = .call (.failAttempt job n status summary)) :
    summary.partialSuccess.isSome := by
  obtain ⟨hasJob, going⟩ := Course.of_atHand atHand
  cases station with
  | calling task left failed =>
    cases task with
    | failStaleAttempt => cases (fits.1.openJob.trans fits.2).symm.trans hasJob
    | failAttempt input budget job madeProgress summary =>
      cases hr
      exact knows
    | _ => cases hr
  | failingAttempt => exact absurd fits going
  | _ => cases hr

/-- Nothing of the job at hand is running when it is attempted or given up. -/
theorem idle_of_target {call : Call} (fits : station.Fits c) (stands : station.Stands False id s)
    (atHand : c.atHand = some k) (hr : station.request m = .call call)
    (kind : call = .createAttempt k ∨ ∃ reason, call = .failJob k reason)
    (found : s.find? k = some row) : row.runningAttempts = [] := by
  obtain ⟨hasJob, going⟩ := Course.of_atHand atHand
  cases station with
  | calling task left failed =>
    cases hr
    cases task with
    | createAttempt input budget job isReset =>
      rcases kind with same | ⟨reason, same⟩ <;> cases same
      exact (stands.flies found).running
    | failStaleJob => cases (fits.1.openJob.trans fits.2).symm.trans hasJob
    | failJob input job reason =>
      rcases kind with same | ⟨reason, same⟩ <;> cases same
      exact (stands.flies found).running
    | _ => rcases kind with same | ⟨reason, same⟩ <;> cases same
  | failingJob => exact absurd fits going
  | _ => rcases kind with rfl | ⟨reason, rfl⟩ <;> cases hr

end Station

/-! ### Calls that are carried out -/

section Carried

variable {m : Manager} {station : Station} {w : World} {call : Call} {reply : call.Reply}
  {jobs : JobStore} {k : JobId} {n : Nat}

theorem World.Surveys.isOpen (h : w.Surveys m.connectionId station)
    (hr : station.request m = .call call) (target : call.target = some k)
    (calm : (course w.past).report ≠ some .abandoned) :
    ∃ row, w.jobs.find? k = some row ∧ row.status.isTerminal = false :=
  open_of_target h.fits h.sorted h.lists hr target calm

theorem atHand_of_createAttempt {c : Course} {job : JobId} (fits : station.Fits c)
    (hr : station.request m = .call (.createAttempt job)) : c.atHand = some job := by
  obtain ⟨-, -, leaves⟩ := Station.fits_createAttempt fits hr
  obtain ⟨hasJob, reported | kept⟩ := Course.of_leavesOpen leaves
  · simpa only [Course.atHand, reported] using hasJob
  · simpa only [Course.atHand, kept] using hasJob

theorem held_revise {row : Job} (hr : station.request m = .call call)
    (h : w.Surveys m.connectionId station)
    (effect : call.Effect m.connectionId w.jobs reply jobs)
    (atHand : ((course w.past).after (.told (.call call) (.ok reply))).atHand = some row.id)
    (before : (course w.past).atHand = some row.id) (target : call.target = some row.id)
    (found : w.jobs.find? row.id = some row) (held : row.Held m.connectionId (flight w.past)) :
    (call.revise row).Held m.connectionId (flight (.told (.call call) (.ok reply) :: w.past)) := by
  obtain ⟨-, going⟩ := Course.of_atHand before
  have idle (kind : call = .createAttempt row.id ∨ ∃ reason, call = .failJob row.id reason) :
      row.runningAttempts = [] :=
    Station.idle_of_target h.fits (h.steady going) before hr kind found
  cases call with
  | createAttempt job =>
    cases target
    obtain ⟨row', found', isOpen⟩ := h.isOpen hr rfl going
    rw [found] at found'
    cases found'
    show ((Call.createAttempt row.id).revise row).Held _ (some (row.id, reply))
    rw [effect.attempted found]
    exact held.createAttempt isOpen (idle (.inl rfl))
  | reportJobStart job =>
    cases target
    have same : flight (.told (.call (.reportJobStart row.id)) (.ok reply) :: w.past) =
        flight w.past := by
      rw [flight_carried fun _ same => by cases same]
      cases flight w.past <;> rfl
    rw [same]
    exact held.reportJobStart
  | failAttempt job n status summary =>
    cases target
    rw [flight_carried fun _ same => by cases same]
    exact held.failAttempt (Station.status_of_failAttempt hr)
      (Station.told_of_failAttempt h.fits h.knows before hr)
  | failJob job reason =>
    cases target
    rw [flight_carried fun _ same => by cases same]
    exact held.failJob (idle (.inr ⟨reason, rfl⟩))
  | jobSuccess | jobCancelled => cases atHand
  | _ => cases target

theorem held_carried (hr : station.request m = .call call)
    (h : w.Surveys m.connectionId station)
    (effect : call.Effect m.connectionId w.jobs reply jobs)
    (atHand : ((course w.past).after (.told (.call call) (.ok reply))).atHand = some k) :
    ∃ row, jobs.find? k = some row ∧
      row.Held m.connectionId (flight (.told (.call call) (.ok reply) :: w.past)) := by
  rcases Course.atHand_after atHand (fun _ same => by cases same) with before | ⟨isReset, created⟩
  · obtain ⟨row, found, held⟩ := h.held k before
    obtain rfl := JobStore.id_of_find? found
    by_cases target : call.target = some row.id
    · obtain ⟨row', found', written⟩ := (effect.revises target).found
      rw [found] at found'
      cases found'
      exact ⟨_, written, held_revise hr h effect atHand before target found held⟩
    · have old (job : JobId) : call ≠ .createAttempt job := by
        rintro rfl
        exact target ((atHand_of_createAttempt h.fits hr).symm.trans before)
      refine ⟨row, effect.keeps h.sorted.numbered found target, ⟨?_, held.told⟩⟩
      rw [flight_carried old]
      exact held.filter target
  · cases created
    obtain ⟨now, rows⟩ := effect.opened
    refine ⟨_, (rows k).trans (if_pos rfl), ⟨rfl, .inl rfl, rfl, fun n => ?_⟩, nofun⟩
    -- The number is beyond those of the jobs that are there, so nothing of it is in flight.
    refine ⟨nofun, fun flying => ?_⟩
    rw [flight_carried_iff fun _ same => by cases same] at flying
    obtain ⟨row, found, -⟩ := h.aloft k n flying.1
    have beyond := effect.created.1
    have within := h.sorted.numbered k row found
    rw [beyond] at within
    exact absurd within (Int.not_le.2 (Int.lt_succ _))

theorem aloft_carried (hr : station.request m = .call call)
    (h : w.Surveys m.connectionId station)
    (effect : call.Effect m.connectionId w.jobs reply jobs)
    (flying : flight (.told (.call call) (.ok reply) :: w.past) = some (k, n)) :
    ∃ row, jobs.find? k = some row ∧ row.connectionId = m.connectionId ∧
      row.status.isTerminal = false ∧ n ∈ row.runningAttempts := by
  by_cases new : ∃ job, call = .createAttempt job
  · obtain ⟨job, rfl⟩ := new
    cases flying
    have atHand := atHand_of_createAttempt h.fits hr
    obtain ⟨row, found, isOpen⟩ := h.isOpen hr rfl (Course.of_atHand atHand).2
    obtain ⟨row', found', held⟩ := h.held k atHand
    rw [found] at found'
    cases found'
    obtain ⟨row', found', written⟩ := (effect.revises rfl).found
    rw [found] at found'
    cases found'
    refine ⟨_, written, held.connection, isOpen, ?_⟩
    rw [Call.runningAttempts_createAttempt, effect.attempted found]
    exact List.mem_append_right _ List.mem_cons_self
  · have old (job : JobId) : call ≠ .createAttempt job := fun same => new ⟨job, same⟩
    rw [flight_carried_iff old] at flying
    obtain ⟨flying, spared⟩ := flying
    obtain ⟨row, found, own, isOpen, runs⟩ := h.aloft k n flying
    by_cases target : call.target = some k
    · obtain ⟨row', found', written⟩ := (effect.revises target).found
      rw [found] at found'
      cases found'
      refine ⟨_, written, Call.revise_connectionId.trans own, ?_⟩
      cases call with
      | createAttempt job => exact absurd rfl (old job)
      | reportJobStart job => exact ⟨rfl, runs⟩
      | failAttempt job attempt status summary =>
        cases target
        have ended := Station.status_of_failAttempt hr
        refine ⟨by rcases ended with rfl | rfl <;> rfl, ?_⟩
        have ended : status ≠ .running := by rcases ended with rfl | rfl <;> exact nofun
        rw [Call.runningAttempts_failAttempt ended (h.distinct k row found own)]
        refine List.mem_filter.2 ⟨runs, decide_eq_true ?_⟩
        rintro rfl
        exact absurd spared (by simp [Call.ends])
      | failJob | jobSuccess | jobCancelled =>
        cases target
        exact absurd spared (by simp [Call.ends, Call.closes, Call.target])
      | _ => cases target
    · exact ⟨row, effect.keeps h.sorted.numbered found target, own, isOpen, runs⟩

theorem distinct_carried {row : Job} (hr : station.request m = .call call)
    (h : w.Surveys m.connectionId station)
    (effect : call.Effect m.connectionId w.jobs reply jobs)
    (found : jobs.find? k = some row) (own : row.connectionId = m.connectionId) :
    row.numbers.Nodup := by
  rcases effect.row found with ⟨target, old, before, rfl⟩ | ⟨-, before⟩ | ⟨-, isReset, now, rfl⟩
  · by_cases new : ∃ job, call = .createAttempt job
    · obtain ⟨job, rfl⟩ := new
      cases target
      have atHand : (course w.past).atHand = some k := atHand_of_createAttempt h.fits hr
      obtain ⟨row, found', held⟩ := held_carried (k := k) hr h effect atHand
      rw [found] at found'
      cases found'
      exact held.distinct
    · rw [Call.numbers_revise fun job same => new ⟨job, same⟩]
      exact h.distinct k old before (Call.revise_connectionId.symm.trans own)
  · exact h.distinct k row before own
  · exact .nil

end Carried

/-! ### Where jobs and attempts are failed -/

namespace Station

variable {m : Manager} {id : Uuid} {c : Course} {f : Option (JobId × Nat)} {s t : JobStore}
  {input : RunInput} {budget : Option RetryBudget} {context : AttemptContext}

theorem cleaning_knows (jobs : List JobId) : (cleaning m input jobs).Knows id c f s := by
  cases jobs <;> exact trivial

theorem failingStale_knows {job : JobId} {jobs : List JobId} {attempts : List Nat}
    (runs : s.Runs job attempts) : (failingStale m input job jobs attempts).Knows id c f s := by
  cases attempts <;> exact runs

theorem leaving_knows (last : Bool) : (leaving last input).Knows id c f s := by
  cases last <;> exact trivial

theorem cancelling_knows (failures : List FailureReason) (partialSuccess : Option Bool)
    (last : Bool) : (cancelling input failures partialSuccess last).Knows id c f s := by
  unfold cancelling
  split
  · exact leaving_knows last
  · exact trivial

theorem checkingSides_knows (sides : List Side) :
    (checkingSides input budget context sides).Knows id c f s := by
  cases sides <;> exact trivial

theorem reporting_knows (flags : Flags) (outcome : AttemptOutcome) :
    (reporting m input budget context flags outcome).Knows id c f s := by
  cases outcome with
  | succeeded output => exact trivial
  | cancelled => exact cancelling_knows _ _ _
  | failed failures partialSuccess =>
    unfold reporting failing
    dsimp only
    split
    · exact cancelling_knows _ _ _
    · split <;> exact trivial

theorem runs_failAttempt {job : JobId} {n : Nat} {attempts : List Nat} {summary : FailureSummary}
    (runs : s.Runs job (n :: attempts))
    (distinct : ∀ row, s.find? job = some row → row.numbers.Nodup)
    (r : s.Revises job (Call.failAttempt job n .failed summary).revise t) :
    t.Runs job attempts := by
  intro row' found
  obtain ⟨row, before, after⟩ := r.found
  rw [after] at found
  cases found
  have distinct := distinct row before
  have running := runs row before
  rw [Call.runningAttempts_failAttempt (by decide) distinct, running]
  have distinct : (n :: attempts).Nodup := by
    rw [← running]
    exact distinct.sublist (List.filter_sublist.map _)
  obtain ⟨fresh, -⟩ := List.nodup_cons.1 distinct
  rw [List.filter_cons_of_neg (by simp), List.filter_eq_self]
  intro k mem
  rw [decide_eq_true_eq]
  rintro rfl
  exact fresh mem

theorem carried_knows (task : Task) (reply : task.call.Reply) (fits : task.Fits c)
    (knows : task.Knows c s) (lists : s.Listed m.connectionId task.todo)
    (distinct : ∀ k row, s.find? k = some row → row.connectionId = m.connectionId →
      row.numbers.Nodup)
    (effect : task.call.Effect m.connectionId s reply t) :
    (carried m task reply).Knows m.connectionId
      (c.after (.told (.call task.call) (.ok reply))) f t := by
  cases task with
  | listStale input => exact cleaning_knows _
  | getStale input job jobs =>
    obtain ⟨got, rfl⟩ := effect
    refine failingStale_knows fun row found => ?_
    rw [JobStore.found_of_get got] at found
    cases found
    rfl
  | failStaleAttempt input job attempt attempts jobs now =>
    refine failingStale_knows (runs_failAttempt knows (fun row found => ?_) (effect.revises rfl))
    obtain ⟨row', found', own, -⟩ := lists.isOpen job List.mem_cons_self
    rw [found] at found'
    cases found'
    exact distinct job row found own
  | failStaleJob input job jobs => exact cleaning_knows _
  | lastFailure input budget context => exact checkingSides_knows _
  | succeed input budget context output => cases budget <;> exact trivial
  | failAttempt input budget job madeProgress summary => cases budget <;> exact trivial
  | failJob input job reason =>
    obtain ⟨report, same⟩ := c.after_failJob job reason
    show (c.after (.told (.call (.failJob job reason)) (.ok ()))).job = input.jobId
    rw [same]
    exact fits.2.trans (Eq.symm knows)
  | _ => exact trivial

/-- A generation is given up with the job that is at hand. -/
theorem givenUp_knows (task : Task) (error : ActivityError) (fits : task.Fits c)
    (knows : task.Knows c s) : (givenUp task error).Knows id c f s := by
  have pursued {input : RunInput} (h : c.Pursues input) (job : JobId)
      (hasJob : input.jobId = some job) : c.atHand = some job := by
    rw [Course.atHand_of_unreported h.report, h.openJob, hasJob]
  cases task with
  | lastFailure => exact trivial
  | listStale | getStale | failStaleAttempt | failStaleJob | createJob | createAttempt =>
    exact pursued fits.1.toPursues
  | untilNextRun | startJob | succeed | cancelJob | failAttempt => exact pursued fits.toPursues
  | failJob input job reason =>
    obtain ⟨reported, hasJob⟩ := fits
    intro job' same
    simp only [Course.atHand, reported.report]
    exact hasJob.trans ((Eq.symm knows).trans same)
  | autoDisable input =>
    intro job same
    have reported := fits.report
    simp only [Course.atHand, reported]
    exact (show c.job = input.jobId from knows).trans same

theorem failingAttempt_knows {job : JobId} {failure : ActivityFailure} {now : Timestamp}
    {summary : FailureSummary} {reply : Unit} {past : List Event}
    (knows : (failingAttempt input job failure now).Knows id c (flight past) s)
    (effect : (Call.failAttempt job input.attempt .failed summary).Effect id s reply t) :
    (failingJob job failure).Knows id c (flight
      (.told (.call (.failAttempt job input.attempt .failed summary)) (.ok reply) :: past)) t := by
  obtain ⟨row, found, held⟩ := knows
  obtain rfl := JobStore.id_of_find? found
  obtain ⟨row', found', written⟩ := (effect.revises rfl).found
  rw [found] at found'
  cases found'
  exact ⟨_, written, held.toTraced.failAttempt (.inl rfl)⟩

theorem next_knows (station : Station) (a : (station.request m).Answer) (fits : station.Fits c)
    (knows : station.Knows m.connectionId c f s)
    (lists : s.Listed m.connectionId station.todo)
    (distinct : ∀ k row, s.find? k = some row → row.connectionId = m.connectionId →
      row.numbers.Nodup)
    (held : ∀ k, c.atHand = some k → ∃ row, s.find? k = some row ∧ row.Held m.connectionId f)
    (effect : (station.request m).Effect m.connectionId a s t) {past : List Event}
    (flying : flight past = f) :
    (station.next m a).Knows m.connectionId (c.after (.told (station.request m) a))
      (flight (.told (station.request m) a :: past)) t := by
  cases station with
  | beginning input =>
    simp only [next]
    split <;> exact trivial
  | calling task left failed =>
    cases a with
    | ok reply => exact carried_knows task reply fits knows lists distinct effect
    | error error =>
      obtain rfl : t = s := effect
      show Spot.Knows _ (c.after (.told (.call task.call) (.error error))) _ _ _
      rw [Course.after_failed]
      cases left with
      | zero => exact givenUp_knows task error fits knows
      | succ left => exact knows
  | pausing | timingStale =>
    obtain rfl : t = s := effect
    exact knows
  | endingWait input =>
    obtain ⟨before, control⟩ := a
    simp only [next]
    split
    · exact cancelling_knows _ _ _
    split
    · exact trivial
    split
    · exact cancelling_knows _ _ _
    · exact trivial
  | hydratingAttempt input isReset =>
    simp only [next, opening]
    split <;> exact trivial
  | looking input budget context =>
    obtain ⟨control, _⟩ := a
    simp only [next]
    split <;> exact trivial
  | checking input budget context side sides =>
    rcases a with error | (_ | reason | _)
    · exact trivial
    · exact checkingSides_knows sides
    · exact trivial
    · exact trivial
  | executing input budget context => cases a <;> exact trivial
  | releasing input budget context outcome =>
    cases outcome with
    | ok outcome => exact reporting_knows _ outcome
    | error failure =>
      intro job hasJob
      show c.atHand = some job
      rw [Course.atHand_of_unreported fits.report]
      exact fits.openJob.trans hasJob
  | lookingBack last => exact leaving_knows last
  | checkingProgress => exact rfl
  | recordingFailure input job summary withinLimits =>
    simp only [next]
    split
    · exact trivial
    · exact fits.jobId
  | recovering input failure =>
    obtain rfl : t = s := effect
    simp only [next]
    split
    · next job hasJob =>
      subst flying
      exact held job (knows job hasJob)
    · exact trivial
  | timingRecovery input job failure =>
    obtain rfl : t = s := effect
    subst flying
    exact knows
  | failingAttempt input job failure now =>
    subst flying
    cases a with
    | error error =>
      obtain rfl : t = s := effect
      obtain ⟨row, found, held⟩ := knows
      exact ⟨row, found, held.toTraced⟩
    | ok reply => exact failingAttempt_knows (c := c) knows effect
  | ending input =>
    obtain ⟨before, control⟩ := a
    simp only [next]
    split <;> exact trivial
  | _ => exact trivial

end Station

/-! ### Runs -/

theorem World.Charted.cons {id : Uuid} {w w' : World} {e : Event} (h : w.Charted id)
    (past : w'.past = e :: w.past) (jobs : w'.jobs = w.jobs)
    (flying : flight (e :: w.past) = flight w.past)
    (old : ∀ isReset job, e ≠ .told (.call (.createJob isReset)) (.ok job))
    (fresh : ∀ a, e = .told (.enter .recordFailure) a → (course w.past).report = none) :
    w'.Charted id := by
  refine ⟨?_, fun k atHand => ?_, ?_⟩
  · rw [jobs]
    exact h.distinct
  · rw [past] at atHand
    rw [jobs, past, flying]
    rcases Course.atHand_after atHand fresh with before | ⟨isReset, new⟩
    · exact h.held k before
    · exact absurd new (old isReset k)
  · rw [jobs, past, flying]
    exact h.aloft

theorem World.Charts.hear {id : Uuid} {spot : Spot} {w : World} (signal : Signal)
    (h : w.Charts id spot) : (w.hear signal).Charts id spot :=
  ⟨h.toCharted.cons rfl rfl rfl (fun _ _ same => by cases same) (fun _ same => by cases same),
    h.knows⟩

theorem charted_answer {m : Manager} {station : Station} {w w' : World} {r : Request}
    {a : r.Answer} (hr : station.request m = r) (h : w.Surveys m.connectionId station)
    (answers : w.Answers m.connectionId r a w') : (w'.note r a).Charted m.connectionId := by
  cases answers with
  | carried call reply jobs effect => exact {
      distinct := fun _ _ => distinct_carried (w := w) hr h effect
      held := fun _ => held_carried (w := w) hr h effect
      aloft := fun _ _ => aloft_carried (w := w) hr h effect }
  | failed call e =>
    exact h.toCharted.cons rfl rfl (flight_failed e) (fun _ _ same => by cases same)
      fun _ same => by cases same
  | entered sec =>
    refine h.toCharted.cons rfl rfl rfl (fun _ _ same => by cases same) fun _ same => ?_
    cases same
    exact Station.fits_recordFailure h.fits hr
  | _ =>
    exact h.toCharted.cons rfl rfl rfl (fun _ _ same => by cases same) fun _ same => by cases same

/-- What is known of the jobs is kept one upon the other: where the manager stands, how its own job
came out, which jobs are yet to be failed, what is in flight. -/
theorem kept_surveys (m : Manager) : Kept m fun spot w => w.Surveys m.connectionId spot := by
  have kept : Kept m fun spot w =>
      (((spot.Fits (course w.past) ∧ w.Sorted) ∧ w.Lists m.connectionId spot) ∧
        w.Steady m.connectionId spot) ∧ w.Charts m.connectionId spot :=
    (kept_steady m).and (fun signal h => h.hear signal)
      (fun h => ⟨h.toCharted, trivial⟩)
      fun {station _ _} a ⟨⟨⟨fits, sorted⟩, lists⟩, steady⟩ h answers => by
        refine ⟨charted_answer rfl ⟨h, fits, sorted, lists, steady⟩ answers, ?_⟩
        rw [answers.past_note]
        exact station.next_knows a fits h.knows lists.listed h.distinct h.held answers.effect rfl
  refine kept.congr fun {spot w} => ⟨?_, fun h => ?_⟩
  · rintro ⟨⟨⟨⟨fits, sorted⟩, lists⟩, steady⟩, charts⟩
    exact ⟨charts, fits, sorted, lists, steady⟩
  · exact ⟨⟨⟨⟨h.fits, h.sorted⟩, h.lists⟩, h.steady⟩, h.toCharts⟩

theorem surveys_first (m : Manager) {rows : List Job}
    (distinct : ∀ row ∈ rows, row.connectionId = m.connectionId → row.numbers.Nodup) :
    (Moment.first m rows).world.Surveys m.connectionId (.between (.fresh m.connectionId)) := by
  refine ⟨⟨⟨fun k row found own => ?_, nofun, nofun⟩, trivial⟩,
    ⟨⟨rfl, rfl, rfl⟩, rfl, rfl, rfl, rfl⟩, sorted_first m rows, lists_first m rows,
    fun _ => False.elim⟩
  rcases JobStore.row_of_foldl_insert found with mem | found
  · exact distinct row mem own
  · cases found

end ConnectorSync.Sync
