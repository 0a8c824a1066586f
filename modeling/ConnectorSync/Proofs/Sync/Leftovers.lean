import ConnectorSync.Proofs.Sync.Deletion

/-!
# Jobs left open from before

The jobs that a generation finds open when it begins without one are distinct and stay open until
each is failed in its turn. So what a manager writes in a generation that is not given up is always
the row of a job that is open.
-/

namespace ConnectorSync.Sync

/-! ### Jobs yet to be failed -/

def Task.todo : Task → List JobId
  | getStale _ job jobs | failStaleAttempt _ job _ _ jobs _ | failStaleJob _ job jobs => job :: jobs
  | _ => []

def Station.todo : Station → List JobId
  | calling task _ _ | pausing task _ _ => task.todo
  | timingStale _ job _ _ jobs => job :: jobs
  | _ => []

def Spot.todo : Spot → List JobId
  | .at s => s.todo
  | .between _ | .stopped => []

structure JobStore.Listed (id : Uuid) (todo : List JobId) (s : JobStore) : Prop where
  distinct : todo.Nodup
  isOpen : ∀ k ∈ todo, ∃ row, s.find? k = some row ∧ row.connectionId = id ∧
    row.status.isTerminal = false

namespace JobStore

variable {id : Uuid} {s t : JobStore} {todo : List JobId} {job : JobId}

theorem listed_nil : s.Listed id [] := ⟨.nil, nofun⟩

theorem Listed.tail (h : s.Listed id (job :: todo)) : s.Listed id todo :=
  ⟨(List.nodup_cons.1 h.distinct).2, fun k mem => h.isOpen k (List.mem_cons_of_mem job mem)⟩

theorem listed_nonTerminalJobs (ordered : s.Ordered) : s.Listed id (s.nonTerminalJobs id) where
  distinct := nodup_nonTerminalJobs ordered
  isOpen _ mem := (mem_nonTerminalJobs ordered).1 mem

/-- A call leaves the jobs open that it does not close. -/
theorem Listed.revised {c : Call} (h : s.Listed id todo) (r : s.Revises job c.revise t)
    (stays : job ∈ todo → ∀ status : JobStatus, status.isTerminal = false →
      (c.leaves status).isTerminal = false) : t.Listed id todo := by
  refine ⟨h.distinct, fun k mem => ?_⟩
  obtain ⟨row, found, own, isOpen⟩ := h.isOpen k mem
  by_cases same : k = job
  · subst same
    obtain ⟨row', before, after⟩ := r.found
    obtain rfl := Option.some.inj (found.symm.trans before)
    refine ⟨_, after, Call.revise_connectionId.trans own, ?_⟩
    rw [Call.revise_status]
    exact stays mem _ isOpen
  · exact ⟨row, (r.others k same).trans found, own, isOpen⟩

end JobStore

namespace Station

variable {m : Manager} {c : Course} {input : RunInput} {budget : Option RetryBudget}
  {context : AttemptContext}

theorem cleaning_todo (jobs : List JobId) : (cleaning m input jobs).todo = jobs := by
  cases jobs <;> rfl

theorem failingStale_todo (job : JobId) (jobs : List JobId) (attempts : List Nat) :
    (failingStale m input job jobs attempts).todo = job :: jobs := by
  cases attempts <;> rfl

theorem leaving_todo (last : Bool) : (leaving last input).todo = [] := by
  cases last <;> rfl

theorem cancelling_todo (failures : List FailureReason) (partialSuccess : Option Bool)
    (last : Bool) : (cancelling input failures partialSuccess last).todo = [] := by
  unfold cancelling
  split
  · exact leaving_todo last
  · rfl

theorem checkingSides_todo (sides : List Side) :
    (checkingSides input budget context sides).todo = [] := by
  cases sides <;> rfl

theorem reporting_todo (flags : Flags) (outcome : AttemptOutcome) :
    (reporting m input budget context flags outcome).todo = [] := by
  cases outcome with
  | succeeded output => rfl
  | cancelled => exact cancelling_todo _ _ _
  | failed failures partialSuccess =>
    unfold reporting failing
    dsimp only
    split
    · exact cancelling_todo _ _ _
    · split <;> rfl

variable {id : Uuid} {s t : JobStore}

theorem carried_listed (task : Task) (reply : task.call.Reply) (ordered : s.Ordered)
    (h : s.Listed m.connectionId task.todo)
    (effect : task.call.Effect m.connectionId s reply t) :
    t.Listed m.connectionId (carried m task reply).todo := by
  cases task with
  | listStale input =>
    obtain ⟨rfl, rfl⟩ := effect
    show JobStore.Listed _ (cleaning m input _).todo _
    rw [cleaning_todo]
    exact JobStore.listed_nonTerminalJobs ordered
  | getStale input job jobs =>
    obtain ⟨-, rfl⟩ := effect
    show JobStore.Listed _ (failingStale m input job jobs _).todo _
    rw [failingStale_todo]
    exact h
  | failStaleAttempt input job attempt attempts jobs now =>
    show JobStore.Listed _ (failingStale m input job jobs _).todo _
    rw [failingStale_todo]
    exact h.revised (effect.revises rfl) fun _ _ _ => rfl
  | failStaleJob input job jobs =>
    show JobStore.Listed _ (cleaning m input _).todo _
    rw [cleaning_todo]
    obtain ⟨fresh, -⟩ := List.nodup_cons.1 h.distinct
    exact h.tail.revised (effect.revises rfl) fun mem => absurd mem fresh
  | lastFailure input budget context =>
    show JobStore.Listed _ (checkingSides input budget context _).todo _
    rw [checkingSides_todo]
    exact JobStore.listed_nil
  | succeed input budget context output =>
    cases budget <;> exact JobStore.listed_nil
  | failAttempt input budget job madeProgress summary =>
    cases budget <;> exact JobStore.listed_nil
  | _ => exact JobStore.listed_nil

theorem givenUp_todo (task : Task) (error : ActivityError) : (givenUp task error).todo = [] := by
  cases task <;> rfl

theorem next_listed (station : Station) (a : (station.request m).Answer) (ordered : s.Ordered)
    (h : s.Listed m.connectionId station.todo)
    (effect : (station.request m).Effect m.connectionId a s t) :
    t.Listed m.connectionId (station.next m a).todo := by
  have nothing {spot : Spot} (none : spot.todo = []) : t.Listed m.connectionId spot.todo := by
    rw [none]
    exact JobStore.listed_nil
  cases station with
  | beginning input =>
    refine nothing ?_
    simp only [next]
    split <;> rfl
  | calling task left failed =>
    cases a with
    | ok reply => exact carried_listed task reply ordered h effect
    | error error =>
      obtain rfl : t = s := effect
      cases left with
      | zero => exact nothing (givenUp_todo task error)
      | succ left => exact h
  | pausing | timingStale =>
    obtain rfl : t = s := effect
    exact h
  | endingWait input =>
    obtain ⟨before, control⟩ := a
    refine nothing ?_
    simp only [next]
    split
    · exact cancelling_todo _ _ _
    split
    · rfl
    split
    · exact cancelling_todo _ _ _
    · rfl
  | hydratingAttempt input isReset =>
    refine nothing ?_
    simp only [next, opening]
    split <;> rfl
  | looking input budget context =>
    obtain ⟨control, _⟩ := a
    refine nothing ?_
    simp only [next]
    split <;> rfl
  | checking input budget context side sides =>
    rcases a with error | (_ | reason | _)
    · exact nothing rfl
    · exact nothing (checkingSides_todo sides)
    · exact nothing rfl
    · exact nothing rfl
  | executing input budget context => cases a <;> exact nothing rfl
  | releasing input budget context outcome =>
    cases outcome with
    | ok outcome => exact nothing (reporting_todo _ outcome)
    | error failure => exact nothing rfl
  | lookingBack last => exact nothing (leaving_todo last)
  | recordingFailure input job summary withinLimits =>
    refine nothing ?_
    simp only [next]
    split <;> rfl
  | recovering input failure =>
    refine nothing ?_
    simp only [next]
    split <;> rfl
  | ending input =>
    obtain ⟨before, control⟩ := a
    refine nothing ?_
    simp only [next]
    split <;> rfl
  | _ => exact nothing rfl

/-- A call that writes the row of a job while the generation has none is about one of those found
open. -/
theorem target_todo {station : Station} {call : Call} {job : JobId} (h : station.Fits c)
    (hr : station.request m = .call call) (target : call.target = some job) (free : c.job = none)
    (calm : c.report ≠ some .abandoned) : job ∈ station.todo := by
  have taken {input : RunInput} (openJob : c.job = input.jobId) (hasJob : input.jobId = some job) :
      False := by
    rw [free, hasJob] at openJob
    cases openJob
  cases station with
  | calling task left failed =>
    cases hr
    cases task with
    | failStaleAttempt | failStaleJob =>
      cases target
      exact List.mem_cons_self
    | createAttempt =>
      cases target
      exact (taken h.1.openJob h.2.1).elim
    | startJob | succeed | cancelJob | failAttempt =>
      cases target
      exact (taken h.openJob h.jobId).elim
    | failJob =>
      cases target
      cases free.symm.trans h.2
    | listStale | getStale | untilNextRun | createJob | lastFailure | autoDisable => cases target
  | failingAttempt | failingJob => exact absurd h calm
  | hydrating | hydratingAttempt | persistingSuccess | checkingProgress | persistingFailure
  | askingMost =>
    cases hr
    cases target
  | _ => cases hr

end Station

/-! ### What is written -/

structure World.Lists (id : Uuid) (spot : Spot) (w : World) : Prop where
  ordered : w.jobs.Ordered
  listed : w.jobs.Listed id spot.todo

theorem kept_sorted (m : Manager) :
    Kept m fun spot w => spot.Fits (course w.past) ∧ w.Sorted :=
  .worldly (fun _ h => ⟨h.numbered, h.matched⟩) sorted_answer

theorem kept_lists (m : Manager) : Kept m fun spot w =>
    (spot.Fits (course w.past) ∧ w.Sorted) ∧ w.Lists m.connectionId spot :=
  (kept_sorted m).and (fun _ h => ⟨h.ordered, h.listed⟩) (fun h => ⟨h.ordered, h.listed⟩)
    fun {station _ _} a _ h answers => ⟨answers.effect.ordered h.ordered,
      station.next_listed a h.ordered h.listed answers.effect⟩

theorem sorted_first (m : Manager) (rows : List Job) : (Moment.first m rows).world.Sorted :=
  (heeds_first m rows).1

theorem lists_first (m : Manager) (rows : List Job) :
    (Moment.first m rows).world.Lists m.connectionId (.between (.fresh m.connectionId)) :=
  ⟨JobStore.ordered_foldl_insert rows .nil, JobStore.listed_nil⟩

/-- The row that a call is about to write is that of an open job, unless the generation is given
up. -/
theorem open_of_target {id : Uuid} {m : Manager} {station : Station} {w : World} {call : Call}
    {job : JobId} (fits : station.Fits (course w.past)) (sorted : w.Sorted)
    (lists : w.Lists id station) (hr : station.request m = .call call)
    (target : call.target = some job) (calm : (course w.past).report ≠ some .abandoned) :
    ∃ row, w.jobs.find? job = some row ∧ row.status.isTerminal = false := by
  rcases Station.fits_target fits hr target with ⟨hasJob, going, -⟩ | ⟨free | abandoned, -⟩
  · obtain ⟨row, found, same⟩ := sorted.matched job hasJob calm
    exact ⟨row, found, same.trans going⟩
  · obtain ⟨row, found, -, isOpen⟩ :=
      lists.listed.isOpen job (Station.target_todo fits hr target free calm)
    exact ⟨row, found, isOpen⟩
  · exact absurd abandoned calm

end ConnectorSync.Sync
