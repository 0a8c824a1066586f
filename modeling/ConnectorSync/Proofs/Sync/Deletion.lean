import ConnectorSync.Proofs.Sync.Cancellation
import ConnectorSync.Proofs.Sync.SingleFlight

/-!
# Deletions

What a run leaves behind that ends because its connection is deleted: nothing of the connection is
running, and its jobs are over but for one that was kept open when the deletion came too late to be
seen by the generation.
-/

namespace ConnectorSync.Sync

/-! ### Nothing is given up unless a call fails -/

def Event.fails : Event → Bool
  | .told (.call _) (.error _) => true
  | _ => false

def Station.Proceeds : Station → Prop
  | releasing _ _ _ (.error _) | recovering .. | timingRecovery .. | failingAttempt ..
  | failingJob .. => False
  | _ => True

def Spot.Proceeds : Spot → Prop
  | .at s => s.Proceeds
  | .between _ | .stopped => True

namespace Station

variable {m : Manager} {input : RunInput} {budget : Option RetryBudget} {context : AttemptContext}

theorem cleaning_proceeds (jobs : List JobId) : (cleaning m input jobs).Proceeds := by
  cases jobs <;> exact trivial

theorem leaving_proceeds (last : Bool) : (leaving last input).Proceeds := by
  cases last <;> exact trivial

theorem cancelling_proceeds (failures : List FailureReason) (partialSuccess : Option Bool)
    (last : Bool) : (cancelling input failures partialSuccess last).Proceeds := by
  unfold cancelling
  split
  · exact leaving_proceeds last
  · exact trivial

theorem checkingSides_proceeds (sides : List Side) :
    (checkingSides input budget context sides).Proceeds := by
  cases sides <;> exact trivial

theorem reporting_proceeds (flags : Flags) (outcome : AttemptOutcome) :
    (reporting m input budget context flags outcome).Proceeds := by
  cases outcome with
  | succeeded output => exact trivial
  | cancelled => exact cancelling_proceeds _ _ _
  | failed failures partialSuccess =>
    unfold reporting failing
    dsimp only
    split
    · exact cancelling_proceeds _ _ _
    · split <;> exact trivial

theorem carried_proceeds (task : Task) (reply : task.call.Reply) :
    (carried m task reply).Proceeds := by
  cases task with
  | listStale | failStaleJob => exact cleaning_proceeds _
  | getStale input job jobs =>
    unfold carried failingStale
    dsimp only
    split <;> exact trivial
  | failStaleAttempt input job attempt attempts jobs now => cases attempts <;> exact trivial
  | lastFailure input budget context => exact checkingSides_proceeds _
  | succeed input budget context output => cases budget <;> exact trivial
  | failAttempt input budget job madeProgress summary => cases budget <;> exact trivial
  | _ => exact trivial

theorem next_proceeds (station : Station) (a : (station.request m).Answer)
    (h : station.Proceeds) (done : (Event.told (station.request m) a).fails = false) :
    (station.next m a).Proceeds := by
  cases station with
  | beginning input =>
    simp only [next]
    split <;> exact trivial
  | calling task left failed =>
    cases a with
    | ok reply => exact carried_proceeds task reply
    | error error => cases done
  | endingWait input =>
    obtain ⟨before, control⟩ := a
    simp only [next]
    split
    · exact cancelling_proceeds _ _ _
    split
    · exact trivial
    split
    · exact cancelling_proceeds _ _ _
    · exact trivial
  | hydratingAttempt input isReset =>
    simp only [next, opening]
    split <;> exact trivial
  | looking input budget context =>
    obtain ⟨control, _⟩ := a
    simp only [next]
    split <;> exact trivial
  | checking input budget context side sides =>
    rcases a with error | (_ | reason | _)
    · exact trivial
    · exact checkingSides_proceeds sides
    · exact trivial
    · exact trivial
  | executing input budget context => cases a <;> exact trivial
  | releasing input budget context outcome =>
    cases outcome with
    | ok outcome => exact reporting_proceeds _ outcome
    | error failure => exact h.elim
  | lookingBack last => exact leaving_proceeds last
  | recordingFailure input job summary withinLimits =>
    simp only [next]
    split <;> exact trivial
  | recovering | timingRecovery | failingAttempt | failingJob => exact h.elim
  | ending input =>
    obtain ⟨before, control⟩ := a
    simp only [next]
    split <;> exact trivial
  | _ => exact trivial

theorem calm_of_proceeds (station : Station) (a : (station.request m).Answer)
    (h : station.Proceeds) : (Event.told (station.request m) a).givesUp = false := by
  cases station with
  | recovering => exact h.elim
  | _ => rfl

end Station

/-- As long as no call has failed, no generation is or was given up. -/
theorem kept_proceeds (m : Manager) : Kept m fun spot w => (∀ e ∈ w.past, e.fails = false) →
    spot.Proceeds ∧ ∀ e ∈ w.past, e.givesUp = false where
  hear s h done := by
    obtain ⟨proceeds, quiet⟩ := h fun e mem => done e (List.mem_cons_of_mem _ mem)
    refine ⟨proceeds, fun e mem => ?_⟩
    rcases List.mem_cons.1 mem with rfl | mem
    · rfl
    · exact quiet e mem
  begin h done := ⟨trivial, (h done).2⟩
  answer {station w w'} a h answers done := by
    rw [answers.past_note] at done ⊢
    obtain ⟨proceeds, quiet⟩ := h fun e mem => done e (List.mem_cons_of_mem _ mem)
    refine ⟨station.next_proceeds a proceeds (done _ List.mem_cons_self), fun e mem => ?_⟩
    rcases List.mem_cons.1 mem with rfl | mem
    · exact station.calm_of_proceeds a proceeds
    · exact quiet e mem

theorem quiet_of_done {m : Manager} {rows : List Job} {a : Moment}
    (steps : Moment.Steps m (.first m rows) a) (done : ∀ e ∈ a.world.past, e.fails = false) :
    ∀ e ∈ a.world.past, e.givesUp = false := by
  obtain ⟨spot, -, h⟩ := (kept_proceeds m).steps steps
    ⟨_, .between _, fun _ => ⟨trivial, fun e mem => by cases mem⟩⟩
  exact (h done).2

/-! ### What is left open -/

namespace Course

theorem report_after {c : Course} {e : Event} (calm : e.givesUp = false)
    (h : c.report ≠ some .abandoned) : (c.after e).report ≠ some .abandoned := by
  unfold after
  split
  · exact h
  · exact h
  · exact h
  · exact h
  · exact nofun
  · split
    · exact nofun
    · exact h
  · exact nofun
  · exact nofun
  · split
    · exact nofun
    · exact h
  · cases calm
  · split
    · exact h
    · exact nofun
  · exact h

theorem report_of_quiet {past : List Event} (quiet : ∀ e ∈ past, e.givesUp = false) :
    (course past).report ≠ some .abandoned := by
  induction past with
  | nil => exact nofun
  | cons e past ih =>
    exact report_after (quiet e List.mem_cons_self)
      (ih fun e mem => quiet e (List.mem_cons_of_mem _ mem))

/-- Nothing is left open if there was no job, or the wait was not over because of an update and no
failure was kept. -/
theorem leavesOpen_eq_none_iff {c : Course} (h : c.Ends) (na : c.report ≠ some .abandoned) :
    c.leavesOpen = none ↔
      c.job = none ∨ c.isUpdated = false ∧ c.report ≠ some .kept := by
  cases hasJob : c.job with
  | none =>
    have nothing : c.leavesOpen = none := by
      unfold leavesOpen
      split
      · exact hasJob
      · exact hasJob
      · rfl
    exact ⟨fun _ => .inl rfl, fun _ => nothing⟩
  | some id =>
    rw [← isOver_iff h ⟨id, hasJob⟩ na]
    constructor
    · intro nothing
      cases reported : c.report with
      | none => simp [leavesOpen, reported, hasJob] at nothing
      | some r =>
        cases r with
        | kept => simp [leavesOpen, reported, hasJob] at nothing
        | abandoned => exact absurd reported na
        | cancelled | succeeded | failed => simp [isOver, reported]
    · rintro (none | ended)
      · cases none
      · exact leavesOpen_of_isOver ended

end Course

/-- When the run of a deleted connection is over, in which no call failed, its last generation may
have left its job open, but no other job is. That job was left open just if the wait was over for an
update or the failure of the attempt was kept for another one. Nothing is running if the jobs that
the run began with were tidy. -/
theorem nonTerminalJobs_of_deleted {m : Manager} {rows : List Job} {a : Moment}
    (steps : Moment.Steps m (.first m rows) a) (done : ∀ e ∈ a.world.past, e.fails = false)
    (stopped : a.rest = .done none) :
    a.world.jobs.nonTerminalJobs m.connectionId = (course a.world.past).leavesOpen.toList ∧
      (a.world.jobs.nonTerminalJobs m.connectionId = [] ↔ (course a.world.past).job = none ∨
        (course a.world.past).isUpdated = false ∧ (course a.world.past).report ≠ some .kept) ∧
      ((∀ row ∈ rows, row.connectionId = m.connectionId → row.Tidy) →
        a.world.jobs.flights m.connectionId = []) := by
  have quiet := quiet_of_done steps done
  obtain ⟨spot, follows, fits, flies⟩ := flies_of_steps steps
  rw [stopped] at follows
  cases follows with
  | stopped =>
    have aloft := flies.stands quiet
    have jobs := aloft.nonTerminalJobs flies.ordered
    refine ⟨jobs, ?_, fun tidy => ?_⟩
    · rw [jobs, ← Course.leavesOpen_eq_none_iff fits (Course.report_of_quiet quiet)]
      exact Option.toList_eq_nil_iff
    · rw [aloft.flights flies.ordered tidy]
      simp

/-- The first attempt of a job has failed; the connection is deleted before the failure is
recorded. -/
def Moment.lateDelete : Moment :=
  .replay .sample [.serve (.failed [] false) 17, .hear .delete, .serve (.failed [] false) 4]

theorem lateDelete_steps : Moment.Steps .sample (.first .sample []) .lateDelete :=
  Moment.steps_replay .sample _ _

theorem lateDelete_stops : Moment.lateDelete.rest = .done none :=
  Moment.rest_of_isStopped (by decide +kernel)

theorem lateDelete_done : ∀ e ∈ Moment.lateDelete.world.past, e.fails = false := by
  decide +kernel

theorem nonTerminalJobs_of_lateDelete :
    Moment.lateDelete.world.jobs.nonTerminalJobs Manager.sample.connectionId = [1] ∧
      Moment.lateDelete.world.jobs.flights Manager.sample.connectionId = [] := by
  obtain ⟨jobs, -, landed⟩ :=
    nonTerminalJobs_of_deleted lateDelete_steps lateDelete_done lateDelete_stops
  have kept : (course Moment.lateDelete.world.past).leavesOpen = some 1 := by decide +kernel
  rw [kept] at jobs
  exact ⟨jobs, landed nofun⟩

/-- A connection is deleted and its run is over, and although no call failed a job is open. -/
theorem job_left_open : ∃ (m : Manager) (a : Moment) (id : JobId) (row : Job), a.Reachable m ∧
    (∀ e ∈ a.world.past, e.fails = false) ∧ a.world.control.flags.deleted = true ∧
    a.rest = .done none ∧ a.world.jobs.find? id = some row ∧
    row.connectionId = m.connectionId ∧ row.status.isTerminal = false := by
  have found : (Moment.lateDelete.world.jobs.find? 1).map
      (fun row => (row.connectionId, row.status.isTerminal)) = some (Uuid.zero, false) := by
    decide +kernel
  obtain ⟨row, there, same⟩ := Option.map_eq_some_iff.1 found
  obtain ⟨own, isOpen⟩ := Prod.mk.inj same
  exact ⟨.sample, .lateDelete, 1, row, ⟨[], lateDelete_steps⟩, lateDelete_done, by decide +kernel,
    lateDelete_stops, there, own, isOpen⟩

end ConnectorSync.Sync
