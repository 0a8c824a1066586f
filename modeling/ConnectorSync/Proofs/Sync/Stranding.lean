import ConnectorSync.Proofs.Sync.Finality

/-!
# Stranded attempts

An attempt that is running although its job is over stays so for good, since only open jobs are
looked for. It comes about in one way: a new start fails a job without having failed the attempt in
flight of it.
-/

namespace ConnectorSync.Sync

/-- The attempts that an event leaves running in a job that it reports to be over. -/
def Event.strands (past : List Event) : Event → List (JobId × Nat)
  | .told (.call (.failJob job _)) (.ok _) =>
    if (course past).report = some .abandoned then (flight past).toList.filter (·.1 = job) else []
  | _ => []

/-- The attempts that were in flight when a new start failed their jobs. -/
def stranded : List Event → List (JobId × Nat)
  | [] => []
  | e :: past => e.strands past ++ stranded past

def JobStore.Strands (id : Uuid) (s : JobStore) (k : JobId) (n : Nat) : Prop :=
  ∃ row, s.find? k = some row ∧ row.connectionId = id ∧ row.status.isTerminal ∧
    n ∈ row.runningAttempts

/-! ### Steps -/

section Call

variable {m : Manager} {station : Station} {w : World} {call : Call} {reply : call.Reply}
  {jobs : JobStore} {k : JobId} {n : Nat} {row : Job}

theorem strands_of_calm (past : List Event) (calm : (course past).report ≠ some .abandoned) :
    (Event.told (.call call) (.ok reply)).strands past = [] := by
  cases call with
  | failJob job reason => exact if_neg calm
  | _ => rfl

theorem not_strands_of_target (h : w.Surveys m.connectionId station)
    (hr : station.request m = .call call) (target : call.target = some k) :
    ¬ w.jobs.Strands m.connectionId k n := by
  rintro ⟨row, found, own, ended, runs⟩
  have grounded (held : ∃ row, w.jobs.find? k = some row ∧
      row.Traced m.connectionId (flight w.past)) : False := by
    obtain ⟨row', found', traced⟩ := held
    rw [found] at found'
    cases found'
    obtain ⟨row', found', -, isOpen, -⟩ := h.aloft _ _ ((traced.running n).1 runs)
    rw [JobStore.id_of_find? found, found] at found'
    cases found'
    rw [isOpen] at ended
    cases ended
  by_cases abandoned : (course w.past).report = some .abandoned
  · rcases Station.of_abandoned h.fits abandoned hr target with
      ⟨input, failure, now, rfl⟩ | ⟨failure, rfl⟩
    · obtain ⟨row, found, held⟩ := h.knows
      exact grounded ⟨row, found, held.toTraced⟩
    · exact grounded h.knows
  · obtain ⟨row', found', isOpen⟩ := h.isOpen hr target abandoned
    rw [found] at found'
    cases found'
    rw [isOpen] at ended
    cases ended

/-- In a generation that is not given up, a call that ends a job leaves nothing of it running. -/
theorem landed_of_calm (h : w.Surveys m.connectionId station)
    (hr : station.request m = .call call) (target : call.target = some k)
    (calm : (course w.past).report ≠ some .abandoned) (found : w.jobs.find? k = some row)
    (closes : call.closes) : (call.revise row).runningAttempts = [] := by
  have stands := h.steady calm
  have knows := h.knows
  cases station with
  | calling task left failed =>
    cases hr
    cases task with
    | failStaleJob input job jobs =>
      cases target
      exact knows row found
    | succeed input budget context output =>
      cases target
      exact (stands.aloft.flies found).jobSuccess
    | cancelJob input job summary last =>
      cases target
      obtain ⟨flying, own, aloft⟩ := stands
      exact (aloft.flies found).jobCancelled own
    | failJob input job reason =>
      cases target
      exact (stands.flies found).running
    | createAttempt | startJob | failStaleAttempt | failAttempt => cases closes
    | listStale | getStale | untilNextRun | createJob | lastFailure | autoDisable => cases target
  | failingAttempt | failingJob => exact stands.elim
  | hydrating | hydratingAttempt | persistingSuccess | checkingProgress | persistingFailure
  | askingMost =>
    cases hr
    cases target
  | _ => cases hr

theorem closes_of_calm (h : w.Surveys m.connectionId station)
    (hr : station.request m = .call call) (target : call.target = some k)
    (calm : (course w.past).report ≠ some .abandoned) (found : w.jobs.find? k = some row)
    (ended : (call.leaves row.status).isTerminal) : call.closes := by
  obtain ⟨row', found', isOpen⟩ := h.isOpen hr target calm
  rw [found] at found'
  cases found'
  cases call with
  | createAttempt job =>
    rw [show (Call.createAttempt job).leaves row.status = row.status from rfl, isOpen] at ended
    cases ended
  | reportJobStart job => cases ended
  | failAttempt job n status summary =>
    rcases Station.status_of_failAttempt hr with rfl | rfl <;> cases ended
  | jobSuccess | jobCancelled | failJob => rfl
  | _ => cases target

theorem target_of_mem_strands {past : List Event}
    (mem : (k, n) ∈ (Event.told (.call call) (.ok reply)).strands past) :
    call.target = some k := by
  cases call with
  | failJob job reason =>
    unfold Event.strands at mem
    dsimp only at mem
    split at mem
    · exact congrArg some (of_decide_eq_true (List.mem_filter.1 mem).2).symm
    · cases mem
  | _ => cases mem

/-- An attempt is stranded by the event that leaves it running in a job that is over. -/
theorem strands_carried (h : w.Surveys m.connectionId station)
    (hr : station.request m = .call call)
    (effect : call.Effect m.connectionId w.jobs reply jobs) :
    jobs.Strands m.connectionId k n ↔
      (k, n) ∈ (Event.told (.call call) (.ok reply)).strands w.past ∨
        w.jobs.Strands m.connectionId k n := by
  by_cases target : call.target = some k
  · rw [or_iff_left (not_strands_of_target h hr target)]
    obtain ⟨row, found, written⟩ := (effect.revises target).found
    by_cases abandoned : (course w.past).report = some .abandoned
    · rcases Station.of_abandoned h.fits abandoned hr target with
        ⟨input, failure, now, rfl⟩ | ⟨failure, rfl⟩
      · cases hr
        refine iff_of_false ?_ List.not_mem_nil
        rintro ⟨row', found', -, ended, -⟩
        rw [written] at found'
        cases found'
        cases ended
      · cases hr
        obtain ⟨row', found', traced⟩ := h.knows
        rw [found] at found'
        cases found'
        obtain rfl := JobStore.id_of_find? found
        simp only [Event.strands, if_pos abandoned, List.mem_filter, Option.mem_toList,
          decide_true, and_true]
        rw [← traced.running]
        constructor
        · rintro ⟨row', found', -, -, runs⟩
          rw [written] at found'
          cases found'
          exact runs
        · exact fun runs => ⟨_, written, traced.connection, rfl, runs⟩
    · rw [strands_of_calm _ abandoned]
      refine iff_of_false ?_ List.not_mem_nil
      rintro ⟨row', found', -, ended, runs⟩
      rw [written] at found'
      cases found'
      rw [Call.revise_status] at ended
      rw [landed_of_calm h hr target abandoned found
        (closes_of_calm h hr target abandoned found ended)] at runs
      cases runs
  · rw [or_iff_right fun mem => target (target_of_mem_strands mem)]
    constructor
    · rintro ⟨row, found, own, ended, runs⟩
      rcases effect.row found with ⟨here, -⟩ | ⟨-, before⟩ | ⟨-, isReset, now, rfl⟩
      · exact absurd here target
      · exact ⟨row, before, own, ended, runs⟩
      · cases ended
    · rintro ⟨row, found, rest⟩
      exact ⟨row, effect.keeps h.sorted.numbered found target, rest⟩

end Call

theorem strands_answer {m : Manager} {station : Station} {w w' : World} {r : Request}
    {a : r.Answer} (h : w.Surveys m.connectionId station) (hr : station.request m = r)
    (answers : w.Answers m.connectionId r a w') (k : JobId) (n : Nat) :
    w'.jobs.Strands m.connectionId k n ↔
      (k, n) ∈ (Event.told r a).strands w.past ∨ w.jobs.Strands m.connectionId k n := by
  cases answers with
  | carried call reply jobs effect => exact strands_carried h hr effect
  | failed call e =>
    refine (or_iff_right ?_).symm
    cases call <;> exact List.not_mem_nil
  | _ => exact (or_iff_right List.not_mem_nil).symm

/-! ### Runs -/

theorem kept_stranded (m : Manager) : Kept m fun spot w =>
    w.Surveys m.connectionId spot ∧
      ∀ k n, w.jobs.Strands m.connectionId k n ↔ (k, n) ∈ stranded w.past :=
  (kept_surveys m).and (fun _ h => h) (fun h => h)
    fun {station w w'} a surveys h answers k n => by
      rw [answers.past_note, stranded, List.mem_append, ← h k n]
      exact strands_answer surveys rfl answers k n

theorem strands_of_steps {m : Manager} {a : Moment} {rows : List Job}
    (steps : Moment.Steps m (.first m rows) a)
    (tidy : ∀ row ∈ rows, row.connectionId = m.connectionId → row.Tidy) (k : JobId) (n : Nat) :
    a.world.jobs.Strands m.connectionId k n ↔ (k, n) ∈ stranded a.world.past := by
  have surveys := surveys_first m fun row mem own => (tidy row mem own).distinct
  have none (k : JobId) (n : Nat) :
      (Moment.first m rows).world.jobs.Strands m.connectionId k n ↔ (k, n) ∈ stranded [] := by
    refine iff_of_false ?_ List.not_mem_nil
    rintro ⟨row, found, own, ended, runs⟩
    rcases JobStore.row_of_foldl_insert found with mem | found
    · rw [(tidy row mem own).landed ended] at runs
      cases runs
    · cases found
  obtain ⟨-, -, -, strands⟩ := (kept_stranded m).steps steps ⟨_, .between _, surveys, none⟩
  exact strands k n

variable {m : Manager} {a : Moment} {rows : List Job}

/-- In a run that began with tidy jobs, whatever fails in it, an attempt of a job that is over is
running just if it was stranded. So there is no such attempt just if none was in flight when a new
start failed its job. -/
theorem landed_iff (steps : Moment.Steps m (.first m rows) a)
    (tidy : ∀ row ∈ rows, row.connectionId = m.connectionId → row.Tidy) :
    (∀ k n, (k, n) ∈ stranded a.world.past ↔ ∃ row, a.world.jobs.find? k = some row ∧
      row.connectionId = m.connectionId ∧ row.status.isTerminal ∧ n ∈ row.runningAttempts) ∧
    ((∀ k row, a.world.jobs.find? k = some row → row.connectionId = m.connectionId →
      row.status.isTerminal → row.runningAttempts = []) ↔ stranded a.world.past = []) := by
  have strands := strands_of_steps steps tidy
  refine ⟨fun k n => (strands k n).symm, fun landed => ?_, fun never k row found own ended => ?_⟩
  · refine List.eq_nil_iff_forall_not_mem.2 fun (k, n) mem => ?_
    obtain ⟨row, found, own, ended, runs⟩ := (strands k n).2 mem
    rw [landed k row found own ended] at runs
    cases runs
  · refine List.eq_nil_iff_forall_not_mem.2 fun n runs => ?_
    have mem := (strands k n).1 ⟨row, found, own, ended, runs⟩
    rw [never] at mem
    cases mem

theorem landed_of_unrecorded : stranded Moment.unrecorded.world.past = [] ∧
    ∀ k row, Moment.unrecorded.world.jobs.find? k = some row →
      row.connectionId = Manager.hasty.connectionId → row.status.isTerminal →
      row.runningAttempts = [] := by
  have never : stranded Moment.unrecorded.world.past = [] := by decide +kernel
  refine ⟨never, (landed_iff unrecorded_steps fun row mem _ => ?_).2.2 never⟩
  obtain rfl := List.mem_singleton.1 mem
  exact ⟨by decide, by decide⟩

/-- The success of an attempt could not be reported. -/
def Moment.unreported : Moment :=
  (replay .hasty [.serve (.succeeded ⟨0, none⟩) 16]).refuse

/-- After that its attempt could not be failed, but its job was. -/
def Moment.deserted : Moment :=
  .serve .hasty .cancelled 2 (serve .hasty .cancelled 2 .unreported).refuse

theorem deserted_steps : Moment.Steps .hasty (.first .hasty []) .deserted := by
  have unreported : Moment.Steps .hasty (.first .hasty []) .unreported :=
    (Moment.steps_replay .hasty [_] _).trans (Moment.steps_refuse .hasty _)
  have served := unreported.trans (Moment.steps_serve .hasty .cancelled 2 _)
  exact (served.trans (Moment.steps_refuse .hasty _)).trans (Moment.steps_serve .hasty _ 2 _)

/-- The next generation is about to begin, and an attempt of a job that is over is running, although
there was no job when the run began. -/
theorem attempt_left_running : ∃ (m : Manager) (a : Moment) (input : RunInput) (k : JobId)
    (row : Job), Moment.Steps m (.first m []) a ∧ a.rest = .done (some input) ∧
      a.world.jobs.find? k = some row ∧ row.connectionId = m.connectionId ∧
      row.status.isTerminal ∧ row.runningAttempts = [1] := by
  obtain ⟨input, between⟩ := Moment.rest_of_isBetween (a := .deserted) (by decide +kernel)
  have found : (Moment.deserted.world.jobs.find? 1).map
      (fun row => (row.connectionId, row.status.isTerminal, row.runningAttempts)) =
        some (Uuid.zero, true, [1]) := by
    decide +kernel
  obtain ⟨row, there, same⟩ := Option.map_eq_some_iff.1 found
  simp only [Prod.mk.injEq] at same
  exact ⟨.hasty, .deserted, input, 1, row, deserted_steps, between, there, same⟩

end ConnectorSync.Sync
