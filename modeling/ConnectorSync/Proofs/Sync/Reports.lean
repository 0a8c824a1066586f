import ConnectorSync.Proofs.Sync.Leftovers

/-!
# Reports

A job is reported to be over at most once in a run in which no generation is given up, and once that
is done nothing more is asked about it: no call is made that would write its row.
-/

namespace ConnectorSync.Sync

/-- Whether an event tells that a job was reported to be over. -/
def Event.reports (k : JobId) : Event → Bool
  | .told (.call c) (.ok _) => c.closes && c.target = some k
  | _ => false

/-- Whether an event answers a call, carried out or not, that is to write the row of a job. -/
def Event.concerns (k : JobId) : Event → Bool
  | .told (.call c) _ => c.target = some k
  | _ => false

theorem Event.concerns_of_reports {k : JobId} {e : Event} (h : e.reports k) : e.concerns k := by
  unfold reports at h
  split at h
  · exact (Bool.and_eq_true_iff.1 h).2
  · cases h

/-! ### What is known of the jobs reported to be over -/

structure World.Closed (w : World) : Prop where
  shut : ∀ {k} {e : Event}, e ∈ w.past → e.reports k →
    ∃ row, w.jobs.find? k = some row ∧ row.status.isTerminal
  last : ∀ k, w.past.Pairwise fun later earlier => earlier.reports k → later.concerns k = false

section Closed

variable {m : Manager} {w w' : World}

theorem World.Closed.cons {e : Event} (h : w.Closed) (past : w'.past = e :: w.past)
    (jobs : w'.jobs = w.jobs) (silent : ∀ k, e.concerns k = false) : w'.Closed := by
  refine ⟨fun {k e'} mem reports => ?_, fun k => ?_⟩
  · rw [past] at mem
    rw [jobs]
    rcases List.mem_cons.1 mem with rfl | mem
    · have concerns := Event.concerns_of_reports reports
      rw [silent k] at concerns
      cases concerns
    · exact h.shut mem reports
  · rw [past]
    exact List.pairwise_cons.2 ⟨fun _ _ _ => silent k, h.last k⟩

theorem World.Closed.not_reports {k : JobId} {e : Event} (h : w.Closed)
    (isOpen : ∃ row, w.jobs.find? k = some row ∧ row.status.isTerminal = false)
    (mem : e ∈ w.past) : e.reports k = false := by
  by_contra reports
  obtain ⟨row, found, isOpen⟩ := isOpen
  obtain ⟨row', found', ended⟩ := h.shut mem (Bool.not_eq_false _ ▸ reports)
  rw [found] at found'
  cases found'
  rw [isOpen] at ended
  cases ended

theorem closed_told {r : Request} {a : r.Answer} (h : w.Closed) (numbered : w.jobs.Numbered)
    (isOpen : ∀ {call k}, r = .call call → call.target = some k →
      ∃ row, w.jobs.find? k = some row ∧ row.status.isTerminal = false)
    (answers : w.Answers m.connectionId r a w') : (w'.note r a).Closed := by
  have past : (w'.note r a).past = .told r a :: w.past := answers.past_note
  have last (k : JobId) : (w'.note r a).past.Pairwise
      fun later earlier => earlier.reports k → later.concerns k = false := by
    rw [past]
    refine List.pairwise_cons.2 ⟨fun e mem reports => ?_, h.last k⟩
    cases r with
    | call call =>
      show decide (call.target = some k) = false
      rw [decide_eq_false_iff_not]
      intro target
      rw [h.not_reports (isOpen rfl target) mem] at reports
      cases reports
    | _ => rfl
  refine ⟨fun {k e} mem reports => ?_, last⟩
  rw [past] at mem
  cases answers with
  | carried call reply jobs effect =>
    show ∃ row, jobs.find? k = some row ∧ _
    rcases List.mem_cons.1 mem with rfl | mem
    · obtain ⟨closes, target⟩ := Bool.and_eq_true_iff.1 reports
      obtain ⟨_, row, -, found, -, status⟩ := (effect.changes (of_decide_eq_true target)).found
      refine ⟨row, found, ?_⟩
      rw [status]
      exact Call.isTerminal_of_closes closes _
    · obtain ⟨row, found, ended⟩ := h.shut mem reports
      refine ⟨row, effect.keeps numbered found fun target => ?_, ended⟩
      rw [h.not_reports (isOpen rfl target) mem] at reports
      cases reports
  | _ =>
    rcases List.mem_cons.1 mem with rfl | mem
    · cases reports
    · exact h.shut mem reports

theorem kept_closed (m : Manager) : Kept m fun spot w =>
    ((spot.Fits (course w.past) ∧ w.Sorted) ∧ w.Lists m.connectionId spot) ∧
      ((∀ e ∈ w.past, e.givesUp = false) → w.Closed) :=
  (kept_lists m).and
    (fun _ h quiet => (h fun e mem => quiet e (List.mem_cons_of_mem _ mem)).cons rfl rfl
      fun _ => rfl)
    (fun h => h)
    fun {station _ _} a ⟨⟨fits, sorted⟩, lists⟩ h answers quiet => by
      rw [answers.past_note] at quiet
      have before (e : Event) (mem : e ∈ _) := quiet e (List.mem_cons_of_mem _ mem)
      exact closed_told (h before) sorted.numbered
        (fun same target => open_of_target fits sorted lists same target
          (Course.report_of_quiet before)) answers

end Closed

/-- Of two reports the later one would ask about a job that is over. -/
theorem countP_reports {k : JobId} {past : List Event}
    (last : past.Pairwise fun later earlier => earlier.reports k → later.concerns k = false) :
    past.countP (·.reports k) ≤ 1 := by
  induction past with
  | nil => exact Nat.zero_le _
  | cons e past ih =>
    obtain ⟨first, last⟩ := List.pairwise_cons.1 last
    by_cases reports : e.reports k
    · have none : past.countP (·.reports k) = 0 := by
        refine List.countP_eq_zero.2 fun earlier mem reports' => ?_
        have concerns := first earlier mem reports'
        rw [Event.concerns_of_reports reports] at concerns
        cases concerns
      exact Nat.le_of_eq (by rw [List.countP_cons_of_pos reports, none])
    · rw [List.countP_cons_of_neg reports]
      exact ih last

/-! ### Runs -/

variable {m : Manager} {a : Moment} {rows : List Job}

/-- In a run in which no generation was given up so far, a job was reported to be over at most once,
nothing was asked about it after that, and nothing is being asked about it. -/
theorem reported_once (steps : Moment.Steps m (.first m rows) a)
    (quiet : ∀ e ∈ a.world.past, e.givesUp = false) (k : JobId) :
    a.world.past.countP (·.reports k) ≤ 1 ∧
      (a.world.past.Pairwise fun later earlier => earlier.reports k → later.concerns k = false) ∧
      ∀ call, a.Asks (.call call) → call.target = some k →
        ∀ e ∈ a.world.past, e.reports k = false := by
  have has := (kept_closed m).steps steps ⟨_, .between _,
    ⟨⟨⟨⟨rfl, rfl, rfl⟩, rfl, rfl, rfl, rfl⟩, sorted_first m rows⟩, lists_first m rows⟩,
    fun _ => ⟨nofun, fun _ => .nil⟩⟩
  have last : a.world.past.Pairwise
      fun later earlier => earlier.reports k → later.concerns k = false := by
    obtain ⟨spot, -, -, closed⟩ := has
    exact (closed quiet).last k
  refine ⟨countP_reports last, last, fun call asks target e mem => ?_⟩
  · obtain ⟨station, request, ⟨⟨fits, sorted⟩, lists⟩, closed⟩ := has.station asks
    exact (closed quiet).not_reports
      (open_of_target fits sorted lists request target (Course.report_of_quiet quiet)) mem

/-- A job that was left open from before has been failed, and the one after it is attempted for the
second time. -/
theorem reported_once_of_secondAttempt :
    Moment.secondAttempt.world.past.countP (·.reports 7) = 1 ∧
      (Moment.secondAttempt.world.past.Pairwise
        fun later earlier => earlier.reports 7 → later.concerns 7 = false) ∧
      ∀ call, Moment.secondAttempt.Asks (.call call) → call.target = some 7 →
        ∀ e ∈ Moment.secondAttempt.world.past, e.reports 7 = false := by
  have steps : Moment.Steps .sample (.first .sample [.leftover]) .secondAttempt :=
    Moment.steps_replay .sample _ _
  obtain ⟨-, rest⟩ := reported_once steps (by decide +kernel) 7
  exact ⟨by decide +kernel, rest⟩

end ConnectorSync.Sync
