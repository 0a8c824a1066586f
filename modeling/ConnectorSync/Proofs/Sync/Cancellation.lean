import ConnectorSync.Proofs.Sync.Control
import ConnectorSync.Proofs.Sync.Fitting
import ConnectorSync.Proofs.Sync.Replay

/-!
# Cancellations

A cancellation that is accepted ends the job of its generation, unless an update was noticed first
at the end of the wait, or it came after the attempt and the failure of that is kept for another
one. A job that has ended is not attempted again.
-/

namespace ConnectorSync.Sync

/-! ### Jobs that are over -/

namespace Course

def Matches (c : Course) (jobs : JobStore) : Prop :=
  ∀ id, c.job = some id → c.report ≠ some .abandoned →
    ∃ row, jobs.find? id = some row ∧ row.status.isTerminal = c.isOver

variable {c c' : Course} {jobs jobs' : JobStore}

theorem matches_of_none (h : c.job = none) : c.Matches jobs := by
  intro id hid
  cases h.symm.trans hid

theorem matches_of_abandoned (h : c.report = some .abandoned) : c.Matches jobs :=
  fun _ _ hr => absurd h hr

theorem Matches.same (h : c.Matches jobs) (hj : c'.job = c.job) (ho : c'.isOver = c.isOver)
    (hr : c.report = some .abandoned → c'.report = some .abandoned) : c'.Matches jobs := by
  intro id hid hna
  obtain ⟨row, found, same⟩ := h id (hj ▸ hid) fun ha => hna (hr ha)
  exact ⟨row, found, same.trans ho.symm⟩

theorem Matches.change {id : JobId} {status : JobStatus → JobStatus} (h : c.Matches jobs)
    (hj : c.job = some id) (hr : c.report ≠ some .abandoned) (hc : jobs.Changes id status jobs')
    (c' : Course) (hj' : c'.job = c.job)
    (hs : ∀ old : JobStatus, old.isTerminal = c.isOver → (status old).isTerminal = c'.isOver) :
    c'.Matches jobs' := by
  intro k hk _
  obtain rfl : id = k := Option.some.inj (hj.symm.trans (hj'.symm.trans hk))
  obtain ⟨row, found, same⟩ := h id hj hr
  obtain ⟨old, new, found', there, -, set⟩ := hc.found
  obtain rfl := Option.some.inj (found'.symm.trans found)
  exact ⟨new, there, (congrArg JobStatus.isTerminal set).trans (hs _ same)⟩

end Course

/-- What is known of the jobs at every step. -/
structure World.Sorted (w : World) : Prop where
  numbered : w.jobs.Numbered
  matched : (course w.past).Matches w.jobs

theorem sorted_carried {m : Manager} {s : Station} {w : World} {call : Call} {reply : call.Reply}
    {jobs : JobStore} (hr : s.request m = .call call) (hf : s.Fits (course w.past))
    (hw : w.Sorted) (effect : call.Effect m.connectionId w.jobs reply jobs) :
    ((course w.past).after (.told (.call call) (.ok reply))).Matches jobs := by
  obtain ⟨numbered, matched⟩ := hw
  cases ht : call.target with
  | some job =>
    have changes := effect.changes ht
    rcases Station.fits_target hf hr ht with ⟨hj, ho, hna⟩ | ⟨hfree, hcall⟩
    · have change := matched.change hj hna changes
      cases call with
      | createAttempt id => exact change _ rfl fun _ h => h
      | reportJobStart id => exact change _ rfl fun _ _ => ho.symm
      | failAttempt id attempt status summary =>
        exact change _ rfl fun _ _ => (Station.fits_failAttempt hf hr).trans ho.symm
      | jobSuccess id attempt output => exact change _ rfl fun _ _ => rfl
      | jobCancelled id attempt summary => exact change _ rfl fun _ _ => rfl
      | failJob id reason =>
        have kept : (course w.past).report = some .kept := by
          rcases Station.fits_failJob hf hr with h | h | h
          · exact absurd h hna
          · cases h.symm.trans hj
          · exact h
        simp only [Course.after, kept]
        exact change _ rfl fun _ _ => rfl
      | _ => cases ht
    · rcases hcall with ⟨attempt, status, summary, rfl⟩ | ⟨reason, rfl⟩
      · exact hfree.elim Course.matches_of_none Course.matches_of_abandoned
      rcases hfree with hn | ha
      · unfold Course.after
        dsimp only
        split <;> exact Course.matches_of_none hn
      · simp only [Course.after, ha]
        exact Course.matches_of_abandoned ha
  | none =>
    cases call with
    | createJob isReset =>
      obtain ⟨-, -, hn⟩ := Station.fits_createJob hf hr
      obtain ⟨-, -, row, -, pending, rows⟩ := effect.created
      intro id hid _
      cases hid
      refine ⟨row, by rw [rows, if_pos rfl], ?_⟩
      show row.status.isTerminal = (course w.past).isOver
      simp only [pending, Course.isOver, hn]
      rfl
    | createAttempt | reportJobStart | failAttempt | failJob | jobSuccess | jobCancelled => cases ht
    | _ =>
      rw [effect.same ht fun _ created => by cases created]
      exact matched

theorem sorted_answer {m : Manager} {s : Station} {r : Request} {w w' : World} {a : r.Answer}
    (hr : s.request m = r) (hf : s.Fits (course w.past)) (hw : w.Sorted)
    (h : w.Answers m.connectionId r a w') : (w'.note r a).Sorted := by
  have numbered := hw.numbered
  have matched := hw.matched
  cases h with
  | carried call reply jobs effect =>
    exact ⟨effect.numbered numbered, sorted_carried (w := w) hr hf hw effect⟩
  | failed call e =>
    refine ⟨numbered, ?_⟩
    show ((course w.past).after _).Matches w.jobs
    rw [Course.after_failed]
    exact matched
  | entered sec =>
    refine ⟨numbered, ?_⟩
    show ((course w.past).after _).Matches w.jobs
    cases sec with
    | look =>
      unfold Course.after
      dsimp only
      split
      · next hc => exact matched.same rfl (by simp only [Course.isOver, hc]) fun h => by simp_all
      · exact matched
    | recordFailure =>
      have hn := Station.fits_recordFailure hf hr
      exact matched.same rfl (by simp only [Course.isOver, hn, Course.after]) fun h => by simp_all
    | endGeneration =>
      unfold Course.after
      dsimp only
      split
      · exact matched
      · intro id hid _
        obtain ⟨hj, hr⟩ := Course.of_leavesOpen hid
        obtain ⟨row, found, same⟩ := matched id hj (by rcases hr with hr | hr <;> simp [hr])
        refine ⟨row, found, same.trans ?_⟩
        rcases hr with hr | hr <;> simp only [Course.isOver, hr]
    | _ => exact matched.same rfl rfl id
  | waited span purpose =>
    cases purpose with
    | schedule => exact ⟨numbered, matched⟩
    | recovery => exact ⟨numbered, Course.matches_of_abandoned rfl⟩
  | _ => exact ⟨numbered, matched⟩

/-! ### Cancellations that are accepted -/

/-- Whether an event ends a generation after which there is another one. -/
def Event.endsGeneration : Event → Bool
  | .told (.enter .endGeneration) (before, _) => !before.flags.deleted
  | _ => false

/-- A cancellation was accepted in the generation in progress, with what has happened since and
before. -/
def CancelAccepted (past since before : List Event) : Prop :=
  ∃ found : Control, past = since ++ .heard .cancel found :: before ∧ found.flags.running = true ∧
    ∀ e ∈ since, e.endsGeneration = false

theorem cancelAccepted_cons {e : Event} {past since before : List Event}
    (h : CancelAccepted (e :: past) since before) :
    (since = [] ∧ before = past ∧ ∃ found : Control, e = .heard .cancel found ∧
        found.flags.running = true) ∨
      (e.endsGeneration = false ∧ ∃ since', since = e :: since' ∧
        CancelAccepted past since' before) := by
  obtain ⟨found, split, running, quiet⟩ := h
  cases since with
  | nil =>
    cases split
    exact .inl ⟨rfl, rfl, found, rfl, running⟩
  | cons e' since =>
    cases split
    refine .inr ⟨quiet e (List.mem_cons_self ..), since, rfl, found, rfl, running, fun e he => ?_⟩
    exact quiet e (List.mem_cons_of_mem _ he)

def Course.HasJob (c : Course) : Prop := c.job.isSome ∨ c.isDue

def Course.IsCancelled (c : Course) (flags : Flags) : Prop :=
  match c.released with
  | none => flags.cancelled = true
  | some f => f.cancelled = true

structure World.Heeds (w : World) : Prop where
  running : w.control.flags.running = true → (course w.past).HasJob
  accepted : ∀ {since before}, CancelAccepted w.past since before →
    (course w.past).HasJob ∧ ((course before).released = none →
      (course w.past).IsCancelled w.control.flags)

theorem Course.IsCancelled.of_flags {c : Course} {flags flags' : Flags} (h : c.IsCancelled flags)
    (hf : flags.cancelled = true → flags'.cancelled = true) : c.IsCancelled flags' := by
  unfold IsCancelled at h ⊢
  split
  · next hr =>
    rw [hr] at h
    exact hf h
  · next f hr =>
    rw [hr] at h
    exact h

theorem heeds_hear {w : World} (s : Signal) (hw : w.Heeds) : (w.hear s).Heeds := by
  have heard := w.control.hears_signal s
  refine ⟨fun hr => hw.running (heard.running.symm.trans hr), fun h => ?_⟩
  rcases cancelAccepted_cons h with ⟨-, rfl, found, he, running⟩ | ⟨-, since', -, h⟩
  · cases he
    refine ⟨hw.running running, fun hn => ?_⟩
    show Course.IsCancelled (course w.past) _
    unfold Course.IsCancelled
    rw [hn]
    simp [World.hear, Control.signal, Control.cancelAttempt, running]
  · obtain ⟨hasJob, cancelled⟩ := hw.accepted h
    exact ⟨hasJob, fun hn => (cancelled hn).of_flags heard.cancelled⟩

theorem World.Heeds.note {w w' : World} {r : Request} {a : r.Answer} (hw : w.Heeds)
    (hp : w'.past = w.past)
    (hr : w'.control.flags.running = true → ((course w.past).after (.told r a)).HasJob)
    (hj : (course w.past).HasJob → ((course w.past).after (.told r a)).HasJob)
    (hc : (course w.past).IsCancelled w.control.flags →
      ((course w.past).after (.told r a)).IsCancelled w'.control.flags) : (w'.note r a).Heeds := by
  have past : (w'.note r a).past = .told r a :: w.past := by rw [World.note, hp]
  refine ⟨fun h => ?_, fun h => ?_⟩
  · rw [past]
    exact hr h
  · rw [past] at h ⊢
    rcases cancelAccepted_cons h with ⟨-, -, found, he, -⟩ | ⟨-, since', -, h⟩
    · cases he
    · obtain ⟨hasJob, cancelled⟩ := hw.accepted h
      exact ⟨hj hasJob, fun hn => hc (cancelled hn)⟩

theorem heeds_answer {m : Manager} {s : Station} {r : Request} {w w' : World} {a : r.Answer}
    (hr : s.request m = r) (hf : s.Fits (course w.past)) (hw : w.Heeds)
    (h : w.Answers m.connectionId r a w') : (w'.note r a).Heeds := by
  cases h with
  | carried call reply jobs effect =>
    cases call with
    | createJob isReset => exact hw.note rfl (fun _ => .inl rfl) (fun _ => .inl rfl) id
    | failJob job reason =>
      obtain ⟨report, he⟩ := (course w.past).after_failJob job reason
      refine hw.note rfl ?_ ?_ ?_ <;> rw [he]
      · exact hw.running
      · exact id
      · exact id
    | _ => exact hw.note rfl hw.running id id
  | failed call e =>
    refine hw.note rfl ?_ ?_ ?_ <;> rw [Course.after_failed]
    · exact hw.running
    · exact id
    · exact id
  | entered sec =>
    cases sec with
    | beginGeneration jobOpen skipWait =>
      have hj := Station.fits_beginGeneration hf hr
      exact hw.note rfl (fun h => .inl (hj.symm.trans h)) id id
    | endWait =>
      obtain ⟨hn, -⟩ := Station.fits_endWait hf hr
      have hasJob (h : (course w.past).HasJob) : (course w.past).job.isSome := by
        rcases h with h | h
        · exact h
        · simp [Course.isDue, hn] at h
      refine hw.note rfl (fun hr => ?_) (fun h => .inl (hasJob h)) id
      rcases (Bool.or_eq_true _ _).mp hr with h | h
      · exact .inl (hasJob (hw.running h))
      · exact .inr h
    | registerAttempt =>
      exact hw.note rfl (fun _ => .inr (Station.fits_registerAttempt hf hr)) id id
    | releaseAttempt =>
      have hn := Station.fits_releaseAttempt hf hr
      refine hw.note rfl hw.running id fun hc => ?_
      unfold Course.IsCancelled at hc
      rw [hn] at hc
      exact hc
    | look =>
      obtain ⟨report, he⟩ := (course w.past).after_look w.control w.control
      refine hw.note rfl ?_ ?_ ?_ <;> rw [Section.apply, he]
      · exact hw.running
      · exact id
      · exact id
    | endGeneration =>
      by_cases hd : w.control.flags.deleted = true
      · have same := (course w.past).after_endGeneration_of_deleted hd
        refine hw.note rfl ?_ ?_ ?_ <;> rw [same]
        · rw [Section.endGeneration_of_deleted hd]
          exact hw.running
        · exact id
        · rw [Section.endGeneration_of_deleted hd]
          exact id
      · refine ⟨fun h => ?_, fun h => ?_⟩
        · have running : (Section.endGeneration.apply w.control).flags.running = true := h
          rw [Section.endGeneration_flags hd] at running
          cases running
        · rcases cancelAccepted_cons h with ⟨-, -, found, he, -⟩ | ⟨he, -⟩
          · cases he
          · simp [Event.endsGeneration, hd] at he
    | recordSuccess | recordFailure => exact hw.note rfl hw.running id id
  | waited span purpose =>
    cases purpose with
    | schedule => exact hw.note rfl hw.running id id
    | recovery => exact hw.note rfl hw.running id id
  | _ => exact hw.note rfl hw.running id id

/-! ### Jobs left behind -/

/-- An attempt of a job is created. -/
def Event.Attempts (id : JobId) (e : Event) : Prop :=
  ∃ attempt, e = .told (.call (.createAttempt id)) (.ok attempt)

/-- A job is there, is not the one to go on with, and was not attempted since. -/
structure World.LeftBehind (id : JobId) (past : List Event) (w : World) : Prop where
  numbered : w.jobs.Numbered
  there : (w.jobs.find? id).isSome
  left : (course w.past).leavesOpen ≠ some id
  since : ∃ new, w.past = new ++ past ∧ ∀ e ∈ new, ¬ e.Attempts id

section LeftBehind

variable {id : JobId} {past : List Event} {w w' : World}

theorem leftBehind_cons {e : Event} (hw : w.LeftBehind id past) (hp : w'.past = e :: w.past)
    (hn : w'.jobs.Numbered) (ht : (w'.jobs.find? id).isSome)
    (hl : ((course w.past).after e).leavesOpen ≠ some id)
    (he : ∀ attempt, e ≠ .told (.call (.createAttempt id)) (.ok attempt)) :
    w'.LeftBehind id past := by
  obtain ⟨new, split, quiet⟩ := hw.since
  refine ⟨hn, ht, by rw [hp]; exact hl, e :: new, by rw [hp, split]; rfl, fun e' h => ?_⟩
  rcases List.mem_cons.mp h with rfl | h
  · rintro ⟨attempt, same⟩
    exact he attempt same
  · exact quiet e' h

theorem leftBehind_hear (s : Signal) (hw : w.LeftBehind id past) :
    (w.hear s).LeftBehind id past :=
  leftBehind_cons hw rfl hw.numbered hw.there hw.left fun _ he => by cases he

theorem leavesOpen_carried {m : Manager} {s : Station} {call : Call} {reply : call.Reply}
    {jobs : JobStore} (hr : s.request m = .call call) (hf : s.Fits (course w.past))
    (hw : w.LeftBehind id past) (effect : call.Effect m.connectionId w.jobs reply jobs) :
    ((course w.past).after (.told (.call call) (.ok reply))).leavesOpen ≠ some id := by
  obtain ⟨numbered, there, left, -⟩ := hw
  cases call with
  | createJob isReset =>
    obtain ⟨-, -, hn⟩ := Station.fits_createJob hf hr
    obtain ⟨next, -⟩ := effect.created
    obtain ⟨row, found⟩ := Option.isSome_iff_exists.mp there
    intro h
    simp only [Course.after, Course.leavesOpen, hn] at h
    have same : reply = id := Option.some.inj h
    have le : id ≤ w.jobs.lastId := numbered id row found
    rw [← same, next] at le
    exact absurd le (Int.not_le.mpr (Int.lt_succ _))
  | jobCancelled | jobSuccess => exact fun none => by cases none
  | failJob job reason =>
    unfold Course.after
    dsimp only
    split
    · exact fun none => by cases none
    · exact left
  | _ => exact left

theorem leftBehind_answer {m : Manager} {s : Station} {r : Request} {a : r.Answer}
    (hr : s.request m = r) (hf : s.Fits (course w.past)) (hw : w.LeftBehind id past)
    (h : w.Answers m.connectionId r a w') : (w'.note r a).LeftBehind id past := by
  have numbered := hw.numbered
  have left := hw.left
  cases h with
  | carried call reply jobs effect =>
    obtain ⟨row, found⟩ := Option.isSome_iff_exists.mp hw.there
    obtain ⟨row', found', -⟩ := effect.isReset numbered found
    refine leftBehind_cons hw rfl (effect.numbered numbered) (Option.isSome_of_mem found')
      (leavesOpen_carried hr hf hw effect) ?_
    intro attempt he
    cases he
    exact left (Station.fits_createAttempt hf hr).2.2
  | failed call e =>
    refine leftBehind_cons hw rfl numbered hw.there ?_ fun _ he => by cases he
    rw [Course.after_failed]
    exact left
  | entered sec =>
    refine leftBehind_cons hw rfl numbered hw.there ?_ fun _ he => by cases he
    cases sec with
    | look =>
      unfold Course.after
      dsimp only
      split
      · exact fun none => by cases none
      · exact left
    | recordFailure =>
      have hn := Station.fits_recordFailure hf hr
      simp only [Course.leavesOpen, hn] at left
      exact left
    | endGeneration =>
      unfold Course.after
      dsimp only
      split
      · exact left
      · exact left
    | _ => exact left
  | waited span purpose =>
    refine leftBehind_cons hw rfl numbered hw.there ?_ fun _ he => by cases he
    cases purpose with
    | schedule => exact left
    | recovery => exact fun none => by cases none
  | _ => exact leftBehind_cons hw rfl numbered hw.there left fun _ he => by cases he

end LeftBehind

/-! ### The end of a generation -/

theorem kept_heeds (m : Manager) :
    Kept m fun spot w => spot.Fits (course w.past) ∧ (w.Sorted ∧ w.Heeds) :=
  .worldly (fun s hw => ⟨⟨hw.1.numbered, hw.1.matched⟩, heeds_hear s hw.2⟩)
    fun hr hf hw h => ⟨sorted_answer hr hf hw.1 h, heeds_answer hr hf hw.2 h⟩

theorem heeds_first (m : Manager) (rows : List Job) :
    (Moment.first m rows).world.Sorted ∧ (Moment.first m rows).world.Heeds := by
  have numbered := JobStore.numbered_foldl_insert JobStore.numbered_empty rows
  refine ⟨⟨numbered, fun _ hid => by cases hid⟩, (fun running => by cases running), fun h => ?_⟩
  obtain ⟨found, split, -⟩ := h
  simp [Moment.first] at split

theorem heeds_of_reachable {m : Manager} {a : Moment} (h : a.Reachable m) :
    a.Has m fun spot w => spot.Fits (course w.past) ∧ (w.Sorted ∧ w.Heeds) :=
  (kept_heeds m).reachable_worldly (heeds_first m) h

/-- A generation is over, or the run is. -/
def Moment.Ends (a : Moment) : Prop := a.Asks (.enter .endGeneration) ∨ a.rest = .done none

theorem ends_of_has {m : Manager} {a : Moment} {Q : World → Prop}
    (h : a.Has m fun spot w => spot.Fits (course w.past) ∧ Q w) (ha : a.Ends) :
    (course a.world.past).Ends := by
  rcases ha with ha | ha
  · obtain ⟨s, hs, fits, -⟩ := h.station ha
    cases s with
    | ending input => exact fits.2.2
    | _ => cases hs
  · obtain ⟨spot, follows, fits, -⟩ := h
    rw [ha] at follows
    cases follows with
    | stopped => exact fits

namespace Course

variable {c : Course}

theorem hasJob_of_ends (h : c.Ends) (hj : c.HasJob) (ha : c.report ≠ some .abandoned) :
    ∃ id, c.job = some id := by
  refine Option.isSome_iff_exists.mp ?_
  unfold Ends at h
  rcases hj with hj | hd
  · exact hj
  · split at h
    · rw [h.2.1] at hd
      cases hd
    · exact h.1.hasJob
    · next hr => exact absurd hr ha
    · exact h.hasJob

/-- Just an update and a failure that is kept leave the job of a generation open. -/
theorem isOver_iff (h : c.Ends) (hj : ∃ id, c.job = some id) (ha : c.report ≠ some .abandoned) :
    c.isOver ↔ c.isUpdated = false ∧ c.report ≠ some .kept := by
  obtain ⟨id, hid⟩ := hj
  unfold Ends at h
  unfold isOver
  split at h
  · next hr =>
    rcases h.2.2 with hu | hn
    · simp [hr, hu]
    · cases hn.symm.trans hid
  · next hr => simp [hr]
  · next hr => exact absurd hr ha
  · next r hk hn hr =>
    rw [hr, h.isUpdated]
    cases r <;> simp_all

end Course

theorem kept_leftBehind (m : Manager) (id : JobId) (past : List Event) :
    Kept m fun spot w => spot.Fits (course w.past) ∧ w.LeftBehind id past :=
  .worldly leftBehind_hear leftBehind_answer

/-- A job that is over at the end of a generation is never attempted again. -/
theorem leftBehind_of_isOver {m : Manager} {a : Moment} {id : JobId} {row : Job}
    (h : a.Has m fun spot w => spot.Fits (course w.past) ∧ (w.Sorted ∧ w.Heeds))
    (hf : a.world.jobs.find? id = some row) (ho : (course a.world.past).isOver) {b : Moment}
    (hb : a.Steps m b) :
    ∃ new, b.world.past = new ++ a.world.past ∧ ∀ e ∈ new, ¬ e.Attempts id := by
  obtain ⟨spot, follows, fits, sorted, -⟩ := h
  have left : (course a.world.past).leavesOpen ≠ some id := by
    rw [Course.leavesOpen_of_isOver ho]
    exact fun none => by cases none
  have behind : a.world.LeftBehind id a.world.past :=
    ⟨sorted.numbered, Option.isSome_of_mem hf, left, [], rfl, fun e he => by cases he⟩
  obtain ⟨-, -, -, behind⟩ :=
    (kept_leftBehind m id a.world.past).steps hb ⟨spot, follows, fits, behind⟩
  exact behind.since

/-- When a generation is over in which a cancellation was accepted, its job is terminal just if the
wait was not over for an update, and the cancellation came before the attempt was over or the
failure of that was not kept for another attempt. A job that is terminal then is never attempted
again. -/
theorem isTerminal_iff_of_cancelAccepted {m : Manager} {a : Moment} {since before : List Event}
    (h : a.Reachable m) (he : a.Ends) (hn : (course a.world.past).report ≠ some .abandoned)
    (hc : CancelAccepted a.world.past since before) :
    ∃ id row, (course a.world.past).job = some id ∧ a.world.jobs.find? id = some row ∧
      (row.status.isTerminal ↔ (course a.world.past).isUpdated = false ∧
        ((course before).released = none ∨ (course a.world.past).report ≠ some .kept)) ∧
      (row.status.isTerminal → ∀ {b : Moment}, a.Steps m b →
        ∃ new, b.world.past = new ++ a.world.past ∧ ∀ e ∈ new, ¬ e.Attempts id) := by
  have has := heeds_of_reachable h
  have ends := ends_of_has has he
  obtain ⟨spot, -, -, sorted, heeds⟩ := id has
  obtain ⟨hasJob, cancelled⟩ := heeds.accepted hc
  obtain ⟨id, hid⟩ := Course.hasJob_of_ends ends hasJob hn
  obtain ⟨row, found, same⟩ := sorted.matched id hid hn
  refine ⟨id, row, hid, found, ?_, fun ht b hb => leftBehind_of_isOver has found (same ▸ ht) hb⟩
  rw [same, Course.isOver_iff ends ⟨id, hid⟩ hn]
  refine and_congr_right fun _ => ⟨.inr, ?_⟩
  rintro (hr | hk)
  · intro hk
    have cancelled := cancelled hr
    unfold Course.Ends at ends
    simp only [hk] at ends
    unfold Course.IsCancelled at cancelled
    cases hrel : (course a.world.past).released with
    | none => simp [hrel] at ends
    | some f => simp_all
  · exact hk

/-! ### A cancellation while a failure is recorded -/

/-- Whether a cancellation was accepted so many events ago, in the generation in progress. -/
def acceptedAgo (past : List Event) (n : Nat) : Bool :=
  (match past.drop n with
    | .heard .cancel found :: _ => found.flags.running
    | _ => false) &&
  (past.take n).all fun e => !e.endsGeneration

theorem cancelAccepted_of_acceptedAgo {past : List Event} {n : Nat} (h : acceptedAgo past n) :
    CancelAccepted past (past.take n) (past.drop (n + 1)) := by
  unfold acceptedAgo at h
  rw [Bool.and_eq_true, List.all_eq_true] at h
  obtain ⟨running, quiet⟩ := h
  split at running
  · next found before split =>
    have dropped : past.drop (n + 1) = before := by
      rw [← List.drop_drop, split]
      rfl
    refine ⟨found, ?_, running, fun e he => by simpa using quiet e he⟩
    rw [dropped, ← split, List.take_append_drop]
  · cases running

/-- The first attempt of a job has failed; the job is cancelled before the failure is recorded. -/
def Moment.lateCancel : Moment :=
  .replay .sample [.serve (.failed [] false) 17, .hear .cancel, .serve (.failed [] false) 3]

theorem reachable_lateCancel : Moment.lateCancel.Reachable .sample :=
  Moment.reachable_replay .sample _

theorem lateCancel_ends : Moment.lateCancel.Asks (.enter .endGeneration) :=
  Moment.asks_of_request? (by decide +kernel)

theorem lateCancel_accepted : CancelAccepted Moment.lateCancel.world.past
    (Moment.lateCancel.world.past.take 3) (Moment.lateCancel.world.past.drop 4) :=
  cancelAccepted_of_acceptedAgo (by decide +kernel)

theorem isTerminal_iff_of_lateCancel : ∃ id row,
    (course Moment.lateCancel.world.past).job = some id ∧
    Moment.lateCancel.world.jobs.find? id = some row ∧
    (row.status.isTerminal ↔ (course Moment.lateCancel.world.past).isUpdated = false ∧
      ((course (Moment.lateCancel.world.past.drop 4)).released = none ∨
        (course Moment.lateCancel.world.past).report ≠ some .kept)) ∧
    (row.status.isTerminal → ∀ {b : Moment}, Moment.lateCancel.Steps .sample b →
      ∃ new, b.world.past = new ++ Moment.lateCancel.world.past ∧ ∀ e ∈ new, ¬ e.Attempts id) :=
  isTerminal_iff_of_cancelAccepted reachable_lateCancel (.inl lateCancel_ends) (by decide +kernel)
    lateCancel_accepted

/-- A cancellation that was accepted is dropped, although no generation is given up: its job is open
when its generation is over. -/
theorem cancel_dropped : ∃ (m : Manager) (a : Moment) (since before : List Event) (id : JobId)
    (row : Job), a.Reachable m ∧ a.Asks (.enter .endGeneration) ∧
      (∀ e ∈ a.world.past, e.givesUp = false) ∧ CancelAccepted a.world.past since before ∧
      (course a.world.past).job = some id ∧ a.world.jobs.find? id = some row ∧
      row.status.isTerminal = false := by
  have found : (Moment.lateCancel.world.jobs.find? 1).map (·.status.isTerminal) = some false := by
    decide +kernel
  obtain ⟨row, hrow, status⟩ := Option.map_eq_some_iff.mp found
  exact ⟨.sample, .lateCancel, _, _, 1, row, reachable_lateCancel, lateCancel_ends,
    by decide +kernel, lateCancel_accepted, by decide +kernel, hrow, status⟩

end ConnectorSync.Sync
