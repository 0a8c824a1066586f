import ConnectorSync.Proofs.Sync.Fitting
import ConnectorSync.Proofs.Sync.Replay

/-!
# The kind of an attempt

An attempt is executed as a reset or as a sync. It is of its job's kind in the generation that
created the job. In a later one it is so if that generation was begun as a reset, and otherwise only
if it was requested by the end of the wait to be what its job is.
-/

namespace ConnectorSync.Sync

/-- The generation's job is there. It is of the kind of the generation if that created it, and a
reset if the generation was begun as one. -/
def Course.Owns (c : Course) (jobs : JobStore) : Prop :=
  ∀ id, c.job = some id → ∃ row, jobs.find? id = some row ∧
    (c.created.isSome → row.isReset = c.isReset) ∧ (c.carried → row.isReset)

theorem Course.Owns.of_rows {c : Course} {jobs jobs' : JobStore} (h : c.Owns jobs)
    (rows : ∀ {id row}, jobs.find? id = some row →
      ∃ row', jobs'.find? id = some row' ∧ row'.isReset = row.isReset) : c.Owns jobs' := by
  intro id hid
  obtain ⟨row, found, created, carried⟩ := h id hid
  obtain ⟨row', found', same⟩ := rows found
  exact ⟨row', found', fun h => same.trans (created h), fun h => same.trans (carried h)⟩

structure World.Owned (w : World) : Prop where
  numbered : w.jobs.Numbered
  owns : (course w.past).Owns w.jobs

theorem owned_answer {m : Manager} {s : Station} {r : Request} {w w' : World} {a : r.Answer}
    (hr : s.request m = r) (hf : s.Fits (course w.past)) (hw : w.Owned)
    (h : w.Answers m.connectionId r a w') : (w'.note r a).Owned := by
  obtain ⟨numbered, owns⟩ := hw
  cases h with
  | carried call reply jobs effect =>
    refine ⟨effect.numbered numbered, ?_⟩
    show ((course w.past).after _).Owns jobs
    have kept : (course w.past).Owns jobs := owns.of_rows fun hk => effect.isReset numbered hk
    cases call with
    | createJob isReset =>
      obtain ⟨-, -, row, kind, -, rows⟩ := effect.created
      obtain ⟨isReset, -⟩ := Station.fits_createJob hf hr
      intro id hid
      cases hid
      refine ⟨row, by rw [rows, if_pos rfl], fun _ => kind.trans isReset, fun hc => ?_⟩
      have hc : (course w.past).carried = true := hc
      rw [kind, isReset, Course.isReset, hc, Bool.true_or]
    | failJob job reason =>
      obtain ⟨report, after⟩ := (course w.past).after_failJob job reason
      rw [after]
      exact kept
    | _ => exact kept
  | failed call e =>
    refine ⟨numbered, ?_⟩
    show ((course w.past).after _).Owns w.jobs
    rw [Course.after_failed]
    exact owns
  | entered sec =>
    refine ⟨numbered, ?_⟩
    show ((course w.past).after _).Owns w.jobs
    cases sec with
    | endWait =>
      obtain ⟨-, created⟩ := Station.fits_endWait hf hr
      intro id hid
      obtain ⟨row, found, -, carried⟩ := owns id hid
      refine ⟨row, found, fun hc => ?_, carried⟩
      simp [Course.after, created] at hc
    | look =>
      obtain ⟨report, after⟩ := (course w.past).after_look w.control (Section.look.apply w.control)
      rw [after]
      exact owns
    | endGeneration =>
      unfold Course.after
      dsimp only
      split
      · exact owns
      · intro id hid
        obtain ⟨hj, hr⟩ := Course.of_leavesOpen hid
        have hc : (course w.past).handsOn = (course w.past).carried := by
          rcases hr with hr | hr <;> simp only [Course.handsOn, hr]
        obtain ⟨row, found, -, carried⟩ := owns id hj
        exact ⟨row, found, (fun created => by cases created), fun h => carried (hc ▸ h)⟩
    | _ => exact owns
  | waited span purpose =>
    cases purpose with
    | schedule => exact ⟨numbered, owns⟩
    | recovery => exact ⟨numbered, owns⟩
  | _ => exact ⟨numbered, owns⟩

theorem kept_owned (m : Manager) :
    Kept m fun spot w => spot.Fits (course w.past) ∧ w.Owned :=
  .worldly (fun _ hw => ⟨hw.numbered, hw.owns⟩) owned_answer

theorem owned_first (m : Manager) (rows : List Job) : (Moment.first m rows).world.Owned where
  numbered := JobStore.numbered_foldl_insert JobStore.numbered_empty rows
  owns := fun id hid => by cases hid

theorem agrees_iff {c : Course} {jobs : JobStore} {input : RunInput} {context : AttemptContext}
    (hc : c.Attempts input context) (owns : c.Owns jobs) :
    ∃ row, jobs.find? context.jobId = some row ∧
      (context.isReset = row.isReset ↔ c.created = some context.jobId ∨ c.carried ∨
        ∃ f, c.waitEnd = some f ∧ f.resetRequested = row.isReset) := by
  have hj : c.job = some context.jobId := hc.openJob.trans hc.jobId
  obtain ⟨row, found, created, carried⟩ := owns context.jobId hj
  have hd := hc.isDue
  have hr := hc.isReset
  refine ⟨row, found, ?_⟩
  obtain ⟨f, hf⟩ : ∃ f, c.waitEnd = some f := by
    cases hw : c.waitEnd with
    | none => simp [Course.isDue, hw] at hd
    | some f => exact ⟨f, rfl⟩
  have isReset : c.isReset = (c.carried || f.resetRequested) := by
    simp [Course.isReset, hf]
  constructor
  · intro same
    cases hcarried : c.carried with
    | true => exact .inr (.inl rfl)
    | false =>
      refine .inr (.inr ⟨f, hf, ?_⟩)
      rw [← same, hr, isReset, hcarried, Bool.false_or]
  · rintro (h | h | ⟨f', hf', same⟩)
    · rw [hr, created (by rw [h]; rfl)]
    · rw [hr, isReset, h, carried h, Bool.true_or]
    · cases hf.symm.trans hf'
      cases hcarried : c.carried with
      | true => rw [hr, isReset, hcarried, carried hcarried, Bool.true_or]
      | false => rw [hr, isReset, hcarried, same, Bool.false_or]

/-- An attempt under way is of its job's kind just if its generation created the job, was begun as a
reset, or was asked by the end of its wait for what the job is. -/
theorem isReset_of_attempt {m : Manager} {a : Moment} {context : AttemptContext}
    (h : a.Reachable m)
    (ha : a.Asks (.execute context) ∨ ∃ side, a.Asks (.check context side)) :
    ∃ row, a.world.jobs.find? context.jobId = some row ∧
      (context.isReset = row.isReset ↔
        (course a.world.past).created = some context.jobId ∨ (course a.world.past).carried ∨
          ∃ f, (course a.world.past).waitEnd = some f ∧ f.resetRequested = row.isReset) := by
  have has := (kept_owned m).reachable_worldly (owned_first m) h
  rcases ha with ha | ⟨side, ha⟩
  · obtain ⟨s, hs, fits, hw⟩ := has.station ha
    obtain ⟨input, hc⟩ := Station.fits_attempt fits (.inl hs)
    exact agrees_iff hc hw.owns
  · obtain ⟨s, hs, fits, hw⟩ := has.station ha
    obtain ⟨input, hc⟩ := Station.fits_attempt fits (.inr ⟨side, hs⟩)
    exact agrees_iff hc hw.owns

/-! ### A reset during the pause between two attempts -/

/-- The first attempt of a sync fails; a reset is asked for while the second one is waited for. -/
def Moment.lateReset : Moment :=
  .replay .sample [.serve (.failed [] false) 25, .hear .reset, .serve (.failed [] false) 9]

theorem lateReset_executes :
    Moment.lateReset.Asks (.execute ⟨Manager.sample.connectionId, 1, 2, true⟩) :=
  Moment.asks_of_request? (by decide +kernel)

theorem isReset_of_lateReset : ∃ row, Moment.lateReset.world.jobs.find? 1 = some row ∧
    (true = row.isReset ↔ (course Moment.lateReset.world.past).created = some 1 ∨
      (course Moment.lateReset.world.past).carried ∨
      ∃ f, (course Moment.lateReset.world.past).waitEnd = some f ∧
        f.resetRequested = row.isReset) :=
  isReset_of_attempt (Moment.reachable_replay .sample _) (.inl lateReset_executes)

/-- An attempt of a sync is executed as a reset. -/
theorem sync_executed_as_reset :
    ∃ (m : Manager) (a : Moment) (context : AttemptContext) (row : Job),
    a.Reachable m ∧ a.Asks (.execute context) ∧
      a.world.jobs.find? context.jobId = some row ∧ context.isReset ≠ row.isReset := by
  have found : (Moment.lateReset.world.jobs.find? 1).map (·.isReset) = some false := by
    decide +kernel
  obtain ⟨row, hrow, kind⟩ := Option.map_eq_some_iff.mp found
  exact ⟨.sample, .lateReset, _, row, Moment.reachable_replay .sample _, lateReset_executes, hrow,
    by simp [kind]⟩

end ConnectorSync.Sync
