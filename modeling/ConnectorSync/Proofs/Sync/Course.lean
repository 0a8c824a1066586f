import ConnectorSync.Proofs.Sync.Run

/-!
# The course of a generation

What has become of the generation in progress, read off the answers that its manager was given.
-/

namespace ConnectorSync.Sync

/-- What was reported of the job of a generation. -/
inductive Report
  | cancelled (forReset : Bool)
  | succeeded
  /-- Its attempt failed and it is left open for another one. -/
  | kept
  | failed
  /-- The generation was given up. -/
  | abandoned
  deriving DecidableEq

/-- Whether a wait that ends with the flags is followed by an attempt. -/
def Flags.permitsAttempt (f : Flags) : Bool := !(f.deleted || f.updated || f.cancelled)

/-- What has become of a generation so far. -/
structure Course where
  /-- Whether the generation was begun as a reset. -/
  carried : Bool := false
  openJob : Option JobId := none
  /-- The flags with which the wait for the schedule ended. -/
  waitEnd : Option Flags := none
  created : Option JobId := none
  attempted : Bool := false
  /-- The flags with which the attempt was over. -/
  released : Option Flags := none
  report : Option Report := none
  deriving DecidableEq

namespace Course

def job (c : Course) : Option JobId := c.created <|> c.openJob

/-- Whether the attempt of the generation is a reset. -/
def isReset (c : Course) : Bool := c.carried || c.waitEnd.any (·.resetRequested)

def isUpdated (c : Course) : Bool := c.waitEnd.any fun f => f.updated && !f.deleted

/-- Whether the wait was over for an attempt. -/
def isDue (c : Course) : Bool := c.waitEnd.any Flags.permitsAttempt

/-- Whether the next generation begins as a reset. -/
def handsOn (c : Course) : Bool :=
  match c.report with
  | none | some .kept => c.carried
  | some (.cancelled forReset) => forReset
  | some .succeeded | some .failed | some .abandoned => false

/-- The job left open for the next generation. -/
def leavesOpen (c : Course) : Option JobId :=
  match c.report with
  | none | some .kept => c.job
  | some _ => none

def isOver (c : Course) : Bool :=
  match c.report with
  | some (.cancelled _) | some .succeeded | some .failed => true
  | none | some .kept | some .abandoned => false

def after (c : Course) : Event → Course
  | .told (.enter .endWait) (_, control) => { c with waitEnd := some control.flags }
  | .told (.call (.createJob _)) (.ok job) => { c with created := some job }
  | .told (.call (.createAttempt _)) (.ok _) => { c with attempted := true }
  | .told (.enter .releaseAttempt) (_, control) => { c with released := some control.flags }
  | .told (.call (.jobCancelled ..)) (.ok _) => { c with report := some (.cancelled false) }
  | .told (.enter .look) (control, _) =>
    match c.report with
    | some (.cancelled _) =>
      { c with report := some (.cancelled control.flags.cancelledForReset) }
    | _ => c
  | .told (.call (.jobSuccess ..)) (.ok _) => { c with report := some .succeeded }
  | .told (.enter .recordFailure) _ => { c with report := some .kept }
  | .told (.call (.failJob ..)) (.ok _) =>
    if c.report = some .kept then { c with report := some .failed } else c
  | .told (.wait _ .recovery) _ => { c with report := some .abandoned }
  | .told (.enter .endGeneration) (before, _) =>
    if before.flags.deleted then c else { carried := c.handsOn, openJob := c.leavesOpen }
  | _ => c

/-- Only a generation that goes on with its job leaves it open. -/
theorem of_leavesOpen {c : Course} {id : JobId} (h : c.leavesOpen = some id) :
    c.job = some id ∧ (c.report = none ∨ c.report = some .kept) := by
  unfold leavesOpen at h
  split at h
  · next hr => exact ⟨h, .inl hr⟩
  · next hr => exact ⟨h, .inr hr⟩
  · cases h

theorem leavesOpen_of_isOver {c : Course} (h : c.isOver) : c.leavesOpen = none := by
  unfold isOver at h
  unfold leavesOpen
  split at h <;> simp_all

theorem leavesOpen_of_going {c : Course} (going : c.isOver = false)
    (calm : c.report ≠ some .abandoned) : c.leavesOpen = c.job := by
  unfold isOver at going
  unfold leavesOpen
  cases reported : c.report with
  | none => rfl
  | some r => cases r <;> simp_all

theorem after_failed (c : Course) (call : Call) (e : ActivityError) :
    c.after (.told (.call call) (.error e)) = c := by
  cases call <;> rfl

theorem after_failJob (c : Course) (job : JobId) (reason : String) :
    ∃ r, c.after (.told (.call (.failJob job reason)) (.ok ())) = { c with report := r } := by
  unfold after
  dsimp only
  split
  · exact ⟨_, rfl⟩
  · exact ⟨c.report, rfl⟩

theorem after_look (c : Course) (control control' : Control) :
    ∃ r, c.after (.told (.enter .look) (control, control')) = { c with report := r } := by
  unfold after
  dsimp only
  split
  · exact ⟨_, rfl⟩
  · exact ⟨c.report, rfl⟩

theorem after_endGeneration_of_deleted (c : Course) {before : Control}
    (deleted : before.flags.deleted = true) (control : Control) :
    c.after (.told (.enter .endGeneration) (before, control)) = c := by
  rw [after, if_pos deleted]

theorem after_endGeneration (c : Course) {before : Control}
    (deleted : ¬ before.flags.deleted = true) (control : Control) :
    c.after (.told (.enter .endGeneration) (before, control)) =
      { carried := c.handsOn, openJob := c.leavesOpen } := by
  rw [after, if_neg deleted]

theorem isUpdated_of_isDue {c : Course} (h : c.isDue) : c.isUpdated = false := by
  unfold isDue at h
  unfold isUpdated
  cases hw : c.waitEnd with
  | none => rfl
  | some f =>
    rw [hw, Option.any_some] at h
    simp_all [Flags.permitsAttempt]

end Course

theorem Section.endGeneration_of_deleted {c : Control} (deleted : c.flags.deleted = true) :
    endGeneration.apply c = c := if_pos deleted

theorem Section.endGeneration_flags {c : Control} (deleted : ¬ c.flags.deleted = true) :
    (endGeneration.apply c).flags = c.flags.nextGeneration := by
  rw [Section.apply, if_neg deleted]

def course : List Event → Course
  | [] => {}
  | e :: past => (course past).after e

end ConnectorSync.Sync
