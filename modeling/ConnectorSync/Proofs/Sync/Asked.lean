import ConnectorSync.Proofs.Sync.Leftovers

/-!
# Asking an attempt to end

From the end of the wait for an attempt on until it is released, the signals that ask it to end are
noticed: the flags with which it is released say so. It is so in runs that go on with any input.
-/

namespace ConnectorSync.Sync

/-! ### What is read off the past -/

/-- The course of the generation in progress, after what was left before. -/
def courseFrom (c : Course) : List Event → Course
  | [] => c
  | e :: past => (courseFrom c past).after e

def Course.resumed (input : RunInput) : Course where
  carried := input.resetConnection
  openJob := input.jobId

/-- Whether an attempt is due or in progress: the wait is over for it, and it was not released. -/
def underway : List Event → Bool
  | [] => false
  | .told (.enter .endWait) (_, control) :: _ => control.flags.permitsAttempt
  | .told (.enter .releaseAttempt) _ :: _ => false
  | .told (.enter .endGeneration) (before, _) :: past => before.flags.deleted && underway past
  | _ :: past => underway past

/-- The flags under which an attempt that does not succeed is cancelled. -/
def Flags.endsAttempt (f : Flags) : Bool := f.cancelled || f.cancelledForReset || f.deleted

/-- Whether a signal asks the attempt in progress to end. -/
def Signal.endsAttempt : Signal → Bool
  | cancel | delete | reset | resetAndSkipSchedule => true
  | manualSync | updated => false

/-- The attempt of the generation in progress was asked to end while it was due or in progress, with
what has happened since and before. -/
def EndAsked (past since before : List Event) : Prop :=
  ∃ (signal : Signal) (found : Control), past = since ++ .heard signal found :: before ∧
    signal.endsAttempt ∧ underway before ∧ ∀ e ∈ since, e.endsGeneration = false

/-! ### The course of a generation -/

namespace Course

def isUnderway (c : Course) : Bool := c.isDue && c.released.isNone

theorem leavesOpen_after {c : Course} {e : Event} {k : JobId}
    (h : (c.after e).leavesOpen = some k)
    (fresh : ∀ a, e = .told (.enter .recordFailure) a → c.report = none) :
    c.leavesOpen = some k ∨ ∃ isReset, e = .told (.call (.createJob isReset)) (.ok k) := by
  unfold after at h
  split at h
  · exact .inl h
  · next isReset job =>
    right
    have same : some job = some k := (of_leavesOpen h).1
    cases same
    exact ⟨isReset, rfl⟩
  · exact .inl h
  · exact .inl h
  · cases h
  · split at h
    · cases h
    · exact .inl h
  · cases h
  · left
    unfold leavesOpen
    rw [fresh _ rfl]
    exact h
  · split at h
    · cases h
    · exact .inl h
  · cases h
  · split at h
    · exact .inl h
    · exact .inl (of_leavesOpen h).1
  · exact .inl h

end Course

theorem report_courseFrom {c : Course} {past : List Event} (begun : c.report ≠ some .abandoned)
    (quiet : ∀ e ∈ past, e.givesUp = false) : (courseFrom c past).report ≠ some .abandoned := by
  induction past with
  | nil => exact begun
  | cons e past ih =>
    exact Course.report_after (quiet e List.mem_cons_self)
      (ih fun e mem => quiet e (List.mem_cons_of_mem _ mem))

/-! ### Signals -/

section Signals

variable {c : Control}

theorem Control.endsAttempt_signal (h : c.flags.endsAttempt) (s : Signal) :
    (c.signal s).flags.endsAttempt := by
  have heard := c.hears_signal s
  unfold Flags.endsAttempt at h ⊢
  simp only [Bool.or_eq_true] at h ⊢
  exact h.imp (.imp heard.cancelled heard.cancelledForReset) heard.deleted

/-- While a job runs and its wait is over, a signal that asks the attempt to end is noticed. -/
theorem Control.endsAttempt_of_signal {s : Signal} (asks : s.endsAttempt)
    (running : c.flags.running = true) (doneWaiting : c.flags.doneWaiting = true) :
    (c.signal s).flags.endsAttempt := by
  cases s with
  | manualSync | updated => cases asks
  | cancel | delete => simp [signal, cancelAttempt, Flags.endsAttempt, running]
  | reset | resetAndSkipSchedule =>
    simp [signal, requestReset, cancelAttempt, Flags.endsAttempt, doneWaiting]

end Signals

/-! ### The flags at every step -/

def Course.IsAsked (c : Course) (flags : Flags) : Prop :=
  match c.released with
  | none => flags.endsAttempt
  | some f => f.endsAttempt

structure World.Notices (c : Course) (w : World) : Prop where
  window : c.isUnderway = underway w.past
  noticed : c.isUnderway → w.control.flags.running = true ∧ w.control.flags.doneWaiting = true
  asked : ∀ {since before}, EndAsked w.past since before →
    c.isDue ∧ c.IsAsked w.control.flags

namespace Station

variable {m : Manager} {c : Course} {s : Station}

theorem waitEnd_of_beginGeneration {jobOpen skipWait : Bool} (h : s.Fits c)
    (hr : s.request m = .enter (.beginGeneration jobOpen skipWait)) : c.waitEnd = none := by
  cases s with
  | beginning input => exact h.waitEnd
  | _ => cases hr

theorem waits_of_endWait (h : s.Fits c) (hr : s.request m = .enter .endWait) :
    c.waitEnd = none ∧ c.released = none := by
  cases s with
  | endingWait input => exact ⟨h.waitEnd, h.released⟩
  | _ => cases hr

end Station

section Noticed

variable {m : Manager} {station : Station} {c : Course} {w w' : World}

theorem Course.IsAsked.of_flags {flags flags' : Flags} (h : c.IsAsked flags)
    (more : flags.endsAttempt → flags'.endsAttempt) : c.IsAsked flags' := by
  unfold IsAsked at h ⊢
  split
  · next released =>
    rw [released] at h
    exact more h
  · next f released =>
    rw [released] at h
    exact h

theorem endAsked_cons {e : Event} {past since before : List Event}
    (h : EndAsked (e :: past) since before) :
    (∃ (signal : Signal) (found : Control), e = .heard signal found ∧ signal.endsAttempt ∧
        underway past) ∨
      (e.endsGeneration = false ∧ ∃ since', EndAsked past since' before) := by
  obtain ⟨signal, found, split, asks, underway, quiet⟩ := h
  cases since with
  | nil =>
    cases split
    exact .inl ⟨signal, found, rfl, asks, underway⟩
  | cons e' since =>
    cases split
    refine .inr ⟨quiet e List.mem_cons_self, since, signal, found, rfl, asks, underway,
      fun e mem => quiet e (List.mem_cons_of_mem _ mem)⟩

theorem World.Notices.hear (h : w.Notices c) (s : Signal) : (w.hear s).Notices c := by
  refine ⟨h.window, fun underway => ?_, fun asked => ?_⟩
  · obtain ⟨running, doneWaiting⟩ := h.noticed underway
    have heard := w.control.hears_signal s
    exact ⟨heard.running.trans running, heard.doneWaiting.trans doneWaiting⟩
  · rcases endAsked_cons asked with ⟨signal, found, same, asks, underway⟩ | ⟨-, since, asked⟩
    · cases same
      rw [← h.window] at underway
      obtain ⟨running, doneWaiting⟩ := h.noticed underway
      obtain ⟨isDue, released⟩ := Bool.and_eq_true_iff.1 underway
      refine ⟨isDue, ?_⟩
      unfold Course.IsAsked
      rw [Option.isNone_iff_eq_none.1 released]
      exact Control.endsAttempt_of_signal asks running doneWaiting
    · obtain ⟨isDue, asked⟩ := h.asked asked
      exact ⟨isDue, asked.of_flags fun ends => Control.endsAttempt_signal ends s⟩

theorem World.Notices.note {r : Request} {a : r.Answer} (h : w.Notices c)
    (past : w'.past = w.past)
    (under : (c.after (.told r a)).isUnderway = underway (.told r a :: w.past))
    (noticed : (c.after (.told r a)).isUnderway →
      w'.control.flags.running = true ∧ w'.control.flags.doneWaiting = true)
    (asked : c.isDue → c.IsAsked w.control.flags →
      (c.after (.told r a)).isDue ∧ (c.after (.told r a)).IsAsked w'.control.flags) :
    (w'.note r a).Notices (c.after (.told r a)) := by
  have split : (w'.note r a).past = .told r a :: w.past := by rw [World.note, past]
  refine ⟨by rw [split]; exact under, noticed, fun {since before} ended => ?_⟩
  rw [split] at ended
  rcases endAsked_cons ended with ⟨signal, found, same, -⟩ | ⟨-, since, ended⟩
  · cases same
  · obtain ⟨isDue, isAsked⟩ := h.asked ended
    exact asked isDue isAsked

theorem World.Notices.same {r : Request} {a : r.Answer} (h : w.Notices c)
    (past : w'.past = w.past) (control : w'.control = w.control)
    (under : underway (.told r a :: w.past) = underway w.past)
    (waitEnd : (c.after (.told r a)).waitEnd = c.waitEnd)
    (released : (c.after (.told r a)).released = c.released) :
    (w'.note r a).Notices (c.after (.told r a)) := by
  have isUnderway : (c.after (.told r a)).isUnderway = c.isUnderway := by
    unfold Course.isUnderway Course.isDue
    rw [waitEnd, released]
  refine h.note past ?_ ?_ fun isDue isAsked => ⟨?_, ?_⟩
  · rw [isUnderway, under, h.window]
  · rw [isUnderway, control]
    exact h.noticed
  · unfold Course.isDue at isDue ⊢
    rw [waitEnd]
    exact isDue
  · unfold Course.IsAsked at isAsked ⊢
    rw [released, control]
    exact isAsked

theorem notices_entered {sec : Section} (hr : station.request m = .enter sec)
    (fits : station.Fits c) (h : w.Notices c) :
    (({ w with control := sec.apply w.control }).note (.enter sec)
      (w.control, sec.apply w.control)).Notices
      (c.after (.told (.enter sec) (w.control, sec.apply w.control))) := by
  cases sec with
  | beginGeneration jobOpen skipWait =>
    have waitEnd := Station.waitEnd_of_beginGeneration fits hr
    have notDue : c.isDue = false := by simp [Course.isDue, waitEnd]
    have notUnderway : c.isUnderway = false := by simp [Course.isUnderway, notDue]
    refine h.note rfl h.window (fun underway => ?_) fun isDue => ?_
    · cases notUnderway.symm.trans underway
    · cases notDue.symm.trans isDue
  | endWait =>
    obtain ⟨waitEnd, released⟩ := Station.waits_of_endWait fits hr
    have notDue : c.isDue = false := by simp [Course.isDue, waitEnd]
    refine h.note rfl ?_ (fun underway => ?_) fun isDue => ?_
    · show (_ && c.released.isNone) = _
      rw [released, Option.isNone_none, Bool.and_true]
      rfl
    · have permits : (Section.endWait.apply w.control).flags.permitsAttempt :=
        (Bool.and_eq_true_iff.1 underway).1
      refine ⟨?_, rfl⟩
      exact (Bool.or_eq_true _ _).mpr (.inr permits)
    · cases notDue.symm.trans isDue
  | registerAttempt =>
    exact h.note rfl h.window (fun underway => ⟨rfl, (h.noticed underway).2⟩)
      fun isDue isAsked => ⟨isDue, isAsked⟩
  | releaseAttempt =>
    have released := Station.fits_releaseAttempt fits hr
    refine h.note rfl ?_ (fun underway => ?_) fun isDue isAsked => ⟨isDue, ?_⟩
    · show (c.isDue && false) = false
      exact Bool.and_false _
    · cases (Bool.and_eq_true_iff.1 underway).2
    · unfold Course.IsAsked at isAsked
      rw [released] at isAsked
      exact isAsked
  | look =>
    obtain ⟨report, same⟩ := c.after_look w.control w.control
    refine h.same rfl rfl rfl ?_ ?_
    · rw [Section.apply, same]
    · rw [Section.apply, same]
  | endGeneration =>
    by_cases deleted : w.control.flags.deleted = true
    · have same := c.after_endGeneration_of_deleted deleted
      refine h.same rfl (Section.endGeneration_of_deleted deleted) ?_ ?_ ?_
      · simp [underway, deleted]
      · rw [same]
      · rw [same]
    · have fresh := c.after_endGeneration deleted (Section.endGeneration.apply w.control)
      refine ⟨?_, fun underway => ?_, fun {since before} asked => ?_⟩
      · rw [fresh]
        simp [World.note, underway, deleted, Course.isUnderway, Course.isDue]
      · rw [fresh] at underway
        cases underway
      · rcases endAsked_cons asked with ⟨signal, found, same, -⟩ | ⟨ends, -⟩
        · cases same
        · simp [Event.endsGeneration, deleted] at ends
  | recordSuccess | recordFailure =>
    exact h.note rfl h.window h.noticed fun isDue isAsked => ⟨isDue, isAsked⟩

theorem notices_answer {r : Request} {a : r.Answer} (hr : station.request m = r)
    (fits : station.Fits c) (h : w.Notices c) (answers : w.Answers m.connectionId r a w') :
    (w'.note r a).Notices (c.after (.told r a)) := by
  cases answers with
  | carried call reply jobs effect =>
    cases call with
    | failJob job reason =>
      obtain ⟨report, same⟩ := c.after_failJob job reason
      refine h.same rfl rfl rfl ?_ ?_
      · rw [same]
      · rw [same]
    | _ => exact h.same rfl rfl rfl rfl rfl
  | failed call e =>
    refine h.same rfl rfl rfl ?_ ?_
    · rw [Course.after_failed]
    · rw [Course.after_failed]
  | entered sec => exact notices_entered hr fits h
  | waited span purpose => cases purpose <;> exact h.same rfl rfl rfl rfl rfl
  | _ => exact h.same rfl rfl rfl rfl rfl

end Noticed

/-- Whether the attempt in progress was asked to end so many events ago. -/
def askedAgo (past : List Event) (n : Nat) : Bool :=
  (match past.drop n with
    | .heard signal _ :: before => signal.endsAttempt && underway before
    | _ => false) &&
  (past.take n).all fun e => !e.endsGeneration

theorem endAsked_of_askedAgo {past : List Event} {n : Nat} (h : askedAgo past n) :
    EndAsked past (past.take n) (past.drop (n + 1)) := by
  unfold askedAgo at h
  rw [Bool.and_eq_true, List.all_eq_true] at h
  obtain ⟨asked, quiet⟩ := h
  split at asked
  · next signal found before split =>
    have dropped : past.drop (n + 1) = before := by
      rw [← List.drop_drop, split]
      rfl
    obtain ⟨asks, underway⟩ := Bool.and_eq_true_iff.1 asked
    rw [dropped]
    refine ⟨signal, found, ?_, asks, underway, fun e mem => by simpa using quiet e mem⟩
    rw [← split, List.take_append_drop]
  · cases asked

end ConnectorSync.Sync
