import Mathlib.Tactic.ByContra
import ConnectorSync.Proofs.Sync.Control
import ConnectorSync.Proofs.Sync.Fitting
import ConnectorSync.Proofs.Sync.Replay

/-!
# Requests for a reset

What becomes of the resets that are asked for. One that is asked for in time is carried out by the
attempt of its generation, or handed on to the next one; others are lost, or put off until after the
wait for a schedule.
-/

namespace ConnectorSync.Sync

/-- Whether a signal asks for a reset. -/
def Signal.asksReset : Signal → Bool
  | reset | resetAndSkipSchedule => true
  | _ => false

/-- Every reset that was asked for was followed by the creation of an attempt that is a reset. -/
def ResetsFollowed (past : List Event) : Prop :=
  ∀ after s found before, past = after ++ .heard s found :: before → s.asksReset →
    ∃ later job attempt sooner,
      after = later ++ .told (.call (.createAttempt job)) (.ok attempt) :: sooner ∧
        (course (sooner ++ .heard s found :: before)).isReset

/-- What has become of the resets that were asked for. -/
inductive Standing
  /-- All of them were carried out. -/
  | settled
  /-- One was asked for in the generation in progress, and nothing provides for it yet. -/
  | asked
  /-- The next attempt is to be a reset. -/
  | granted
  /-- One was not carried out, and nothing provides for it any more. -/
  | lost
  deriving DecidableEq

/-- Whether the next attempt of the generation is due and a reset. -/
def Course.isBound (c : Course) : Bool := c.isDue && !c.attempted && c.isReset

/-- Whether the flags call off the job that is open at the end of a wait. -/
def Flags.callsOff (f : Flags) : Bool := !f.deleted && !f.updated && f.cancelled

namespace Standing

def hear (c : Course) (s : Standing) (signal : Signal) : Standing :=
  if signal.asksReset then if s = granted || c.isBound then granted else asked else s

/-- The wait is over: an attempt is due, or the job left open is cancelled, or neither. -/
def endWait (s : Standing) (f : Flags) : Standing :=
  if s = asked && f.permitsAttempt then granted
  else if s = granted && f.callsOff then asked
  else s

def endGeneration (c : Course) (s : Standing) : Standing :=
  if s = asked || s = granted then if c.handsOn then granted else lost else s

/-- What has become of the resets after an event. -/
def after (c : Course) (s : Standing) : Event → Standing
  | .heard signal _ => s.hear c signal
  | .told (.enter .endWait) (_, control) => s.endWait control.flags
  | .told (.call (.createAttempt _)) (.ok _) => if s = granted then settled else s
  | .told (.enter .endGeneration) (before, _) =>
    if before.flags.deleted then s else s.endGeneration c
  | _ => s

end Standing

/-- What has become of the resets that were asked for. -/
def standing : List Event → Standing
  | [] => .settled
  | e :: past => (standing past).after (course past) e

/-! ### Following -/

def Event.startsReset (c : Course) : Event → Bool
  | .told (.call (.createAttempt _)) (.ok _) => c.isReset
  | _ => false

def Event.asksReset : Event → Bool
  | .heard s _ => s.asksReset
  | .told .. => false

theorem Event.startsReset_iff {c : Course} {e : Event} : e.startsReset c ↔
    ∃ job attempt, e = .told (.call (.createAttempt job)) (.ok attempt) ∧ c.isReset := by
  constructor
  · intro h
    unfold startsReset at h
    split at h
    · exact ⟨_, _, rfl, h⟩
    · cases h
  · rintro ⟨job, attempt, rfl, h⟩
    exact h

theorem resetsFollowed_cons {e : Event} {past : List Event} : ResetsFollowed (e :: past) ↔
    e.startsReset (course past) ∨ (ResetsFollowed past ∧ e.asksReset = false) := by
  constructor
  · intro h
    by_cases he : e.startsReset (course past)
    · exact .inl he
    refine .inr ⟨fun after s found before hp hs => ?_, ?_⟩
    · obtain ⟨later, job, attempt, sooner, split, hr⟩ :=
        h (e :: after) s found before (by rw [hp]; rfl) hs
      cases later with
      | nil =>
        cases split
        exact absurd (Event.startsReset_iff.mpr ⟨job, attempt, rfl, hp ▸ hr⟩) he
      | cons e' later =>
        cases split
        exact ⟨later, job, attempt, sooner, rfl, hr⟩
    · cases e with
      | told r a => rfl
      | heard s found =>
        cases hs : s.asksReset with
        | false => exact hs
        | true =>
          obtain ⟨later, job, attempt, sooner, split, -⟩ := h [] s found past rfl hs
          simp at split
  · rintro (he | ⟨h, he⟩) after s found before hp hs
    · cases after with
      | nil =>
        cases hp
        cases he
      | cons e' after =>
        cases hp
        obtain ⟨job, attempt, rfl, hr⟩ := Event.startsReset_iff.mp he
        exact ⟨[], job, attempt, after, rfl, hr⟩
    · cases after with
      | nil =>
        cases hp
        exact absurd hs (Bool.eq_false_iff.mp he)
      | cons e' after =>
        cases hp
        obtain ⟨later, job, attempt, sooner, split, hr⟩ := h after s found before rfl hs
        exact ⟨e :: later, job, attempt, sooner, by rw [split]; rfl, hr⟩

theorem resetsFollowed_skip {e : Event} {past : List Event}
    (hs : e.startsReset (course past) = false) (ha : e.asksReset = false) :
    ResetsFollowed (e :: past) ↔ ResetsFollowed past := by
  rw [resetsFollowed_cons, hs, ha]
  simp

/-! ### The control -/

namespace Control

structure Agrees (c c' : Control) : Prop where
  resetRequested : c'.flags.resetRequested = c.flags.resetRequested
  doneWaiting : c'.flags.doneWaiting = c.flags.doneWaiting
  cancelledForReset : c'.flags.cancelledForReset = c.flags.cancelledForReset
  skipScheduling : c.flags.skipScheduling = true → c'.flags.skipScheduling = true

theorem Agrees.refl (c : Control) : c.Agrees c := ⟨rfl, rfl, rfl, id⟩

theorem agrees_signal {s : Signal} (hs : s.asksReset = false) (c : Control) :
    c.Agrees (c.signal s) := by
  have heard := c.hears_signal s
  refine ⟨?_, heard.doneWaiting, ?_, heard.skipScheduling⟩ <;> cases s with
  | reset | resetAndSkipSchedule => cases hs
  | updated => rfl
  | manualSync | cancel | delete =>
    cases running : c.flags.running <;> simp [signal, cancelAttempt, running]

theorem agrees_apply {sec : Section} (hw : sec ≠ .endWait) (he : sec ≠ .endGeneration)
    (c : Control) : c.Agrees (sec.apply c) := by
  cases sec with
  | endWait => exact absurd rfl hw
  | endGeneration => exact absurd rfl he
  | beginGeneration jobOpen skipWait => exact ⟨rfl, rfl, rfl, fun h => by simp [Section.apply, h]⟩
  | _ => exact ⟨rfl, rfl, rfl, id⟩

theorem requestReset_flags (c : Control) (skipNext : Bool) :
    (c.requestReset skipNext).flags.resetRequested = true ∧
      (c.flags.doneWaiting = false → (c.requestReset skipNext).flags.skipScheduling = true) := by
  unfold requestReset
  cases h : c.flags.doneWaiting <;> simp [cancelAttempt, h]

theorem signal_flags {s : Signal} (hs : s.asksReset) (c : Control) :
    (c.signal s).flags.resetRequested = true ∧
      (c.flags.doneWaiting = false → (c.signal s).flags.skipScheduling = true) := by
  cases s with
  | reset => exact c.requestReset_flags false
  | resetAndSkipSchedule => exact c.requestReset_flags true
  | _ => cases hs

end Control

/-! ### Steps -/

structure Tracks (s : Standing) (c : Course) (flags : Flags) : Prop where
  granted : s = .granted → c.isReset = true
  noted : s = .asked → c.waitEnd = none → flags.resetRequested = true ∧ flags.skipScheduling = true
  unbound : s = .asked → c.isBound = false
  lost : s = .lost → c.isReset = false ∧ c.handsOn = false ∧ flags.cancelledForReset = false
  unnoted : s = .lost → c.waitEnd = none → flags.resetRequested = false
  waiting : c.waitEnd = none → flags.doneWaiting = false

namespace Tracks

variable {s : Standing} {c c' : Course} {control control' : Control}

theorem ofSettled {flags : Flags} (hw : c.waitEnd = none → flags.doneWaiting = false) :
    Tracks .settled c flags :=
  ⟨nofun, nofun, nofun, nofun, nofun, hw⟩

theorem ofAsked {flags : Flags}
    (hn : c.waitEnd = none → flags.resetRequested = true ∧ flags.skipScheduling = true)
    (hb : c.isBound = false) (hw : c.waitEnd = none → flags.doneWaiting = false) :
    Tracks .asked c flags :=
  ⟨nofun, fun _ => hn, fun _ => hb, nofun, nofun, hw⟩

theorem ofGranted {flags : Flags} (hr : c.isReset = true)
    (hw : c.waitEnd = none → flags.doneWaiting = false) : Tracks .granted c flags :=
  ⟨fun _ => hr, nofun, nofun, nofun, nofun, hw⟩

theorem ofLost {flags : Flags}
    (hl : c.isReset = false ∧ c.handsOn = false ∧ flags.cancelledForReset = false)
    (hn : c.waitEnd = none → flags.resetRequested = false)
    (hw : c.waitEnd = none → flags.doneWaiting = false) : Tracks .lost c flags :=
  ⟨nofun, nofun, nofun, fun _ => hl, fun _ => hn, hw⟩

theorem same (h : Tracks s c control.flags) (hc : c'.carried = c.carried)
    (hw : c'.waitEnd = c.waitEnd) (ha : c'.attempted = c.attempted)
    (hh : s = .lost → c'.handsOn = false) (hf : control.Agrees control') :
    Tracks s c' control'.flags := by
  have isReset : c'.isReset = c.isReset := by simp only [Course.isReset, hc, hw]
  have isBound : c'.isBound = c.isBound := by
    simp only [Course.isBound, Course.isDue, isReset, hw, ha]
  refine ⟨fun hs => ?_, fun hs hn => ?_, fun hs => ?_, fun hs => ?_, fun hs hn => ?_, fun hn => ?_⟩
  · exact isReset.trans (h.granted hs)
  · obtain ⟨hr, hk⟩ := h.noted hs (hw ▸ hn)
    exact ⟨hf.resetRequested.trans hr, hf.skipScheduling hk⟩
  · exact isBound.trans (h.unbound hs)
  · obtain ⟨hr, -, hfr⟩ := h.lost hs
    exact ⟨isReset.trans hr, hh hs, hf.cancelledForReset.trans hfr⟩
  · exact hf.resetRequested.trans (h.unnoted hs (hw ▸ hn))
  · exact hf.doneWaiting.trans (h.waiting (hw ▸ hn))

theorem handsOn (h : Tracks s c control.flags) (hs : s = .lost) : c.handsOn = false :=
  (h.lost hs).2.1

theorem carried (h : Tracks s c control.flags) (hs : s = .lost) : c.carried = false := by
  have := (h.lost hs).1
  simp only [Course.isReset, Bool.or_eq_false_iff] at this
  exact this.1

theorem hear (h : Tracks s c control.flags) (signal : Signal) :
    Tracks (s.hear c signal) c (control.signal signal).flags := by
  unfold Standing.hear
  split
  · next hs =>
    obtain ⟨requested, skip⟩ := control.signal_flags hs
    have waiting := (control.hears_signal signal).doneWaiting
    split
    · next hg =>
      have isReset : c.isReset = true := by
        simp only [Bool.or_eq_true, decide_eq_true_eq, Course.isBound, Bool.and_eq_true] at hg
        rcases hg with hg | hg
        · exact h.granted hg
        · exact hg.2
      exact .ofGranted isReset fun hn => waiting.trans (h.waiting hn)
    · next hg =>
      simp only [Bool.or_eq_true, not_or, Bool.not_eq_true] at hg
      exact .ofAsked (fun hn => ⟨requested, skip (h.waiting hn)⟩) hg.2 fun hn =>
        waiting.trans (h.waiting hn)
  · next hs =>
    exact h.same rfl rfl rfl h.handsOn (Control.agrees_signal (Bool.eq_false_iff.mpr hs) control)

theorem endWait (h : Tracks s c control.flags) (hn : c.waitEnd = none) {flags : Flags}
    (hr : flags.resetRequested = control.flags.resetRequested)
    (hf : flags.cancelledForReset = control.flags.cancelledForReset) :
    Tracks (s.endWait flags) { c with waitEnd := some flags } flags := by
  have isReset :
      { c with waitEnd := some flags }.isReset = (c.isReset || flags.resetRequested) := by
    simp [Course.isReset, hn]
  have waited {p : Prop} (hn : { c with waitEnd := some flags }.waitEnd = none) : p := by cases hn
  cases s with
  | settled => exact .ofSettled waited
  | asked =>
    obtain ⟨requested, -⟩ := h.noted rfl hn
    by_cases hd : flags.permitsAttempt = true
    · have : Standing.endWait .asked flags = .granted := by simp [Standing.endWait, hd]
      rw [this]
      refine .ofGranted ?_ waited
      rw [isReset, hr, requested, Bool.or_true]
    · have : Standing.endWait .asked flags = .asked := by simp [Standing.endWait, hd]
      rw [this]
      refine .ofAsked waited ?_ waited
      simp [Course.isBound, Course.isDue, hd]
  | granted =>
    by_cases hc : flags.callsOff = true
    · have : Standing.endWait .granted flags = .asked := by simp [Standing.endWait, hc]
      rw [this]
      refine .ofAsked waited ?_ waited
      simp only [Flags.callsOff, Bool.and_eq_true] at hc
      simp [Course.isBound, Course.isDue, Flags.permitsAttempt, hc.2]
    · have : Standing.endWait .granted flags = .granted := by simp [Standing.endWait, hc]
      rw [this]
      refine .ofGranted ?_ waited
      rw [isReset, h.granted rfl, Bool.true_or]
  | lost =>
    obtain ⟨hl, hh, hc⟩ := h.lost rfl
    refine .ofLost ⟨?_, hh, hf.trans hc⟩ waited waited
    rw [isReset, hl, hr, h.unnoted rfl hn, Bool.or_false]

theorem endGeneration (h : Tracks s c control.flags) :
    Tracks (s.endGeneration c) { carried := c.handsOn, openJob := c.leavesOpen }
      control.flags.nextGeneration := by
  have isReset (c' : Course) (hc : c'.waitEnd = none) : c'.isReset = c'.carried := by
    simp [Course.isReset, hc]
  unfold Standing.endGeneration
  split
  · split
    · next hh =>
      exact .ofGranted (by simpa [isReset] using hh) fun _ => rfl
    · next hh =>
      have hh := Bool.eq_false_iff.mpr hh
      exact .ofLost ⟨by simpa [isReset] using hh, hh, rfl⟩ (fun _ => rfl) fun _ => rfl
  · next hs =>
    simp only [Bool.or_eq_true, decide_eq_true_eq, not_or] at hs
    refine ⟨fun h => absurd h hs.2, fun h => absurd h hs.1, fun h => absurd h hs.1, fun hl => ?_,
      fun _ _ => rfl, fun _ => rfl⟩
    have hh := h.handsOn hl
    exact ⟨by simpa [isReset] using hh, hh, rfl⟩

end Tracks

structure World.Tracked (w : World) : Prop where
  followed : ResetsFollowed w.past ↔ standing w.past = .settled
  tracks : Tracks (standing w.past) (course w.past) w.control.flags

theorem tracked_hear {w : World} (s : Signal) (hw : w.Tracked) : (w.hear s).Tracked := by
  refine ⟨?_, hw.tracks.hear s⟩
  show ResetsFollowed (.heard s w.control :: w.past) ↔ (standing w.past).hear _ s = .settled
  cases hs : s.asksReset with
  | false =>
    have skipped : (Event.heard s w.control).asksReset = false := hs
    rw [resetsFollowed_skip rfl skipped, hw.followed]
    simp [Standing.hear, hs]
  | true =>
    have asked : (Event.heard s w.control).asksReset = true := hs
    rw [resetsFollowed_cons, asked]
    simp only [Standing.hear, hs, if_true, Event.startsReset]
    split <;> simp

theorem World.Tracked.skip {w w' : World} {r : Request} {a : r.Answer} (hw : w.Tracked)
    (hp : w'.past = w.past) (hf : (Event.told r a).startsReset (course w.past) = false)
    (hs : (standing w.past).after (course w.past) (.told r a) = standing w.past)
    (ht : Tracks (standing w.past) ((course w.past).after (.told r a)) w'.control.flags) :
    (w'.note r a).Tracked := by
  have past : (w'.note r a).past = .told r a :: w.past := by rw [World.note, hp]
  have same : standing (w'.note r a).past = standing w.past := by
    rw [past]
    exact hs
  refine ⟨?_, ?_⟩
  · rw [same, ← hw.followed, past]
    exact resetsFollowed_skip hf rfl
  · rw [same, past]
    exact ht

/-- An attempt is created, and is a reset just if one was granted or none is open. -/
theorem tracked_createAttempt {w w' : World} {job : JobId} {attempt : Nat} (hw : w.Tracked)
    (hd : (course w.past).isDue) (ha : (course w.past).attempted = false)
    (hp : w'.past = w.past) (hc : w'.control = w.control) :
    (w'.note (.call (.createAttempt job)) (.ok attempt)).Tracked := by
  obtain ⟨followed, tracks⟩ := hw
  have waited : (course w.past).waitEnd ≠ none := by
    intro hn
    simp [Course.isDue, hn] at hd
  have past : (w'.note (.call (.createAttempt job)) (.ok attempt)).past =
      .told (.call (.createAttempt job)) (.ok attempt) :: w.past := by
    rw [World.note, hp]
  have control : (w'.note (.call (.createAttempt job)) (.ok attempt)).control = w.control := hc
  constructor
  · rw [past, resetsFollowed_cons, followed]
    show (course w.past).isReset = true ∨ standing w.past = .settled ∧ _ ↔
      (if standing w.past = .granted then .settled else standing w.past) = Standing.settled
    cases hs : standing w.past with
    | settled => simp [Event.asksReset]
    | granted => simp [tracks.granted hs]
    | asked =>
      have unbound := tracks.unbound hs
      simp [Course.isBound, hd, ha] at unbound
      simp [unbound]
    | lost => simp [(tracks.lost hs).1]
  · rw [past, control]
    show Tracks (if standing w.past = .granted then .settled else standing w.past)
      { course w.past with attempted := true } w.control.flags
    split
    · exact .ofSettled fun hn => absurd hn waited
    · next hg =>
      exact ⟨fun hs => absurd hs hg, fun _ hn => absurd hn waited,
        fun _ => by simp [Course.isBound], tracks.lost, fun _ hn => absurd hn waited,
        fun hn => absurd hn waited⟩

theorem Standing.endWait_eq_settled {s : Standing} {f : Flags} :
    s.endWait f = .settled ↔ s = .settled := by
  unfold Standing.endWait
  cases s <;> simp <;> split <;> simp

theorem Standing.endGeneration_eq_settled {s : Standing} {c : Course} :
    s.endGeneration c = .settled ↔ s = .settled := by
  unfold Standing.endGeneration
  cases s <;> simp <;> split <;> simp

theorem tracked_answer {m : Manager} {s : Station} {r : Request} {w w' : World} {a : r.Answer}
    (hr : s.request m = r) (hf : s.Fits (course w.past)) (hw : w.Tracked)
    (h : w.Answers m.connectionId r a w') : (w'.note r a).Tracked := by
  have tracks := hw.tracks
  cases h with
  | carried call reply jobs effect =>
    cases call with
    | createAttempt job =>
      obtain ⟨hd, ha, -⟩ := Station.fits_createAttempt hf hr
      exact tracked_createAttempt hw hd ha rfl rfl
    | jobCancelled | jobSuccess =>
      exact hw.skip rfl rfl rfl (tracks.same rfl rfl rfl (fun _ => rfl) (.refl _))
    | failJob job reason =>
      refine hw.skip rfl rfl rfl ?_
      unfold Course.after
      dsimp only
      split
      · exact tracks.same rfl rfl rfl (fun _ => rfl) (.refl _)
      · exact tracks
    | createJob isReset =>
      exact hw.skip rfl rfl rfl (tracks.same rfl rfl rfl tracks.handsOn (.refl _))
    | _ => exact hw.skip rfl rfl rfl tracks
  | failed call e =>
    refine hw.skip rfl ?_ ?_ ?_
    · cases call <;> rfl
    · cases call <;> rfl
    · rw [Course.after_failed]
      exact tracks
  | entered sec =>
    have agrees (hw : sec ≠ .endWait) (he : sec ≠ .endGeneration) :
        w.control.Agrees (sec.apply w.control) := Control.agrees_apply hw he w.control
    cases sec with
    | endWait =>
      obtain ⟨hn, -⟩ := Station.fits_endWait hf hr
      refine ⟨?_, tracks.endWait hn rfl rfl⟩
      exact (resetsFollowed_skip rfl rfl).trans (hw.followed.trans Standing.endWait_eq_settled.symm)
    | endGeneration =>
      by_cases hd : w.control.flags.deleted = true
      · refine hw.skip rfl rfl (if_pos hd) ?_
        show Tracks _ _ (Section.endGeneration.apply w.control).flags
        rw [Course.after_endGeneration_of_deleted _ hd, Section.endGeneration_of_deleted hd]
        exact tracks
      · refine ⟨(resetsFollowed_skip rfl rfl).trans (hw.followed.trans ?_), ?_⟩
        · show _ ↔ (if w.control.flags.deleted then _ else _) = Standing.settled
          rw [if_neg hd]
          exact Standing.endGeneration_eq_settled.symm
        · show Tracks (if w.control.flags.deleted then _ else _) ((course w.past).after _)
            (Section.endGeneration.apply w.control).flags
          rw [if_neg hd, Course.after_endGeneration _ hd, Section.endGeneration_flags hd]
          exact tracks.endGeneration
    | look =>
      refine hw.skip rfl rfl rfl ?_
      unfold Course.after
      dsimp only
      split
      · exact tracks.same rfl rfl rfl (fun hs => (tracks.lost hs).2.2) (.refl _)
      · exact tracks
    | recordFailure =>
      exact hw.skip rfl rfl rfl (tracks.same rfl rfl rfl tracks.carried
        (agrees (by simp) (by simp)))
    | releaseAttempt | registerAttempt | recordSuccess | beginGeneration =>
      exact hw.skip rfl rfl rfl (tracks.same rfl rfl rfl tracks.handsOn
        (agrees (by simp) (by simp)))
  | waited span purpose =>
    cases purpose with
    | schedule => exact hw.skip rfl rfl rfl tracks
    | recovery => exact hw.skip rfl rfl rfl (tracks.same rfl rfl rfl (fun _ => rfl) (.refl _))
  | _ => exact hw.skip rfl rfl rfl tracks

theorem kept_tracked (m : Manager) : Kept m fun spot w => spot.Fits (course w.past) ∧ w.Tracked :=
  .worldly tracked_hear tracked_answer

theorem tracked_first (m : Manager) (rows : List Job) : (Moment.first m rows).world.Tracked where
  followed := by
    refine iff_of_true (fun after s found before hp _ => ?_) rfl
    cases after <;> cases hp
  tracks := .ofSettled fun _ => rfl

theorem tracked_of_reachable {m : Manager} {a : Moment} (h : a.Reachable m) :
    a.Has m fun spot w => spot.Fits (course w.past) ∧ w.Tracked :=
  (kept_tracked m).reachable_worldly (tracked_first m) h

/-- While a manager is parked until the next run, every reset that was asked for was followed by an
attempt that is a reset, unless one was lost, or was granted and then put off. -/
theorem resetsFollowed_iff {m : Manager} {a : Moment} {span : Duration} (h : a.Reachable m)
    (ha : a.Asks (.wait span .schedule)) (hp : a.world.control.flags.interruptsWait = false) :
    ResetsFollowed a.world.past ↔
      standing a.world.past ≠ .lost ∧ standing a.world.past ≠ .granted := by
  obtain ⟨s, hs, fits, hw⟩ := (tracked_of_reachable h).station ha
  have waits : (course a.world.past).waitEnd = none := Station.fits_wait fits hs
  rw [hw.followed]
  cases hst : standing a.world.past with
  | settled => simp
  | granted => simp
  | lost => simp
  | asked =>
    obtain ⟨-, skip⟩ := hw.tracks.noted hst waits
    simp [Flags.interruptsWait, skip] at hp

/-! ### A reset during an attempt that succeeds -/

/-- A reset is asked for while the first attempt is executed, which succeeds all the same. -/
def Moment.lostReset : Moment :=
  .replay .sample [.serve .cancelled 14, .hear .reset, .serve (.succeeded ⟨0, none⟩) 10]

theorem reachable_lostReset : Moment.lostReset.Reachable .sample :=
  Moment.reachable_replay .sample _

theorem lostReset_waits : Moment.lostReset.Asks (.wait .zero .schedule) :=
  Moment.asks_of_request? (by decide +kernel)

theorem lostReset_unfollowed : ¬ ResetsFollowed Moment.lostReset.world.past := by
  rw [resetsFollowed_iff reachable_lostReset lostReset_waits (by decide +kernel)]
  decide +kernel

/-- A reset is lost, although no generation is given up. -/
theorem reset_lost : ∃ (m : Manager) (a : Moment) (span : Duration), a.Reachable m ∧
    (∀ e ∈ a.world.past, e.givesUp = false) ∧ a.Asks (.wait span .schedule) ∧
    a.world.control.flags.interruptsWait = false ∧ ¬ ResetsFollowed a.world.past := by
  have lost : standing Moment.lostReset.world.past = .lost := by decide +kernel
  obtain ⟨s, -, -, hw⟩ := (tracked_of_reachable reachable_lostReset).station lostReset_waits
  refine ⟨.sample, .lostReset, .zero, reachable_lostReset, by decide +kernel, lostReset_waits,
    by decide +kernel, fun h => ?_⟩
  cases lost.symm.trans (hw.followed.mp h)

end ConnectorSync.Sync
