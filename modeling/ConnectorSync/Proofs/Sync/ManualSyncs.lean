import ConnectorSync.Proofs.Sync.Control
import ConnectorSync.Proofs.Sync.Fitting
import ConnectorSync.Proofs.Sync.Replay

/-!
# Requests for a manual sync

What becomes of the manual syncs that are accepted. The attempt of the generation meets them if one
is due when the wait for the schedule ends; a generation whose wait ends for something else, or that
is given up before its attempt, drops them.
-/

namespace ConnectorSync.Sync

/-- Whether an event is a manual sync that is not ignored. -/
def Event.asksSync : Event → Bool
  | .heard .manualSync found => !found.flags.running
  | _ => false

def Event.startsAttempt : Event → Bool
  | .told (.call (.createAttempt _)) (.ok _) => true
  | _ => false

/-- Every manual sync that was not ignored was followed by the creation of an attempt. -/
def SyncsFollowed (past : List Event) : Prop :=
  ∀ after e before, past = after ++ e :: before → e.asksSync → ∃ e' ∈ after, e'.startsAttempt

/-- What has become of the manual syncs that were not ignored. -/
inductive Demand
  /-- All of them were followed by an attempt. -/
  | met
  /-- One is to be met by the attempt of the generation in progress. -/
  | raised
  /-- The generation of one ended its wait without an attempt being due, or was given up, and no
  attempt was created since. -/
  | dropped
  deriving DecidableEq

def Course.awaits (c : Course) : Bool := c.waitEnd.isNone && c.report.isNone

namespace Demand

def hear (c : Course) (d : Demand) : Demand :=
  if d ≠ dropped && c.awaits then raised else dropped

def endWait (d : Demand) (f : Flags) : Demand :=
  if d = raised && !f.permitsAttempt then dropped else d

def giveUp (d : Demand) : Demand := if d = raised then dropped else d

def after (c : Course) (d : Demand) (e : Event) : Demand :=
  if e.asksSync then d.hear c
  else if e.startsAttempt then met
  else match e with
    | .told (.enter .endWait) (_, control) => d.endWait control.flags
    | .told (.wait _ .recovery) _ => d.giveUp
    | _ => d

end Demand

/-- What has become of the manual syncs that were not ignored. -/
def syncDemand : List Event → Demand
  | [] => .met
  | e :: past => (syncDemand past).after (course past) e

/-! ### Following -/

theorem syncsFollowed_nil : SyncsFollowed [] := by
  intro after e before split
  simp at split

theorem syncsFollowed_cons {e : Event} {past : List Event} : SyncsFollowed (e :: past) ↔
    e.asksSync = false ∧ (e.startsAttempt ∨ SyncsFollowed past) := by
  constructor
  · intro h
    refine ⟨?_, ?_⟩
    · refine Bool.eq_false_iff.2 fun asks => ?_
      obtain ⟨e', mem, -⟩ := h [] e past rfl asks
      cases mem
    · by_cases starts : e.startsAttempt
      · exact .inl starts
      refine .inr fun after e' before split asks => ?_
      obtain ⟨e'', mem, starts'⟩ := h (e :: after) e' before (by rw [split]; rfl) asks
      rcases List.mem_cons.1 mem with rfl | mem
      · exact absurd starts' starts
      · exact ⟨e'', mem, starts'⟩
  · rintro ⟨ignored, h⟩ after e' before split asks
    cases after with
    | nil =>
      cases split
      simp [ignored] at asks
    | cons e'' after =>
      cases split
      rcases h with starts | h
      · exact ⟨e, List.mem_cons_self, starts⟩
      · obtain ⟨e'', mem, starts⟩ := h after e' before rfl asks
        exact ⟨e'', List.mem_cons_of_mem _ mem, starts⟩

theorem Demand.hear_ne_met {c : Course} {d : Demand} : d.hear c ≠ .met := by
  unfold hear
  split <;> simp

theorem Demand.endWait_eq_met {d : Demand} {f : Flags} : d.endWait f = .met ↔ d = .met := by
  unfold endWait
  cases d <;> simp
  split <;> simp

theorem Demand.giveUp_eq_met {d : Demand} : d.giveUp = .met ↔ d = .met := by
  unfold giveUp
  cases d <;> simp

theorem Demand.after_eq_met {c : Course} {d : Demand} {e : Event} :
    d.after c e = .met ↔ e.asksSync = false ∧ (e.startsAttempt ∨ d = .met) := by
  unfold after
  by_cases asks : e.asksSync
  · simp [asks, hear_ne_met]
  by_cases starts : e.startsAttempt
  · simp [asks, starts]
  rw [if_neg asks, if_neg starts]
  have same : (match e with
      | .told (.enter .endWait) (_, control) => d.endWait control.flags
      | .told (.wait _ .recovery) _ => d.giveUp
      | _ => d) = .met ↔ d = .met := by
    split
    · exact endWait_eq_met
    · exact giveUp_eq_met
    · exact .rfl
  simp [asks, starts, same]

/-- The manual syncs were followed just if the demand is met. -/
theorem syncsFollowed_iff_met (past : List Event) :
    SyncsFollowed past ↔ syncDemand past = .met := by
  induction past with
  | nil => exact iff_of_true syncsFollowed_nil rfl
  | cons e past ih => rw [syncsFollowed_cons, ih, syncDemand, Demand.after_eq_met]

/-! ### Steps -/

/-- A demand that is raised ends the wait for the schedule, or an attempt is due and not created
yet. -/
def Course.Pledges (c : Course) (flags : Flags) : Prop :=
  c.report = none ∧
    (c.waitEnd = none ∧ flags.skipScheduling = true ∨ c.isDue ∧ c.attempted = false)

def World.Pledges (w : World) : Prop :=
  syncDemand w.past = .raised → (course w.past).Pledges w.control.flags

theorem Course.Tried.not_pledges {c : Course} {flags : Flags} (h : c.Tried) :
    ¬ c.Pledges flags := by
  rintro ⟨-, ⟨none, -⟩ | ⟨due, unattempted⟩⟩
  · have waited := h.waited
    simp [none] at waited
  · have attempted := h.attempted due
    simp [unattempted] at attempted

theorem Course.Ends.not_pledges {c : Course} {flags : Flags} (h : c.Ends) :
    ¬ c.Pledges flags := by
  rintro ⟨unreported, pledge⟩
  simp only [Ends, unreported] at h
  obtain ⟨waited, undue, -⟩ := h
  rcases pledge with ⟨none, -⟩ | ⟨due, -⟩
  · simp [none] at waited
  · simp [undue] at due

theorem Control.skipScheduling_apply {c : Control} {s : Section} (notEndWait : s ≠ .endWait)
    (notEnd : s ≠ .endGeneration) (h : c.flags.skipScheduling = true) :
    (s.apply c).flags.skipScheduling = true := by
  cases s with
  | endWait => exact absurd rfl notEndWait
  | endGeneration => exact absurd rfl notEnd
  | _ => simp [Section.apply, h]

theorem Demand.of_hear {c : Course} {d : Demand} (h : d.hear c = .raised) : c.awaits := by
  unfold hear at h
  split at h
  · next both => exact (Bool.and_eq_true_iff.1 both).2
  · cases h

theorem World.Pledges.hear {w : World} (s : Signal) (h : w.Pledges) : (w.hear s).Pledges := by
  intro raised
  by_cases asks : (Event.heard s w.control).asksSync
  · obtain rfl : s = .manualSync := by
      cases s <;> first | rfl | cases asks
    have ignoredNot : w.control.flags.running = false := by simpa [Event.asksSync] using asks
    have awaits : (course w.past).awaits := by
      refine Demand.of_hear (d := syncDemand w.past) ?_
      rw [← raised]
      exact (if_pos asks).symm
    simp only [Course.awaits, Bool.and_eq_true, Option.isNone_iff_eq_none] at awaits
    refine ⟨awaits.2, .inl ⟨awaits.1, ?_⟩⟩
    simp [World.hear, Control.signal, ignoredNot]
  · have same : syncDemand (w.hear s).past = syncDemand w.past := by
      show (syncDemand w.past).after _ (.heard s w.control) = _
      unfold Demand.after
      rw [if_neg asks]
      rfl
    obtain ⟨unreported, pledge⟩ := h (same ▸ raised)
    have heard := w.control.hears_signal s
    exact ⟨unreported, pledge.imp_left (And.imp_right heard.skipScheduling)⟩

theorem Demand.raised_of_told {c : Course} {d : Demand} {r : Request} {a : r.Answer}
    (h : d.after c (.told r a) = .raised) : d = .raised := by
  unfold after at h
  rw [if_neg (by simp [Event.asksSync])] at h
  split at h
  · cases h
  split at h
  · unfold endWait at h
    split at h
    · cases h
    · exact h
  · unfold giveUp at h
    split at h
    · cases h
    · exact h
  · exact h

theorem Demand.permits_of_endWait {c : Course} {d : Demand} {before control : Control}
    (h : d.after c (.told (.enter .endWait) (before, control)) = .raised) :
    control.flags.permitsAttempt := by
  have raised := raised_of_told h
  have same : d.after c (.told (.enter .endWait) (before, control)) = d.endWait control.flags := rfl
  rw [same, raised] at h
  by_cases permits : control.flags.permitsAttempt
  · exact permits
  · simp [endWait, permits] at h

namespace Station

variable {m : Manager} {c : Course} {s : Station}

theorem tried_of_closes {call : Call} {job : JobId} {attempt : Nat} (h : s.Fits c)
    (hr : s.request m = .call call)
    (closes : (∃ summary, call = .jobCancelled job attempt summary) ∨
      ∃ output, call = .jobSuccess job attempt output) : c.Tried := by
  cases s with
  | calling task left failed =>
    cases hr
    cases task with
    | succeed | cancelJob => exact h.toTried
    | _ => rcases closes with ⟨summary, same⟩ | ⟨output, same⟩ <;> cases same
  | _ => rcases closes with ⟨summary, rfl⟩ | ⟨output, rfl⟩ <;> cases hr

theorem tried_of_recordFailure (h : s.Fits c) (hr : s.request m = .enter .recordFailure) :
    c.Tried := by
  cases s with
  | recordingFailure => exact h.tried
  | _ => cases hr

theorem waits_of_endsWait (h : s.Fits c) (hr : s.request m = .enter .endWait) :
    c.report = none ∧ c.attempted = false := by
  cases s with
  | endingWait input => exact ⟨h.report, h.attempted⟩
  | _ => cases hr

theorem ends_of_endGeneration (h : s.Fits c) (hr : s.request m = .enter .endGeneration) :
    c.Ends := by
  cases s with
  | ending input => exact h.2.2
  | _ => cases hr

end Station

theorem Course.Pledges.same {c c' : Course} {flags flags' : Flags} (h : c.Pledges flags)
    (report : c'.report = c.report) (waitEnd : c'.waitEnd = c.waitEnd)
    (attempted : c'.attempted = c.attempted)
    (skip : flags.skipScheduling = true → flags'.skipScheduling = true) : c'.Pledges flags' := by
  have isDue : c'.isDue = c.isDue := by simp only [isDue, waitEnd]
  obtain ⟨unreported, pledge⟩ := h
  refine ⟨report.trans unreported, ?_⟩
  rw [waitEnd, isDue, attempted]
  exact pledge.imp_left (And.imp_right skip)

theorem pledges_carried {m : Manager} {s : Station} {c : Course} {flags : Flags} {call : Call}
    {reply : call.Reply} (fits : s.Fits c) (hr : s.request m = .call call)
    (other : (Event.told (.call call) (.ok reply)).startsAttempt = false) (h : c.Pledges flags) :
    (c.after (.told (.call call) (.ok reply))).Pledges flags := by
  cases call with
  | createAttempt => cases other
  | createJob => exact h.same rfl rfl rfl id
  | jobCancelled job attempt summary =>
    exact absurd h (Station.tried_of_closes fits hr (.inl ⟨summary, rfl⟩)).not_pledges
  | jobSuccess job attempt output =>
    exact absurd h (Station.tried_of_closes fits hr (.inr ⟨output, rfl⟩)).not_pledges
  | failJob job reason =>
    have unkept : c.report ≠ some .kept := by simp [h.1]
    rw [Course.after, if_neg unkept]
    exact h
  | _ => exact h

theorem pledges_entered {m : Manager} {s : Station} {c : Course} {d : Demand} {sec : Section}
    {control : Control} (fits : s.Fits c) (hr : s.request m = .enter sec)
    (raised : d.after c (.told (.enter sec) (control, sec.apply control)) = .raised)
    (h : c.Pledges control.flags) :
    (c.after (.told (.enter sec) (control, sec.apply control))).Pledges
      (sec.apply control).flags := by
  cases sec with
  | endWait =>
    obtain ⟨unreported, unattempted⟩ := Station.waits_of_endsWait fits hr
    exact ⟨unreported, .inr ⟨Demand.permits_of_endWait raised, unattempted⟩⟩
  | endGeneration => exact absurd h (Station.ends_of_endGeneration fits hr).not_pledges
  | recordFailure => exact absurd h (Station.tried_of_recordFailure fits hr).not_pledges
  | look =>
    have unreported := h.1
    simp only [Course.after, unreported]
    exact h
  | releaseAttempt | registerAttempt | recordSuccess | beginGeneration =>
    exact h.same rfl rfl rfl (Control.skipScheduling_apply (by simp) (by simp))

theorem pledges_answer {m : Manager} {s : Station} {r : Request} {w w' : World} {a : r.Answer}
    (hr : s.request m = r) (fits : s.Fits (course w.past)) (h : w.Pledges)
    (answers : w.Answers m.connectionId r a w') : (w'.note r a).Pledges := by
  intro later
  have raised : (syncDemand w.past).after (course w.past) (.told r a) = .raised := by
    rw [← answers.past]
    exact later
  have pledges := h (Demand.raised_of_told raised)
  show ((course w'.past).after (.told r a)).Pledges w'.control.flags
  rw [answers.past]
  cases answers with
  | carried call reply jobs effect =>
    refine pledges_carried fits hr (Bool.eq_false_iff.2 fun starts => ?_) pledges
    unfold Demand.after at raised
    rw [if_neg (by simp [Event.asksSync]), if_pos starts] at raised
    cases raised
  | failed call e =>
    rw [Course.after_failed]
    exact pledges
  | entered sec => exact pledges_entered fits hr raised pledges
  | waited span purpose =>
    cases purpose with
    | schedule => exact pledges
    | recovery =>
      have before := Demand.raised_of_told raised
      have now : (syncDemand w.past).giveUp = .raised := raised
      rw [before] at now
      cases now
  | checked | executed | paused | timed => exact pledges

theorem kept_pledges (m : Manager) :
    Kept m fun spot w => spot.Fits (course w.past) ∧ w.Pledges :=
  .worldly (fun s h => h.hear s) pledges_answer

theorem pledges_first (m : Manager) (rows : List Job) : (Moment.first m rows).world.Pledges :=
  nofun

/-- While a manager is parked until the next run, every manual sync that was not ignored was
followed by an attempt, unless one was dropped: the wait of its generation ended for an update or a
cancellation, or its generation was given up, and no attempt was created since. -/
theorem syncsFollowed_iff {m : Manager} {a : Moment} {span : Duration} (h : a.Reachable m)
    (parked : a.Asks (.wait span .schedule))
    (quiet : a.world.control.flags.interruptsWait = false) :
    SyncsFollowed a.world.past ↔ syncDemand a.world.past ≠ .dropped := by
  obtain ⟨s, hr, fits, pledges⟩ :=
    ((kept_pledges m).reachable_worldly (pledges_first m) h).station parked
  have waiting : (course a.world.past).waitEnd = none := Station.fits_wait fits hr
  rw [syncsFollowed_iff_met]
  cases standing : syncDemand a.world.past with
  | met => simp
  | dropped => simp
  | raised =>
    -- its flag would interrupt the wait, and no attempt is due before the wait has ended
    obtain ⟨-, ⟨-, skip⟩ | ⟨due, -⟩⟩ := pledges standing
    · simp [Flags.interruptsWait, skip] at quiet
    · have waited := Course.waited_of_isDue due
      simp [waiting] at waited

/-! ### A manual sync and an update before a wait -/

/-- A manual sync and an update come while the next run is looked up. -/
def Moment.droppedSync : Moment :=
  .replay .sample [.serve .cancelled 4, .hear .manualSync, .hear .updated, .serve .cancelled 9]

/-- The same, with another manual sync once the manager is parked. -/
def Moment.repeatedSync : Moment :=
  .replay .sample [.serve .cancelled 4, .hear .manualSync, .hear .updated, .serve .cancelled 9,
    .hear .manualSync, .serve (.succeeded ⟨0, none⟩) 19]

theorem droppedSync_waits : Moment.droppedSync.Asks (.wait .zero .schedule) :=
  Moment.asks_of_request? (by decide +kernel)

theorem repeatedSync_waits : Moment.repeatedSync.Asks (.wait .zero .schedule) :=
  Moment.asks_of_request? (by decide +kernel)

theorem repeatedSync_followed : SyncsFollowed Moment.repeatedSync.world.past := by
  have reachable : Moment.repeatedSync.Reachable .sample := Moment.reachable_replay .sample _
  rw [syncsFollowed_iff reachable repeatedSync_waits (by decide +kernel)]
  decide +kernel

/-- A manual sync is dropped, although no generation is given up. -/
theorem sync_dropped : ∃ (m : Manager) (a : Moment) (span : Duration), a.Reachable m ∧
    (∀ e ∈ a.world.past, e.givesUp = false) ∧ a.Asks (.wait span .schedule) ∧
    a.world.control.flags.interruptsWait = false ∧ ¬ SyncsFollowed a.world.past := by
  refine ⟨.sample, .droppedSync, .zero, Moment.reachable_replay .sample _, by decide +kernel,
    droppedSync_waits, by decide +kernel, ?_⟩
  rw [syncsFollowed_iff_met]
  decide +kernel

end ConnectorSync.Sync
