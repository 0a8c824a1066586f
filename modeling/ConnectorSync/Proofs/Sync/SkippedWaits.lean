import ConnectorSync.Proofs.Sync.AttemptKind
import ConnectorSync.Proofs.Sync.Cancellation

/-!
# Requests to skip a wait

A request to reset a connection and to skip the wait after that is good for one generation, the next
one. It reaches the sync after the reset just if the reset succeeds in the generation in which it
was asked for. If the reset is a generation of its own, or is attempted again, it is spent on that.
-/

namespace ConnectorSync.Sync

def Event.isSignal : Event → Bool
  | .heard .. => true
  | .told .. => false

/-- The generation in progress is the next one after a job succeeded, and the last signal was a
request to reset the connection and to skip the wait after that, with what happened between it and
the success. -/
def FollowsReset (past : List Event) (job : JobId) (middle : List Event) : Prop :=
  ∃ later attempt output found earlier,
    past = later ++ .told (.call (.jobSuccess job attempt output)) (.ok ()) ::
      (middle ++ .heard .resetAndSkipSchedule found :: earlier) ∧
    later.countP Event.endsGeneration = 1 ∧ ∀ e ∈ later ++ middle, e.isSignal = false

/-- Whether the wait of a generation is to be skipped that follows a success, as long as no signal
has come since. -/
inductive Outset
  | unknown
  | due (skip : Bool)
  | taken (skip : Bool)
  deriving DecidableEq

structure Skips where
  /-- Whether one came in the generation in progress. -/
  asked : Bool := false
  succeeded : Bool := false
  outset : Outset := .unknown
  deriving DecidableEq

namespace Skips

def hear (k : Skips) (s : Signal) : Skips :=
  { k with asked := k.asked || s = .resetAndSkipSchedule, outset := .unknown }

def begin (k : Skips) : Skips :=
  match k.outset with
  | .due skip => { k with outset := .taken skip }
  | _ => k

def finish (k : Skips) : Skips :=
  { outset := if k.succeeded then .due k.asked else .unknown }

def after (k : Skips) (e : Event) : Skips :=
  match e with
  | .heard s _ => k.hear s
  | .told (.enter (.beginGeneration ..)) _ => k.begin
  | .told (.call (.jobSuccess ..)) (.ok _) => { k with succeeded := true }
  | .told (.enter .endGeneration) (before, _) => if before.flags.deleted then k else k.finish
  | _ => k

end Skips

def skips : List Event → Skips
  | [] => {}
  | e :: past => (skips past).after e

/-! ### What the past tells -/

namespace Skips

variable {k : Skips} {e : Event} {past later middle : List Event}

theorem begin_asked (k : Skips) : k.begin.asked = k.asked := by
  unfold begin
  split <;> rfl

theorem begin_succeeded (k : Skips) : k.begin.succeeded = k.succeeded := by
  unfold begin
  split <;> rfl

theorem after_of_ends (ends : e.endsGeneration = true) : k.after e = k.finish := by
  unfold Event.endsGeneration at ends
  split at ends
  · exact if_neg (by simpa using ends)
  · cases ends

theorem after_of_goesOn (quiet : e.isSignal = false) (goesOn : e.endsGeneration = false) :
    (k.after e).asked = k.asked ∧ (k.succeeded = true → (k.after e).succeeded = true) := by
  unfold after
  split
  · cases quiet
  · exact ⟨k.begin_asked, fun h => k.begin_succeeded.trans h⟩
  · exact ⟨rfl, fun _ => rfl⟩
  · rw [if_pos (by simpa [Event.endsGeneration] using goesOn)]
    exact ⟨rfl, id⟩
  · exact ⟨rfl, id⟩

/-- A request that no other signal follows stands until the generation ends. -/
theorem asked_append (quiet : ∀ e ∈ middle, e.isSignal = false) :
    (skips (middle ++ past)).asked =
      ((skips past).asked && middle.all fun e => !e.endsGeneration) := by
  induction middle with
  | nil => simp
  | cons e middle ih =>
    have before := ih fun e' mem => quiet e' (List.mem_cons_of_mem _ mem)
    rw [List.cons_append, skips, List.all_cons]
    cases ends : e.endsGeneration with
    | true =>
      rw [after_of_ends ends]
      simp [finish]
    | false =>
      rw [(after_of_goesOn (quiet e List.mem_cons_self) ends).1, before]
      simp

theorem succeeded_append (quiet : ∀ e ∈ later, e.isSignal = false)
    (goesOn : ∀ e ∈ later, e.endsGeneration = false) (succeeded : (skips past).succeeded = true) :
    (skips (later ++ past)).succeeded = true := by
  induction later with
  | nil => exact succeeded
  | cons e later ih =>
    have before := ih (fun e' mem => quiet e' (List.mem_cons_of_mem _ mem))
      fun e' mem => goesOn e' (List.mem_cons_of_mem _ mem)
    exact (after_of_goesOn (quiet e List.mem_cons_self) (goesOn e List.mem_cons_self)).2 before

def Leads (k : Skips) (skip : Bool) : Prop := k.outset = .due skip ∨ k.outset = .taken skip

theorem Leads.after {skip : Bool} (h : k.Leads skip) (quiet : e.isSignal = false)
    (goesOn : e.endsGeneration = false) : (k.after e).Leads skip := by
  unfold Skips.after
  split
  · cases quiet
  · rcases h with due | taken
    · exact .inr (by simp [begin, due])
    · exact .inr (by simp [begin, taken])
  · exact h
  · rw [if_pos (by simpa [Event.endsGeneration] using goesOn)]
    exact h
  · exact h

theorem leads_append (quiet : ∀ e ∈ later, e.isSignal = false)
    (once : later.countP Event.endsGeneration = 1) (succeeded : (skips past).succeeded = true) :
    (skips (later ++ past)).Leads (skips past).asked := by
  induction later with
  | nil => cases once
  | cons e later ih =>
    have quiet' (e' : Event) (mem : e' ∈ later) : e'.isSignal = false :=
      quiet e' (List.mem_cons_of_mem _ mem)
    rw [List.cons_append, skips]
    cases ends : e.endsGeneration with
    | true =>
      rw [List.countP_cons_of_pos ends] at once
      have goesOn (e' : Event) (mem : e' ∈ later) : e'.endsGeneration = false := by
        have none := List.countP_eq_zero.1 (Nat.succ.inj once) e' mem
        exact Bool.eq_false_iff.2 none
      have asked : (skips (later ++ past)).asked = (skips past).asked := by
        rw [asked_append quiet', List.all_eq_true.2 fun e' mem => by simp [goesOn e' mem],
          Bool.and_true]
      rw [after_of_ends ends]
      refine .inl ?_
      rw [finish, if_pos (succeeded_append quiet' goesOn succeeded), asked]
    | false =>
      rw [List.countP_cons_of_neg (by simp [ends])] at once
      exact (ih quiet' once).after (quiet e List.mem_cons_self) ends

theorem leads_of_followsReset {job : JobId} (h : FollowsReset past job middle) :
    (skips past).Leads (middle.all fun e => !e.endsGeneration) := by
  obtain ⟨later, attempt, output, found, earlier, rfl, once, quiet⟩ := h
  have asked : (skips (.told (.call (.jobSuccess job attempt output)) (.ok ()) ::
      (middle ++ .heard .resetAndSkipSchedule found :: earlier))).asked =
      middle.all fun e => !e.endsGeneration := by
    have request : (skips (.heard .resetAndSkipSchedule found :: earlier)).asked = true := by
      simp [skips, Skips.after, hear]
    have stands : (skips (middle ++ .heard .resetAndSkipSchedule found :: earlier)).asked =
        (true && middle.all fun e => !e.endsGeneration) := by
      rw [← request]
      exact asked_append fun e mem => quiet e (List.mem_append_right later mem)
    exact stands
  rw [← asked]
  exact leads_append (fun e mem => quiet e (List.mem_append_left middle mem)) once rfl

end Skips

/-! ### Ways on -/

def Spot.hasBegun : Spot → Bool
  | .between _ | .at (.beginning _) => false
  | _ => true

namespace Station

variable {m : Manager} {input : RunInput} {budget : Option RetryBudget}

theorem cleaning_hasBegun (jobs : List JobId) : (cleaning m input jobs : Spot).hasBegun := by
  cases jobs <;> rfl

theorem failingStale_hasBegun (job : JobId) (jobs : List JobId) (attempts : List Nat) :
    (failingStale m input job jobs attempts : Spot).hasBegun := by
  cases attempts <;> rfl

theorem leaving_hasBegun (last : Bool) : (leaving last input).hasBegun := by
  cases last <;> rfl

theorem cancelling_hasBegun (failures : List FailureReason) (partialSuccess : Option Bool)
    (last : Bool) : (cancelling input failures partialSuccess last).hasBegun := by
  unfold cancelling
  split
  · exact leaving_hasBegun last
  · rfl

theorem checkingSides_hasBegun (context : AttemptContext) (sides : List Side) :
    (checkingSides input budget context sides : Spot).hasBegun := by
  cases sides <;> rfl

theorem reporting_hasBegun (context : AttemptContext) (flags : Flags) (outcome : AttemptOutcome) :
    (reporting m input budget context flags outcome).hasBegun := by
  cases outcome with
  | succeeded output => rfl
  | cancelled => exact cancelling_hasBegun ..
  | failed failures partialSuccess =>
    simp only [reporting]
    split
    · exact cancelling_hasBegun ..
    · unfold failing
      split <;> rfl

theorem carried_hasBegun (task : Task) (reply : task.call.Reply) :
    (carried m task reply).hasBegun := by
  cases task with
  | listStale | failStaleJob => exact cleaning_hasBegun _
  | getStale | failStaleAttempt => exact failingStale_hasBegun ..
  | lastFailure => exact checkingSides_hasBegun ..
  | succeed input budget context output => cases budget <;> rfl
  | failAttempt input budget job madeProgress summary => cases budget <;> rfl
  | _ => rfl

theorem next_hasBegun (s : Station) (a : (s.request m).Answer)
    (notEnding : ∀ input, s ≠ ending input) : (s.next m a).hasBegun := by
  cases s with
  | beginning input =>
    simp only [next]
    split <;> rfl
  | calling task left failed =>
    cases a with
    | ok reply => exact carried_hasBegun task reply
    | error error =>
      cases left with
      | zero => cases task <;> rfl
      | succ left => rfl
  | endingWait input =>
    obtain ⟨before, control⟩ := a
    simp only [next]
    split
    · exact cancelling_hasBegun ..
    split
    · rfl
    split
    · exact cancelling_hasBegun ..
    · rfl
  | hydratingAttempt input isReset =>
    simp only [next, opening]
    split <;> rfl
  | looking input budget context =>
    obtain ⟨control, _⟩ := a
    simp only [next]
    split <;> rfl
  | checking input budget context side sides =>
    rcases a with error | (_ | reason | _)
    · rfl
    · exact checkingSides_hasBegun ..
    · rfl
    · rfl
  | executing input budget context => cases a <;> rfl
  | releasing input budget context outcome =>
    cases outcome with
    | ok outcome => exact reporting_hasBegun ..
    | error failure => rfl
  | lookingBack last => exact leaving_hasBegun last
  | recordingFailure input job summary withinLimits =>
    simp only [next]
    split <;> rfl
  | recovering input failure =>
    simp only [next]
    split <;> rfl
  | ending input => exact absurd rfl (notEnding input)
  | _ => rfl

end Station

def Request.isInner : Request → Bool
  | .enter (.beginGeneration ..) | .enter .endGeneration => false
  | _ => true

theorem Station.request_isInner {m : Manager} {s : Station} (begun : (s : Spot).hasBegun)
    (notEnding : ∀ input, s ≠ ending input) : (s.request m).isInner := by
  cases s with
  | beginning input => cases begun
  | ending input => exact absurd rfl (notEnding input)
  | _ => rfl

def Spot.SetsOut (skip : Bool) : Spot → Prop
  | .between input | .at (.beginning input) => input.skipScheduling = skip
  | _ => False

def Spot.Closes : Spot → Prop
  | .at (.persistingSuccess ..) | .at .recordingSuccess | .stopped => True
  | .at (.ending input) => input.skipScheduling = false
  | _ => False

/-- A generation goes on as it was begun after a success, since no signal has come. -/
structure Course.Undisturbed (c : Course) (flags : Flags) (skip : Bool) : Prop where
  carried : c.carried = false
  openJob : c.openJob = none
  permits : flags.permitsAttempt
  unrequested : flags.resetRequested = false
  skips : c.waitEnd = none → flags.skipScheduling = skip
  waited : ∀ f, c.waitEnd = some f → f.permitsAttempt ∧ f.resetRequested = false

structure Skips.Stands (k : Skips) (spot : Spot) (c : Course) (flags : Flags) : Prop where
  asked : flags.skipSchedulingNext = k.asked
  succeeded : k.succeeded = true → spot.Closes ∧ c.report = some .succeeded
  due : ∀ skip, k.outset = .due skip → spot.SetsOut skip ∧ c.Undisturbed flags false
  taken : ∀ skip, k.outset = .taken skip → spot.hasBegun ∧ c.Undisturbed flags skip

/-! ### Steps -/

theorem Course.Undisturbed.same {c c' : Course} {flags flags' : Flags} {skip : Bool}
    (h : c.Undisturbed flags skip) (carried : c'.carried = c.carried)
    (openJob : c'.openJob = c.openJob) (waitEnd : c'.waitEnd = c.waitEnd)
    (permits : flags'.permitsAttempt = flags.permitsAttempt)
    (requested : flags'.resetRequested = flags.resetRequested)
    (skips : flags'.skipScheduling = flags.skipScheduling) : c'.Undisturbed flags' skip where
  carried := carried.trans h.carried
  openJob := openJob.trans h.openJob
  permits := permits.trans h.permits
  unrequested := requested.trans h.unrequested
  skips waiting := skips.trans (h.skips (waitEnd.symm.trans waiting))
  waited f ended := h.waited f (waitEnd.symm.trans ended)

theorem Course.Undisturbed.not_deleted {c : Course} {flags : Flags} {skip : Bool}
    (h : c.Undisturbed flags skip) : ¬ flags.deleted = true := by
  intro deleted
  have permits := h.permits
  simp [Flags.permitsAttempt, deleted] at permits

theorem Course.Undisturbed.endWait {c : Course} {control : Control} {skip : Bool}
    (h : c.Undisturbed control.flags skip) :
    (c.after (.told (.enter .endWait) (control, Section.endWait.apply control))).Undisturbed
      (Section.endWait.apply control).flags skip where
  carried := h.carried
  openJob := h.openJob
  permits := h.permits
  unrequested := h.unrequested
  skips waiting := by cases waiting
  waited f ended := by
    cases ended
    exact ⟨h.permits, h.unrequested⟩

theorem Skips.after_inner {k : Skips} {r : Request} {a : r.Answer} (inner : r.isInner) :
    (k.after (.told r a)).asked = k.asked ∧ (k.after (.told r a)).outset = k.outset := by
  unfold after
  split
  · next same =>
    cases same
  · next same =>
    cases same
    cases inner
  · exact ⟨rfl, rfl⟩
  · next same =>
    cases same
    cases inner
  · exact ⟨rfl, rfl⟩

theorem skipSchedulingNext_answer {m : Manager} {r : Request} {w w' : World} {a : r.Answer}
    (answers : w.Answers m.connectionId r a w') (notEnd : r ≠ .enter .endGeneration) :
    w'.control.flags.skipSchedulingNext = w.control.flags.skipSchedulingNext := by
  cases answers with
  | entered sec =>
    cases sec with
    | endGeneration => exact absurd rfl notEnd
    | _ => rfl
  | _ => rfl

theorem undisturbed_answer {m : Manager} {r : Request} {w w' : World} {a : r.Answer} {skip : Bool}
    (h : (course w.past).Undisturbed w.control.flags skip)
    (inner : r.isInner)
    (answers : w.Answers m.connectionId r a w') :
    ((course w.past).after (.told r a)).Undisturbed w'.control.flags skip := by
  cases answers with
  | carried call reply jobs effect =>
    cases call with
    | failJob job reason =>
      obtain ⟨report, after⟩ := (course w.past).after_failJob job reason
      rw [after]
      exact h.same rfl rfl rfl rfl rfl rfl
    | _ => exact h.same rfl rfl rfl rfl rfl rfl
  | failed call e =>
    rw [Course.after_failed]
    exact h
  | entered sec =>
    cases sec with
    | beginGeneration | endGeneration => cases inner
    | endWait => exact h.endWait
    | look =>
      obtain ⟨report, after⟩ := (course w.past).after_look w.control (Section.look.apply w.control)
      rw [after]
      exact h.same rfl rfl rfl rfl rfl rfl
    | registerAttempt | releaseAttempt | recordSuccess | recordFailure =>
      exact h.same rfl rfl rfl rfl rfl rfl
  | waited span purpose =>
    cases purpose with
    | schedule | recovery => exact h.same rfl rfl rfl rfl rfl rfl
  | checked | executed | paused | timed => exact h

namespace Station

variable {m : Manager} {w w' : World} {s : Station} {a : (s.request m).Answer}

/-- The answer on which a success is reported leads to where it is kept. -/
theorem closes_of_succeeded {k : Skips} {c : Course} (fresh : k.succeeded = false)
    (succeeded : (k.after (.told (s.request m) a)).succeeded = true)
    (inner : (s.request m).isInner) :
    (s.next m a).Closes ∧ (c.after (.told (s.request m) a)).report = some .succeeded := by
  cases s with
  | beginning | ending => cases inner
  | calling task left failed =>
    cases a with
    | error error =>
      have none : k.succeeded = true := by cases task <;> exact succeeded
      simp [fresh] at none
    | ok reply =>
      cases task with
      | succeed input budget context output =>
        refine ⟨?_, rfl⟩
        cases budget <;> exact trivial
      | _ =>
        have none : k.succeeded = true := succeeded
        simp [fresh] at none
  | _ =>
    have none : k.succeeded = true := succeeded
    simp [fresh] at none

theorem next_closes (h : (s : Spot).Closes) (inner : (s.request m).isInner) :
    (s.next m a).Closes := by
  cases s with
  | persistingSuccess context budget => exact trivial
  | recordingSuccess => exact rfl
  | ending input => cases inner
  | _ => cases h

theorem report_closes {c : Course} (h : (s : Spot).Closes) (inner : (s.request m).isInner)
    (report : c.report = some .succeeded) :
    (c.after (.told (s.request m) a)).report = some .succeeded := by
  cases s with
  | persistingSuccess context budget =>
    cases a <;> exact report
  | recordingSuccess => exact report
  | ending input => cases inner
  | _ => cases h

end Station

theorem Skips.Stands.hear {k : Skips} {spot : Spot} {c : Course} {control : Control}
    (h : k.Stands spot c control.flags) (s : Signal) :
    (k.hear s).Stands spot c (control.signal s).flags where
  asked := by rw [control.skipSchedulingNext_signal, h.asked, Skips.hear]
  succeeded := h.succeeded
  due := nofun
  taken := nofun

theorem Skips.Stands.begin {k : Skips} {input : RunInput} {c : Course} {flags : Flags}
    (h : k.Stands (.between input) c flags) : k.Stands (.at (.beginning input)) c flags where
  asked := h.asked
  succeeded same := by cases (h.succeeded same).1
  due := h.due
  taken skip same := by cases (h.taken skip same).1

theorem stands_beginning {m : Manager} {k : Skips} {input : RunInput} {c : Course}
    {control : Control} (h : k.Stands (.at (.beginning input)) c control.flags)
    (jobOpen : Bool) (a : Control × Control) :
    k.begin.Stands ((Station.beginning input).next m a) c
      ((Section.beginGeneration jobOpen input.skipScheduling).apply control).flags where
  asked := h.asked.trans k.begin_asked.symm
  succeeded same := by cases (h.succeeded (k.begin_succeeded.symm.trans same)).1
  due skip same := by
    unfold Skips.begin at same
    split at same
    · cases same
    · next notDue => exact absurd same (notDue skip)
  taken skip same := by
    refine ⟨Station.next_hasBegun (.beginning input) a fun _ => nofun, ?_⟩
    unfold Skips.begin at same
    split at same
    · next due =>
      cases same
      obtain ⟨sets, undisturbed⟩ := h.due skip due
      refine { undisturbed with skips := fun waiting => ?_ }
      have idle := undisturbed.skips waiting
      have sets : input.skipScheduling = skip := sets
      simp [Section.apply, idle, sets]
    · cases (h.taken skip same).1

theorem stands_ending {m : Manager} {k : Skips} {input : RunInput} {c : Course}
    {control : Control} (h : k.Stands (.at (.ending input)) c control.flags) :
    (k.after (.told (.enter .endGeneration) (control, Section.endGeneration.apply control))).Stands
      ((Station.ending input).next m (control, Section.endGeneration.apply control))
      (c.after (.told (.enter .endGeneration) (control, Section.endGeneration.apply control)))
      (Section.endGeneration.apply control).flags := by
  by_cases deleted : control.flags.deleted = true
  -- the run stops, and the flags stay as they are
  · have same : k.after (.told (.enter .endGeneration)
        (control, Section.endGeneration.apply control)) = k := if_pos deleted
    have stopped : (Station.ending input).next m
        (control, Section.endGeneration.apply control) = .stopped := if_pos deleted
    rw [same, stopped, Course.after_endGeneration_of_deleted _ deleted,
      Section.endGeneration_of_deleted deleted]
    refine ⟨h.asked, fun succeeded => ⟨trivial, (h.succeeded succeeded).2⟩, fun skip due => ?_,
      fun skip taken => ?_⟩
    · cases (h.due skip due).1
    · exact absurd deleted (h.taken skip taken).2.not_deleted
  · have finish : k.after (.told (.enter .endGeneration)
        (control, Section.endGeneration.apply control)) = k.finish := if_neg deleted
    have between : (Station.ending input).next m (control, Section.endGeneration.apply control) =
        .between { input with
          skipScheduling := control.flags.skipSchedulingNext || input.skipScheduling } :=
      if_neg deleted
    rw [finish, between, Course.after_endGeneration _ deleted,
      Section.endGeneration_flags deleted]
    refine ⟨rfl, nofun, fun skip due => ?_, fun skip taken => ?_⟩
    · unfold Skips.finish at due
      split at due
      · next succeeded =>
        cases due
        -- after a success only the flag asks to skip the next wait
        obtain ⟨closes, report⟩ := h.succeeded succeeded
        have idle : input.skipScheduling = false := closes
        refine ⟨?_, ?_⟩
        · show (control.flags.skipSchedulingNext || input.skipScheduling) = k.asked
          rw [idle, Bool.or_false, h.asked]
        · refine ⟨by simp [Course.handsOn, report], by simp [Course.leavesOpen, report], rfl, rfl,
            fun _ => rfl, fun f ended => ?_⟩
          cases ended
      · cases due
    · unfold Skips.finish at taken
      split at taken <;> cases taken

theorem stands_inner {m : Manager} {w w' : World} {s : Station} {a : (s.request m).Answer}
    {k : Skips} (h : k.Stands s (course w.past) w.control.flags) (begun : (s : Spot).hasBegun)
    (notEnding : ∀ input, s ≠ .ending input)
    (answers : w.Answers m.connectionId (s.request m) a w') :
    (k.after (.told (s.request m) a)).Stands (s.next m a)
      ((course w.past).after (.told (s.request m) a)) w'.control.flags := by
  have inner : (s.request m).isInner := Station.request_isInner begun notEnding
  obtain ⟨asked, outset⟩ := Skips.after_inner (k := k) (a := a) inner
  refine ⟨?_, fun succeeded => ?_, fun skip due => ?_, fun skip taken => ?_⟩
  · have notEnd : s.request m ≠ .enter .endGeneration := by
      intro same
      rw [same] at inner
      cases inner
    rw [skipSchedulingNext_answer answers notEnd, h.asked, asked]
  · cases before : k.succeeded with
    | false => exact Station.closes_of_succeeded before succeeded inner
    | true =>
      obtain ⟨closes, report⟩ := h.succeeded before
      exact ⟨Station.next_closes closes inner, Station.report_closes closes inner report⟩
  · obtain ⟨sets, -⟩ := h.due skip (outset.symm.trans due)
    cases s with
    | beginning input => cases begun
    | _ => cases sets
  · obtain ⟨-, undisturbed⟩ := h.taken skip (outset.symm.trans taken)
    exact ⟨Station.next_hasBegun s a notEnding, undisturbed_answer undisturbed inner answers⟩

theorem stands_answer {m : Manager} {w w' : World} {s : Station} (a : (s.request m).Answer)
    (h : (skips w.past).Stands s (course w.past) w.control.flags)
    (answers : w.Answers m.connectionId (s.request m) a w') :
    (skips (w'.note (s.request m) a).past).Stands (s.next m a)
      (course (w'.note (s.request m) a).past) w'.control.flags := by
  show ((skips w'.past).after _).Stands (s.next m a) ((course w'.past).after _) w'.control.flags
  rw [answers.past]
  cases s with
  | beginning input =>
    cases answers with
    | entered sec => exact stands_beginning h _ _
  | ending input =>
    cases answers with
    | entered sec => exact stands_ending h
  | _ => exact stands_inner h rfl nofun answers

/-- The requests to skip a wait at every step, and whose jobs there are. -/
theorem kept_stands (m : Manager) : Kept m fun spot w =>
    (spot.Fits (course w.past) ∧ w.Owned) ∧
      (skips w.past).Stands spot (course w.past) w.control.flags :=
  (kept_owned m).and (fun s h => h.hear s) Skips.Stands.begin fun a _ h answers =>
    stands_answer a h answers

theorem stands_first (m : Manager) (rows : List Job) (spot : Spot) :
    (skips (Moment.first m rows).world.past).Stands spot
      (course (Moment.first m rows).world.past) (Moment.first m rows).world.control.flags :=
  ⟨rfl, nofun, nofun, nofun⟩

theorem stands_of_reachable {m : Manager} {a : Moment} (h : a.Reachable m) :
    a.Has m fun spot w => (spot.Fits (course w.past) ∧ w.Owned) ∧
      (skips w.past).Stands spot (course w.past) w.control.flags :=
  (kept_stands m).reachable
    (fun rows => ⟨⟨⟨⟨rfl, rfl, rfl⟩, rfl, rfl, rfl, rfl⟩, owned_first m rows⟩,
      stands_first m rows _⟩) h

/-! ### The generation after a success -/

namespace Course.Undisturbed

variable {c : Course} {flags : Flags} {skip : Bool}

theorem interruptsWait (h : c.Undisturbed flags skip) (waiting : c.waitEnd = none) :
    flags.interruptsWait = skip := by
  have permits := h.permits
  simp only [Flags.permitsAttempt, Bool.not_eq_true', Bool.or_eq_false_iff] at permits
  simp [Flags.interruptsWait, permits, h.skips waiting]

theorem not_isReset (h : c.Undisturbed flags skip) : c.isReset = false := by
  cases ended : c.waitEnd with
  | none => simp [isReset, h.carried, ended]
  | some f => simp [isReset, h.carried, ended, (h.waited f ended).2]

theorem isDue (h : c.Undisturbed flags skip) (waited : c.waitEnd.isSome) : c.isDue := by
  obtain ⟨f, ended⟩ := Option.isSome_iff_exists.1 waited
  simp [Course.isDue, ended, (h.waited f ended).1]

theorem attempted_of_ends (h : c.Undisturbed flags skip) (ends : c.Ends) :
    c.attempted = true ∨ c.report = some .abandoned := by
  cases report : c.report with
  | none =>
    simp only [Ends, report] at ends
    obtain ⟨waited, notDue, -⟩ := ends
    simp [h.isDue waited] at notDue
  | some r =>
    have tried (reported : c.Reported r) : c.attempted = true :=
      reported.attempted (h.isDue reported.waited)
    cases r with
    | abandoned => exact .inr rfl
    | kept =>
      simp only [Ends, report] at ends
      exact .inl (tried ends.1)
    | cancelled forReset | succeeded | failed =>
      simp only [Ends, report] at ends
      exact .inl (tried ends)

/-- The job of the attempt was created by the generation, and is of its kind. -/
theorem row_not_isReset {jobs : JobStore} {input : RunInput} {context : AttemptContext}
    (h : c.Undisturbed flags skip) (attempts : c.Attempts input context) (owns : c.Owns jobs) :
    context.isReset = false ∧
      ∃ row, jobs.find? context.jobId = some row ∧ row.isReset = false := by
  have isReset : context.isReset = false := attempts.isReset.trans h.not_isReset
  have job : c.job = some context.jobId := attempts.openJob.trans attempts.jobId
  have created : c.created = some context.jobId := by
    rw [Course.job, h.openJob] at job
    simpa using job
  obtain ⟨row, found, kind⟩ := agrees_iff attempts owns
  exact ⟨isReset, row, found, (kind.2 (.inl created)).symm.trans isReset⟩

end Course.Undisturbed

theorem undisturbed_of_followsReset {w : World} {job : JobId} {middle : List Event} {spot : Spot}
    (follows : FollowsReset w.past job middle)
    (stands : (skips w.past).Stands spot (course w.past) w.control.flags)
    (begun : spot.hasBegun) :
    (course w.past).Undisturbed w.control.flags (middle.all fun e => !e.endsGeneration) := by
  rcases Skips.leads_of_followsReset follows with due | taken
  · have sets := (stands.due _ due).1
    cases spot with
    | between input => cases begun
    | «at» s =>
      cases s with
      | beginning input => cases begun
      | _ => cases sets
    | stopped => cases sets
  · exact (stands.taken _ taken).2

theorem Station.hasBegun_of_request {m : Manager} {s : Station} {r : Request}
    (request : s.request m = r)
    (notBegin : ∀ jobOpen skipWait, r ≠ .enter (.beginGeneration jobOpen skipWait)) :
    (s : Spot).hasBegun := by
  cases s with
  | beginning input => exact absurd request.symm (notBegin _ _)
  | _ => rfl

section

variable {m : Manager} {a : Moment} {job : JobId} {middle : List Event}

/-- Every request of the generation but the first is made undisturbed. -/
theorem undisturbed_of_asks {r : Request} (h : a.Reachable m)
    (follows : FollowsReset a.world.past job middle) (asks : a.Asks r)
    (notBegin : ∀ jobOpen skipWait, r ≠ .enter (.beginGeneration jobOpen skipWait)) :
    ∃ s : Station, s.request m = r ∧ s.Fits (course a.world.past) ∧ a.world.Owned ∧
      (course a.world.past).Undisturbed a.world.control.flags
        (middle.all fun e => !e.endsGeneration) := by
  obtain ⟨s, request, ⟨fits, owned⟩, stands⟩ := (stands_of_reachable h).station asks
  have begun := Station.hasBegun_of_request request notBegin
  exact ⟨s, request, fits, owned, undisturbed_of_followsReset follows stands begun⟩

theorem undisturbed_of_ends (h : a.Reachable m) (follows : FollowsReset a.world.past job middle)
    (ends : a.Ends) : (course a.world.past).Undisturbed a.world.control.flags
      (middle.all fun e => !e.endsGeneration) := by
  rcases ends with asks | stopped
  · obtain ⟨s, -, -, -, undisturbed⟩ := undisturbed_of_asks h follows asks nofun
    exact undisturbed
  · obtain ⟨spot, there, -, stands⟩ := stands_of_reachable h
    rw [stopped] at there
    cases there with
    | stopped => exact undisturbed_of_followsReset follows stands rfl

/-- When a request to reset a connection and to skip the wait after that is followed by a success,
and no other signal comes, the next generation goes through its wait at once just if the success was
reported in the generation of the request. It creates a job that is not a reset and attempts it, or
it is given up. -/
theorem skipsWait_iff (h : a.Reachable m) (follows : FollowsReset a.world.past job middle) :
    (∀ span, a.Asks (.wait span .schedule) →
      (a.world.control.flags.interruptsWait = true ↔
        ∀ e ∈ middle, e.endsGeneration = false)) ∧
    (∀ isReset, a.Asks (.call (.createJob isReset)) → isReset = false) ∧
    (∀ context, a.Asks (.execute context) → context.isReset = false ∧
      ∃ row, a.world.jobs.find? context.jobId = some row ∧ row.isReset = false) ∧
    (a.Ends → (course a.world.past).attempted = true ∨
      (course a.world.past).report = some .abandoned) := by
  refine ⟨fun span asks => ?_, fun isReset asks => ?_, fun context asks => ?_, fun ends => ?_⟩
  · obtain ⟨s, request, fits, -, undisturbed⟩ := undisturbed_of_asks h follows asks nofun
    rw [undisturbed.interruptsWait (Station.fits_wait fits request), List.all_eq_true]
    simp
  · obtain ⟨s, request, fits, -, undisturbed⟩ := undisturbed_of_asks h follows asks nofun
    obtain ⟨same, -⟩ := Station.fits_createJob fits request
    exact same.trans undisturbed.not_isReset
  · obtain ⟨s, request, fits, owned, undisturbed⟩ := undisturbed_of_asks h follows asks nofun
    obtain ⟨input, attempts⟩ := Station.fits_attempt fits (.inl request)
    exact undisturbed.row_not_isReset attempts owned.owns
  · have ended := ends_of_has ((kept_owned m).reachable_worldly (owned_first m) h) ends
    exact (undisturbed_of_ends h follows ends).attempted_of_ends ended

end

/-! ### A request while the manager waits, and one during an attempt -/

/-- Whether a job succeeded `n` events ago, in the generation before, and `k` events before that
came the last signal, a request to reset the connection and to skip the wait after that. -/
def followsResetAgo (past : List Event) (job : JobId) (n k : Nat) : Bool :=
  (match past.drop n with
    | .told (.call (.jobSuccess id ..)) (.ok _) :: before =>
      id = job && (before.take k).all (fun e => !e.isSignal) &&
        match before.drop k with
        | .heard .resetAndSkipSchedule _ :: _ => true
        | _ => false
    | _ => false) &&
  (past.take n).countP Event.endsGeneration = 1 && (past.take n).all fun e => !e.isSignal

theorem followsReset_of_ago {past : List Event} {job : JobId} {n k : Nat}
    (h : followsResetAgo past job n k) : FollowsReset past job ((past.drop (n + 1)).take k) := by
  unfold followsResetAgo at h
  simp only [Bool.and_eq_true, decide_eq_true_eq, List.all_eq_true, Bool.not_eq_true'] at h
  obtain ⟨⟨told, once⟩, later⟩ := h
  split at told
  · next id attempt output answer before split =>
    simp only [Bool.and_eq_true, decide_eq_true_eq, List.all_eq_true, Bool.not_eq_true'] at told
    obtain ⟨⟨rfl, middle⟩, request⟩ := told
    have dropped : past.drop (n + 1) = before := by
      rw [← List.drop_drop, split]
      rfl
    split at request
    · next found earlier rest =>
      refine ⟨past.take n, attempt, output, found, earlier, ?_, once, fun e mem => ?_⟩
      · rw [dropped, ← rest, List.take_append_drop, ← split, List.take_append_drop]
      · rw [dropped] at mem
        exact (List.mem_append.1 mem).elim (later e) (middle e)
    · cases request
  · cases told

/-- A reset is asked for, with the wait after it to be skipped, while the manager is parked. -/
def Moment.promptRequest : Moment :=
  .replay .sample [.serve .cancelled 5, .hear .resetAndSkipSchedule,
    .serve (.succeeded ⟨0, none⟩) 19]

def Moment.spentRequest : Moment :=
  .replay .sample [.serve .cancelled 14, .hear .resetAndSkipSchedule, .serve .cancelled 7,
    .serve (.succeeded ⟨0, none⟩) 23]

theorem promptRequest_waits : Moment.promptRequest.Asks (.wait .zero .schedule) :=
  Moment.asks_of_request? (by decide +kernel)

theorem promptRequest_follows : FollowsReset Moment.promptRequest.world.past 1
    ((Moment.promptRequest.world.past.drop 7).take 11) :=
  followsReset_of_ago (by decide +kernel)

theorem promptRequest_skipsWait :
    Moment.promptRequest.world.control.flags.interruptsWait = true := by
  have reachable : Moment.promptRequest.Reachable .sample := Moment.reachable_replay .sample _
  obtain ⟨skips, -⟩ := skipsWait_iff reachable promptRequest_follows
  rw [skips .zero promptRequest_waits]
  decide +kernel

theorem spentRequest_waits : Moment.spentRequest.Asks (.wait .zero .schedule) :=
  Moment.asks_of_request? (by decide +kernel)

theorem spentRequest_follows : FollowsReset Moment.spentRequest.world.past 2
    ((Moment.spentRequest.world.past.drop 7).take 21) :=
  followsReset_of_ago (by decide +kernel)

/-- After the success of the reset that was asked for, the next generation waits for the schedule,
although no generation is given up. -/
theorem request_spent_on_reset : ∃ (m : Manager) (a : Moment) (job : JobId) (row : Job)
    (middle : List Event) (span : Duration), a.Reachable m ∧
      (∀ e ∈ a.world.past, e.givesUp = false) ∧ FollowsReset a.world.past job middle ∧
      a.world.jobs.find? job = some row ∧ row.isReset = true ∧ a.Asks (.wait span .schedule) ∧
      a.world.control.flags.interruptsWait = false := by
  have found : (Moment.spentRequest.world.jobs.find? 2).map (·.isReset) = some true := by
    decide +kernel
  obtain ⟨row, there, isReset⟩ := Option.map_eq_some_iff.1 found
  exact ⟨.sample, .spentRequest, 2, row, _, .zero, Moment.reachable_replay .sample _,
    by decide +kernel, spentRequest_follows, there, isReset, spentRequest_waits, by decide +kernel⟩

end ConnectorSync.Sync
