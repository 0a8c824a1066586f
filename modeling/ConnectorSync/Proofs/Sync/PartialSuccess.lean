import ConnectorSync.Proofs.Sync.Disposal

/-!
# Partial success

What an execution tells of an attempt whose connectors did not both end well. The codes of both
connectors, the bytes that the destination was given, and a copy or a wait that fails are
independent of each other; only where nothing fails is the attempt told as failed, with its
failures and its progress.
-/

namespace ConnectorSync.Sync

open Execution

/-! ### Connectors that end as they like -/

/-- A connector that was launched: the code with which it has ended, and the number of bytes that were
written to its input. -/
structure Worker where
  exit : Option Int := none
  received : Nat := 0
  deriving DecidableEq, Repr

structure Trial where
  workers : List Worker := []
  committed : List ((JobId × Nat) × Nat) := []
  disturbed : Bool := false
  deriving DecidableEq, Repr

namespace Trial

def feed (s : Trial) (h : Handle) (bytes : Nat) : Trial :=
  { s with workers := s.workers.modify h fun w => { w with received := w.received + bytes } }

/-- Whether an attempt counts as one that has made progress. -/
def progress (s : Trial) (job : JobId) (attempt : Nat) : Bool :=
  hasProgress s.committed job attempt

def Happens (s t : Trial) : Prop :=
  ∃ (h : Handle) (w : Worker) (code : Int), s.workers[h]? = some w ∧ w.exit = none ∧
    t = { s with workers := s.workers.set h { w with exit := some code } }

/-- Nothing is cancelled. A copy is of any length, and one that fails has written some part before; a
wait is over when the connector has ended, or fails. -/
def Answers (s : Trial) : (d : Deed) → d.Answer → Trial → Prop
  | .launch _, .ok h, t => h = s.workers.length ∧ t = { s with workers := s.workers ++ [{}] }
  | .copy _ h, some (.ok bytes), t => t = s.feed h bytes
  | .copy _ h, some (.error _), t => ∃ part, t = { s.feed h part with disturbed := true }
  | .waitFor h, some (.ok code), t => (s.workers[h]?).bind (·.exit) = some code ∧ t = s
  | .waitFor _, some (.error _), t => t = { s with disturbed := true }
  | .copy .., none, _ | .waitFor _, none, _ => False
  | .commit job attempt bytes, _, t =>
    t = { s with committed := ((job, attempt), bytes) :: s.committed }
  | _, _, t => t = s

end Trial

def trials : Surroundings Deed Deed.Answer Trial := ⟨Trial.Happens, Trial.Answers⟩

/-! ### What both connectors have done -/

/-- Source and destination are launched and nothing was disturbed. So many bytes were written to the
destination, and those who are known to have ended have ended with these codes. -/
structure Went (bytes : Nat) (sourceCode destinationCode : Option Int) (s : Trial) : Prop where
  workers : ∃ source destination : Worker, s.workers = [source, destination] ∧
    destination.received = bytes ∧ (∀ code, sourceCode = some code → source.exit = some code) ∧
    ∀ code, destinationCode = some code → destination.exit = some code
  calm : s.disturbed = false

variable {bytes : Nat} {sourceCode destinationCode : Option Int} {s t : Trial}

theorem lasts_went : trials.Lasts (Went bytes sourceCode destinationCode) := by
  rintro s _ ⟨⟨source, destination, both, received, first, second⟩, calm⟩
    ⟨h, w, code, found, running, rfl⟩
  refine ⟨?_, calm⟩
  rw [both] at found ⊢
  match h, found with
  | 0, found =>
    cases found
    refine ⟨_, destination, rfl, received, fun code known => ?_, second⟩
    cases running.symm.trans (first code known)
  | 1, found =>
    cases found
    refine ⟨source, _, rfl, received, first, fun code known => ?_⟩
    cases running.symm.trans (second code known)

theorem lasts_disturbed : trials.Lasts (·.disturbed = true) := by
  rintro s _ disturbed ⟨h, w, code, -, -, rfl⟩
  exact disturbed

/-! ### From the launches to the outcome -/

def Deed.isSilent : Deed → Bool
  | .launch _ | .copy .. | .waitFor _ | .commit .. => false
  | _ => true

theorem Trial.same_of_silent {d : Deed} {answer : d.Answer} (silent : d.isSilent = true)
    (answers : Trial.Answers s d answer t) : t = s := by
  cases d with
  | launch | copy | waitFor | commit => cases silent
  | _ => exact answers

theorem leads_silent {d : Deed} {C : Trial → Prop} (lasts : trials.Lasts C) (h : C s)
    (silent : d.isSilent = true := by rfl) : trials.Leads (fun _ => C) (demand d) s := by
  refine .ask lasts h fun s answer t h answers => ?_
  rw [Trial.same_of_silent silent answers]
  exact h

theorem leads_copy_bytes (h : Went 0 none none s) :
    trials.Leads
      (fun answer s => match answer with
        | some (.ok bytes) => Went bytes none none s
        | some (.error _) => s.disturbed = true
        | none => False)
      (demand (.copy 0 1)) s := by
  refine .ask lasts_went h ?_
  rintro s answer t ⟨⟨source, destination, both, received, -, -⟩, calm⟩ answers
  rcases answer with _ | fault | bytes
  · exact answers
  · obtain ⟨part, rfl⟩ := answers
    exact rfl
  · obtain rfl : t = s.feed 1 bytes := answers
    refine ⟨⟨source, { destination with received := destination.received + bytes }, ?_, ?_,
      nofun, nofun⟩, calm⟩
    · rw [Trial.feed, both]
      rfl
    · exact (congrArg (· + bytes) received).trans (Nat.zero_add bytes)

def Awaited (known : Int → Trial → Prop) : Except Stop Int → Trial → Prop
  | .ok code, s => known code s
  | .error .cancelled, _ => False
  | .error (.failed _), s => s.disturbed = true

theorem leads_exitOf_of {h : Handle} {C : Trial → Prop} {known : Int → Trial → Prop}
    (lasts : trials.Lasts C)
    (ended : ∀ s code, C s → (s.workers[h]?).bind (·.exit) = some code → known code s)
    (holds : C s) : trials.Leads (Awaited known) (exitOf h).run s := by
  refine .liftRun (R := fun answer s => match answer with
    | some (.ok code) => known code s
    | some (.error _) => s.disturbed = true
    | none => False) (.ask lasts holds ?_) ?_
  · intro s answer t holds answers
    rcases answer with _ | error | code
    · exact answers
    · obtain rfl : t = { s with disturbed := true } := answers
      exact rfl
    · obtain ⟨exit, rfl⟩ := answers
      exact ended t code holds exit
  · rintro (_ | error | code) s known
    · exact known
    · exact known
    · exact known

theorem leads_exitOf_source (h : Went bytes none none s) :
    trials.Leads (Awaited fun code => Went bytes (some code) none) (exitOf 0).run s := by
  refine leads_exitOf_of lasts_went ?_ h
  rintro s code ⟨⟨source, destination, both, received, -, -⟩, calm⟩ exit
  rw [both] at exit
  refine ⟨⟨source, destination, both, received, ?_, nofun⟩, calm⟩
  rintro _ ⟨⟩
  exact exit

theorem leads_exitOf_destination {code : Int} (h : Went bytes (some code) none s) :
    trials.Leads (Awaited fun code' => Went bytes (some code) (some code')) (exitOf 1).run s := by
  refine leads_exitOf_of lasts_went ?_ h
  rintro s code' ⟨⟨source, destination, both, received, first, -⟩, calm⟩ exit
  rw [both] at exit
  refine ⟨⟨source, destination, both, received, first, ?_⟩, calm⟩
  rintro _ ⟨⟩
  exact exit

def Settled : Except Stop (Nat × Option Int × Int) → Trial → Prop
  | .ok (bytes, some sourceCode, destinationCode), s =>
    Went bytes (some sourceCode) (some destinationCode) s
  | .ok (_, none, _), _ => False
  | .error .cancelled, _ => False
  | .error (.failed _), s => s.disturbed = true

theorem lasts_settled (result : Except Stop (Nat × Option Int × Int)) :
    trials.Lasts (Settled result) := by
  rcases result with (_ | error) | ⟨bytes, _ | sourceCode, destinationCode⟩
  · exact Surroundings.lasts_const False
  · exact lasts_disturbed
  · exact Surroundings.lasts_const False
  · exact lasts_went

theorem leads_waiting (h : Went bytes none none s) :
    trials.Leads Settled (do
      let sourceCode ← some <$> exitOf 0
      let destinationCode ← exitOf 1
      return (bytes, sourceCode, destinationCode) : Stoppable _).run s := by
  rw [bind_map_left]
  refine .bindRun (leads_exitOf_source h) ?_ fun sourceCode s h => ?_
  · rintro (_ | error) s known <;> exact known
  refine .bindRun (leads_exitOf_destination h) ?_ fun destinationCode s h => h
  rintro (_ | error) s known <;> exact known

theorem leads_closing (h : Went bytes none none s) :
    trials.Leads Settled (do
      attempting (.closeStdin 1)
      let sourceCode ← some <$> exitOf 0
      let destinationCode ← exitOf 1
      return (bytes, sourceCode, destinationCode) : Stoppable _).run s :=
  .liftRun (leads_silent lasts_went h) fun _ _ h => leads_waiting h

theorem leads_pumping (h : Went 0 none none s) :
    trials.Leads Settled (pump (some 0) 1).run s := by
  unfold pump
  refine .liftRun (leads_silent lasts_went h) fun _ _ h => ?_
  refine .liftRun (leads_silent lasts_went h) fun _ _ h => ?_
  refine .liftRun (leads_silent lasts_went h) fun _ _ h => ?_
  refine .liftRun (leads_silent lasts_went h) fun stdin _ h => ?_
  refine .liftRun (leads_silent lasts_went h) fun stdout _ h => ?_
  cases stdin with
  | false => exact leads_waiting h
  | true =>
    cases stdout with
    | false => exact leads_closing h
    | true =>
      refine .liftRun (leads_copy_bytes h) fun answer _ h => ?_
      rcases answer with _ | fault | bytes
      · exact h
      · exact h
      · exact leads_closing h

variable {context : AttemptContext}

def CameTo (context : AttemptContext) : Except ActivityError AttemptOutcome → Trial → Prop
  | .error _, s => s.workers.length < 2 ∨ s.disturbed = true
  | .ok .cancelled, _ => False
  | .ok (.succeeded _), s => ∃ bytes, Went bytes (some 0) (some 0) s
  | .ok (.failed failures partialSuccess), s => ∃ bytes sourceCode destinationCode now,
    Went bytes (some sourceCode) (some destinationCode) s ∧
      failures = exitFailures context (some sourceCode) destinationCode now ∧
      partialSuccess = decide (0 < bytes) ∧
      s.progress context.jobId context.attempt = decide (0 < bytes)

/-- A part of what a state says that a connector's end does not change. -/
theorem Trial.Happens.kept (h : Trial.Happens s t) :
    t.workers.length = s.workers.length ∧ t.disturbed = s.disturbed ∧ t.committed = s.committed := by
  obtain ⟨h, w, code, -, -, rfl⟩ := h
  exact ⟨List.length_set .., rfl, rfl⟩

theorem lasts_cameTo (result : Except ActivityError AttemptOutcome) :
    trials.Lasts (CameTo context result) := by
  intro s t h happens
  have ⟨workers, disturbed, committed⟩ := Trial.Happens.kept happens
  rcases result with error | output | ⟨failures, partialSuccess⟩ | _
  · exact h.imp (workers ▸ ·) (disturbed ▸ ·)
  · exact h.imp fun bytes went => lasts_went went happens
  · obtain ⟨bytes, sourceCode, destinationCode, now, went, same, told, progress⟩ := h
    refine ⟨bytes, sourceCode, destinationCode, now, lasts_went went happens, same, told, ?_⟩
    rw [← progress, Trial.progress, Trial.progress, committed]
  · exact h

theorem exitFailures_isEmpty {sourceCode destinationCode : Int} {now : Timestamp} :
    (exitFailures context (some sourceCode) destinationCode now).isEmpty = true ↔
      sourceCode = 0 ∧ destinationCode = 0 := by
  by_cases first : sourceCode = 0 <;> by_cases second : destinationCode = 0 <;>
    simp [exitFailures, Workload.exitSuccess, first, second]

theorem leads_settling {sourceCode destinationCode : Int}
    (h : Went bytes (some sourceCode) (some destinationCode) s) :
    trials.Leads (fun outcome => CameTo context (.ok outcome))
      (settle context (some 0) bytes (some sourceCode) destinationCode) s := by
  unfold settle
  refine .bind (R := fun _ s => Went bytes (some sourceCode) (some destinationCode) s ∧
    s.progress context.jobId context.attempt = decide (0 < bytes)) (.ask lasts_went h ?_) ?_
  · rintro s _ _ ⟨both, calm⟩ rfl
    exact ⟨⟨both, calm⟩, by simp [Trial.progress, hasProgress, bytesCommitted]⟩
  rintro _ s ⟨went, progress⟩
  have lasts : trials.Lasts fun s => Went bytes (some sourceCode) (some destinationCode) s ∧
      s.progress context.jobId context.attempt = decide (0 < bytes) := by
    rintro s t ⟨went, progress⟩ happens
    refine ⟨lasts_went went happens, ?_⟩
    rw [← progress, Trial.progress, Trial.progress, (Trial.Happens.kept happens).2.2]
  refine .bind (leads_silent lasts ⟨went, progress⟩) ?_
  rintro now s ⟨went, progress⟩
  dsimp only
  split
  · next none =>
    obtain ⟨rfl, rfl⟩ := exitFailures_isEmpty.1 none
    refine .bind (leads_silent lasts ⟨went, progress⟩) ?_
    rintro (error | state) s ⟨went, -⟩ <;> exact ⟨bytes, went⟩
  · exact ⟨bytes, sourceCode, destinationCode, now, went, rfl, rfl, progress⟩

structure Lone (workers : Nat) (s : Trial) : Prop where
  workers : s.workers.length = workers
  calm : s.disturbed = false

theorem lasts_lone (workers : Nat) : trials.Lasts (Lone workers) := fun _ _ h happens =>
  ⟨(Trial.Happens.kept happens).1.trans h.workers, (Trial.Happens.kept happens).2.1.trans h.calm⟩

theorem leads_launch_lone {workers : Nat} (d : Launch.Descriptor) (h : Lone workers s) :
    trials.Leads
      (fun answer s => match answer with
        | .ok h => h = workers ∧ ∃ before : Trial, Lone workers before ∧
            s = { before with workers := before.workers ++ [{}] }
        | .error _ => Lone workers s)
      (demand (.launch d)) s := by
  refine .ask (lasts_lone workers) h ?_
  rintro s (error | h) t lone answers
  · obtain rfl : t = s := answers
    exact lone
  · obtain ⟨rfl, rfl⟩ := answers
    exact ⟨lone.workers, s, lone, rfl⟩

theorem leads_launchSource_lone (c : Connection) (sync : context.isReset = false)
    (h : Lone 0 s) :
    trials.Leads
      (fun answer s => match answer with
        | .ok source => source = some 0 ∧ Lone 1 s
        | .error _ => Lone 0 s)
      (launchSource c context) s := by
  unfold launchSource
  simp only [sync, Bool.false_eq_true, if_false]
  refine .bind (leads_launch_lone _ h) fun answer s launched => ?_
  cases answer with
  | error error => exact launched
  | ok h =>
    obtain ⟨rfl, before, lone, rfl⟩ := launched
    refine ⟨rfl, ?_, lone.calm⟩
    rw [List.length_append, lone.workers]
    rfl

theorem leads_destroySource_silent {C : Trial → Prop} (lasts : trials.Lasts C) (h : C s) :
    trials.Leads (fun _ => C) (execute.destroySource (some 0)) s :=
  .bind (leads_silent lasts h) fun _ _ h => h

theorem went_of_lone {before : Trial} (lone : Lone 1 before) :
    Went 0 none none { before with workers := before.workers ++ [{}] } := by
  obtain ⟨source, alone⟩ := List.length_eq_one_iff.1 lone.workers
  refine ⟨⟨source, {}, ?_, rfl, nofun, nofun⟩, lone.calm⟩
  rw [alone]
  rfl

theorem leads_executing (c : Option Connection) (sync : context.isReset = false)
    (h : Lone 0 s) : trials.Leads (CameTo context) (execute c context) s := by
  have few {workers : Nat} {s : Trial} (small : workers < 2) (lone : Lone workers s)
      (error : ActivityError) : CameTo context (.error error) s := .inl (lone.workers ▸ small)
  cases c with
  | none => exact few (by decide) h _
  | some c =>
    refine .bind (leads_launchSource_lone c sync h) fun answer s launched => ?_
    cases answer with
    | error error => exact few (by decide) launched _
    | ok source =>
      obtain ⟨rfl, lone⟩ := launched
      refine .bind (leads_launch_lone _ lone) fun answer s launched => ?_
      cases answer with
      | error error =>
        refine .bind (leads_destroySource_silent (lasts_lone 1) launched) fun _ s lone => ?_
        exact few (by decide) lone _
      | ok destination =>
        obtain ⟨rfl, before, lone, rfl⟩ := launched
        refine .bind (leads_pumping (went_of_lone lone)) fun result s settled => ?_
        have lasts := lasts_settled result
        refine .bind (leads_destroySource_silent lasts settled) fun _ s settled => ?_
        refine .bind (leads_silent lasts settled) fun _ s settled => ?_
        rcases result with (_ | error) | ⟨bytes, _ | sourceCode, destinationCode⟩
        · exact settled
        · exact .inr settled
        · exact settled.elim
        · exact .bind (leads_settling settled) fun _ _ h => h

/-! ### Failures told as such -/

/-- What a failure says of its connector and of its attempt. -/
def FailureReason.mark (r : FailureReason) : Origin × Option JobId × Option Nat :=
  (r.origin, r.jobId, r.attempt)

/-- The marks of the failures that are due: one for each connector that ended with a code other than
zero, the source's first. -/
def dueMarks (context : AttemptContext) (source destination : Worker) :
    List (Origin × Option JobId × Option Nat) :=
  ([(Side.source, source), (.destination, destination)].filter (·.2.exit ≠ some 0)).map
    fun (side, _) => (side.origin, some context.jobId, some context.attempt)

/-- The attempt has failed, with the failures that are due, and with partial success and progress
exactly if something was written to the destination. -/
def TellsFailure (context : AttemptContext) (source destination : Worker)
    (result : Except ActivityError AttemptOutcome) (s : Trial) : Prop :=
  ∃ failures partialSuccess, result = .ok (.failed failures partialSuccess) ∧
    failures.map FailureReason.mark = dueMarks context source destination ∧
    (partialSuccess = true ↔ 0 < destination.received) ∧
    (s.progress context.jobId context.attempt = true ↔ 0 < destination.received)

theorem mark_exitFailures {source destination : Worker} {sourceCode destinationCode : Int}
    (first : source.exit = some sourceCode) (second : destination.exit = some destinationCode)
    (now : Timestamp) :
    (exitFailures context (some sourceCode) destinationCode now).map FailureReason.mark =
      dueMarks context source destination := by
  have mark (side : Side) (step : Launch.Step) (code : Int) :
      ((exitFailure side step code now).forAttempt (some context.jobId)
        (some context.attempt)).mark = (side.origin, some context.jobId, some context.attempt) := rfl
  by_cases source0 : sourceCode = 0 <;> by_cases destination0 : destinationCode = 0 <;>
    simp [exitFailures, dueMarks, Workload.exitSuccess, first, second, source0, destination0, mark]

/-- An attempt whose connectors were both launched, and did not both end with the code zero, is told as
failed, with its failures and its progress, exactly if no copy and no wait failed. -/
theorem failure_told_iff (c : Option Connection) (context : AttemptContext)
    (sync : context.isReset = false) (committed : List ((JobId × Nat) × Nat))
    {result : Except ActivityError AttemptOutcome} {s : Trial} {source destination : Worker}
    (steps : trials.Steps ⟨execute c context, { committed }⟩ ⟨.done result, s⟩)
    (launched : s.workers = [source, destination])
    (failed : source.exit ≠ some 0 ∨ destination.exit ≠ some 0) :
    TellsFailure context source destination result s ↔ s.disturbed = false := by
  have cameTo := (leads_executing c sync ⟨rfl, rfl⟩).ended lasts_cameTo steps
  constructor
  · rintro ⟨failures, partialSuccess, rfl, -⟩
    obtain ⟨_, _, _, _, went, -⟩ := cameTo
    exact went.calm
  · intro calm
    rcases result with error | output | ⟨failures, partialSuccess⟩ | _
    · rcases cameTo with few | disturbed
      · rw [launched] at few
        exact (Nat.lt_irrefl 2 few).elim
      · rw [calm] at disturbed
        contradiction
    · obtain ⟨bytes, ⟨x, y, both, -, first, second⟩, -⟩ := cameTo
      cases launched.symm.trans both
      exact failed.elim (absurd (first 0 rfl)) (absurd (second 0 rfl))
    · obtain ⟨bytes, sourceCode, destinationCode, now, went, rfl, rfl, progress⟩ := cameTo
      obtain ⟨⟨x, y, both, rfl, first, second⟩, -⟩ := went
      cases launched.symm.trans both
      refine ⟨_, _, rfl, mark_exitFailures (first _ rfl) (second _ rfl) now, ?_, ?_⟩
      · exact decide_eq_true_iff
      · rw [progress, decide_eq_true_iff]
    · exact cameTo.elim

/-! ### Runs -/

namespace Trial

/-- Answers of a launcher and of connectors with which at most the copying fails, once a pipe is full.
A wait is answered when the connector has ended. -/
def reply (copied : Except Files.Fault Nat) (s : Trial) : (d : Deed) → Option (d.Answer × Trial)
  | .launch _ => some (.ok s.workers.length, { s with workers := s.workers ++ [{}] })
  | .takeStdin _ | .takeStdout _ | .takeStderr _ => some (true, s)
  | .copy _ h => some <| match copied with
    | .ok bytes => (some (.ok bytes), s.feed h bytes)
    | .error fault => (some (.error fault), { s.feed h 65536 with disturbed := true })
  | .closeStdin _ => some ((), s)
  | .waitFor h => ((s.workers[h]?).bind (·.exit)).map fun code => (some (.ok code), s)
  | .destroy _ => some (.ok (), s)
  | .output _ => some (.ok none, s)
  | .commit job attempt bytes =>
    some ((), { s with committed := ((job, attempt), bytes) :: s.committed })
  | .time => some (default, s)

theorem answers_reply {copied : Except Files.Fault Nat} {d : Deed} {answer : d.Answer}
    (replied : s.reply copied d = some (answer, t)) : trials.Answers s d answer t := by
  cases d with
  | launch d =>
    cases replied
    exact ⟨rfl, rfl⟩
  | copy source destination =>
    cases copied with
    | ok bytes =>
      cases replied
      exact rfl
    | error fault =>
      cases replied
      exact ⟨65536, rfl⟩
  | waitFor h =>
    obtain ⟨code, exit, same⟩ := Option.map_eq_some_iff.1 replied
    cases same
    exact ⟨exit, rfl⟩
  | _ =>
    cases replied
    exact rfl

/-- The source ends well and then the destination badly. -/
def finish (s : Trial) : Trial :=
  { s with
    workers := (s.workers.modify 0 ({ · with exit := some 0 })).modify 1 ({ · with exit := some 1 }) }

theorem steps_finish {α : Type} (rest : Doing α) (launched : s.workers = [{}, {}]) :
    trials.Steps ⟨rest, s⟩ ⟨rest, s.finish⟩ := by
  obtain ⟨_, committed, disturbed⟩ := s
  cases launched
  exact .tail (.single (.happening _ ⟨0, {}, 0, rfl, rfl, rfl⟩))
    (.happening _ ⟨1, {}, 1, rfl, rfl, rfl⟩)

abbrev Scene := Surroundings.Scene Deed Deed.Answer Trial (Except ActivityError AttemptOutcome)

/-- An execution in which both connectors end right after they were launched. -/
def run (copied : Except Files.Fault Nat) : Scene :=
  let launched : Scene :=
    Surroundings.served (reply copied) 2 ⟨execute sampleConnection sampleContext, {}⟩
  Surroundings.served (reply copied) 20 ⟨launched.rest, launched.state.finish⟩

theorem steps_run (copied : Except Files.Fault Nat) :
    trials.Steps ⟨execute sampleConnection sampleContext, {}⟩ (run copied) :=
  ((Surroundings.steps_served answers_reply 2 _).trans (steps_finish _ rfl)).trans
    (Surroundings.steps_served answers_reply 20 _)

end Trial

theorem failure_told_exited :
    trials.Steps ⟨execute sampleConnection sampleContext, {}⟩ (Trial.run (.ok 3)) ∧
      TellsFailure sampleContext ⟨some 0, 0⟩ ⟨some 1, 3⟩
        (.ok (.failed (exitFailures sampleContext (some 0) 1 default) true))
        (Trial.run (.ok 3)).state :=
  ⟨Trial.steps_run _, (failure_told_iff _ _ rfl [] (Trial.steps_run (.ok 3)) rfl
    (.inr (by decide))).2 rfl⟩

/-- A destination that ends while more is copied to it than its pipe holds has been given some bytes,
and yet the attempt is not told as failed and shows no progress. -/
theorem broken_pipe_hides_progress :
    trials.Steps ⟨execute sampleConnection sampleContext, {}⟩ (Trial.run (.error .brokenPipe)) ∧
      (Trial.run (.error .brokenPipe)).rest = .done (.error (.io .brokenPipe)) ∧
      (Trial.run (.error .brokenPipe)).state.workers = [⟨some 0, 0⟩, ⟨some 1, 65536⟩] ∧
      (Trial.run (.error .brokenPipe)).state.progress 1 1 = false ∧
      ¬ TellsFailure sampleContext ⟨some 0, 0⟩ ⟨some 1, 65536⟩ (.error (.io .brokenPipe))
        (Trial.run (.error .brokenPipe)).state :=
  ⟨Trial.steps_run _, rfl, rfl, rfl, nofun⟩

end ConnectorSync.Sync
