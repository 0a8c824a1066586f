import ConnectorSync.Proofs.Crowd
import ConnectorSync.Workload.ExitCell
import ConnectorSync.Workload.Kept

/-!
# One exit code

Callers ask for the end of a workload at the same time, others destroy it, and its watch looks at it.
Each may find a code of its own, since the cluster, the documents and the client answer as they like.
The cell decides: one code is put down, and all callers and waits are answered that one.
-/

namespace ConnectorSync.Workload

/-! ### The cell and those who wait for its code -/

structure Board where
  watched : WatchedCell := {}
  waits : List ExitWait := []
  completions : List Bool := []

namespace Board

def code? (b : Board) : Option Int := b.watched.cell.code

def complete (b : Board) (code : Int) : Board :=
  { b with
    watched := (b.watched.complete code).2
    completions := (b.watched.complete code).1 :: b.completions }

/-- The cell tells its code, a wait is over once it is served or its limit has passed, and all else
is answered in any way. -/
def Tells (b : Board) : (r : Kept.Request) → r.Answer → Prop
  | .container .exitCode, code => code = b.code?
  | .pod .exitCode, code => code = b.code?
  | .container (.complete code), put => put = (b.watched.complete code).1
  | .pod (.complete code), put => put = (b.watched.complete code).1
  | .pod (.awaitExit _), some code => .served code ∈ b.waits
  | .pod (.awaitExit limit), none => limit.isSome
  | _, _ => True

def after (b : Board) : Kept.Request → Board
  | .container (.complete code) | .pod (.complete code) => b.complete code
  | _ => b

inductive Moves : Board → Board → Prop
  | register (b : Board) : Moves b { b with waits := .looking :: b.waits }
  | step {b : Board} {before later : List ExitWait} {wait next : ExitWait}
    (there : b.waits = before ++ wait :: later) (goesOn : wait.next? b.watched = some next) :
    Moves b { b with waits := before ++ next :: later }

/-- Whoever is parked has seen the cell before it changed, and whoever is served has its code. -/
def Knows (b : Board) : ExitWait → Prop
  | .looking => True
  | .parked seen => seen = 0
  | .served code => b.code? = some code

structure Sound (b : Board) : Prop where
  empty : b.code? = none → b.watched.changes = 0 ∧ b.completions.count true = 0
  filled : b.code?.isSome → b.watched.changes = 1 ∧ b.completions.count true = 1
  waits : ∀ wait ∈ b.waits, b.Knows wait

structure Follows (b c : Board) : Prop where
  code : ∀ code, b.code? = some code → c.code? = some code
  sound : b.Sound → c.Sound

variable {b c d : Board}

theorem Follows.refl (b : Board) : b.Follows b := ⟨fun _ h => h, fun h => h⟩

theorem Follows.trans (h : b.Follows c) (h' : c.Follows d) : b.Follows d :=
  ⟨fun code there => h'.code code (h.code code there), fun sound => h'.sound (h.sound sound)⟩

theorem complete_of_none {code : Int} (empty : b.code? = none) :
    b.complete code = { b with
      watched := ⟨⟨some code⟩, b.watched.changes + 1⟩
      completions := true :: b.completions } := by
  obtain ⟨⟨⟨held⟩, changes⟩, waits, completions⟩ := b
  cases empty
  rfl

theorem complete_of_some {code held : Int} (there : b.code? = some held) :
    b.complete code = { b with completions := false :: b.completions } := by
  obtain ⟨⟨⟨held⟩, changes⟩, waits, completions⟩ := b
  cases there
  rfl

theorem isSome_complete (b : Board) (code : Int) : (b.complete code).code?.isSome := by
  cases there : b.code? with
  | none =>
    rw [complete_of_none there]
    rfl
  | some held =>
    rw [complete_of_some there]
    exact Option.isSome_iff_exists.2 ⟨held, there⟩

theorem knows_of_code {wait : ExitWait} (code : ∀ code, b.code? = some code → c.code? = some code)
    (h : b.Knows wait) : c.Knows wait := by
  cases wait with
  | looking => exact trivial
  | parked seen => exact h
  | served held => exact code held h

theorem follows_complete (b : Board) (code : Int) : b.Follows (b.complete code) := by
  cases there : b.code? with
  | none =>
    rw [complete_of_none there]
    have kept (held : Int) (same : b.code? = some held) : some code = some held := by
      rw [there] at same
      cases same
    refine ⟨kept, fun sound => ?_⟩
    obtain ⟨changes, completions⟩ := sound.empty there
    refine ⟨nofun, fun _ => ?_, fun wait listed => knows_of_code kept (sound.waits wait listed)⟩
    simp [changes, completions]
  | some held =>
    rw [complete_of_some there]
    refine ⟨fun _ same => same, fun sound => ⟨fun empty => ?_, fun some => ?_, sound.waits⟩⟩
    · cases there.symm.trans empty
    · simpa using sound.filled some

theorem follows_after (b : Board) (r : Kept.Request) : b.Follows (b.after r) := by
  unfold after
  split
  · exact follows_complete b _
  · exact follows_complete b _
  · exact .refl b

theorem Sound.knows_next {wait next : ExitWait} (sound : b.Sound)
    (goesOn : wait.next? b.watched = some next) : b.Knows next := by
  cases wait with
  | looking =>
    cases goesOn
    cases there : b.watched.cell.code with
    | none => exact (sound.empty there).1
    | some code => exact there
  | parked seen =>
    simp only [ExitWait.next?] at goesOn
    split at goesOn
    · cases goesOn
    · cases goesOn
      exact trivial
  | served code => cases goesOn

theorem follows_of_moves (h : b.Moves c) : b.Follows c := by
  cases h with
  | register =>
    refine ⟨fun _ same => same, fun sound => ⟨sound.empty, sound.filled, fun wait listed => ?_⟩⟩
    rcases List.mem_cons.1 listed with rfl | other
    · exact trivial
    · exact sound.waits wait other
  | @step before later wait next there goesOn =>
    refine ⟨fun _ same => same, fun sound => ⟨sound.empty, sound.filled, fun other listed => ?_⟩⟩
    have others (listed : other ∈ before ∨ other ∈ later) : b.Knows other := by
      refine sound.waits other ?_
      rw [there]
      simpa using listed.imp_right .inr
    rcases List.mem_append.1 listed with ahead | here
    · exact others (.inl ahead)
    · rcases List.mem_cons.1 here with rfl | behind
      · exact sound.knows_next goesOn
      · exact others (.inr behind)

/-- The wait is served a code within its own steps, as long as the cell stays as it is. -/
def Gets (w : WatchedCell) (code : Int) (wait : ExitWait) : Prop :=
  Relation.ReflTransGen (fun wait next => wait.next? w = some next) wait (.served code)

theorem Sound.gets {code : Int} {wait : ExitWait} (sound : b.Sound) (there : b.code? = some code)
    (listed : wait ∈ b.waits) : Gets b.watched code wait := by
  have look : ExitWait.looking.next? b.watched = some (.served code) := by
    simp only [ExitWait.next?, show b.watched.cell.code = some code from there]
  have knows := sound.waits wait listed
  cases wait with
  | looking => exact .single look
  | parked seen =>
    have changes := (sound.filled (Option.isSome_iff_exists.2 ⟨code, there⟩)).1
    have early : seen = 0 := knows
    have wakes : (ExitWait.parked seen).next? b.watched = some .looking := by
      simp [ExitWait.next?, changes, early]
    exact .tail (.single wakes) look
  | served other =>
    have same : some other = some code := knows.symm.trans there
    cases same
    exact .refl

end Board

def board : Surroundings Kept.Request Kept.Request.Answer Board where
  Happens := Board.Moves
  Answers b r a c := b.Tells r a ∧ c = b.after r

/-! ### Calls -/

inductive Call
  | exitValue
  | waitFor
  | awaitExit (limit : Duration)
  | destroy
  | watch (pollInterval : Duration) (oomLogLines : Nat)

namespace Call

/-- How far a call is. -/
structure Stage where
  wait : Wait := Kept.openWait
  failedLooks : Nat := 0

inductive Result
  | code (code : Int)
  | ended (known : Bool)
  | failed (e : Workload.Error)
  | done

def Result.ofCode : Except Workload.Error Int → Result
  | .ok found => .code found
  | .error e => .failed e

def Result.ofEnd : Except Workload.Error Bool → Result
  | .ok known => .ended known
  | .error e => .failed e

def first : Call → Stage
  | awaitExit limit => { wait := .begun limit }
  | _ => {}

def turns (k : Kept) : Call → Kept.Turns Stage Result
  | exitValue => fun _ => do return .inr (.ofCode (← k.exitValue))
  | waitFor => fun stage => do
    return (← k.waitFor stage.wait).map (fun wait => { stage with wait }) .ofCode
  | awaitExit _ => fun stage => do
    return (← k.awaitExit stage.wait).map (fun wait => { stage with wait }) .ofEnd
  | destroy => fun _ => do
    k.destroy
    return .inr .done
  | watch pollInterval oomLogLines => fun stage => do
    return (← k.watch pollInterval oomLogLines stage.failedLooks).map
      (fun failedLooks => { stage with failedLooks }) fun _ => .done

end Call

/-! ### What a call is answered -/

abbrev others : Surroundings Kept.Request Kept.Request.Answer Board := board.relying Board.Follows

abbrev podSide : Surroundings Pod.Request Pod.Request.Answer Board := others.seenBy .pod

abbrev containerSide : Surroundings Docker.Request Docker.Request.Answer Board :=
  others.seenBy .container

section Sides

variable {α : Type} {Q : α → Board → Prop} {b c : Board}

theorem follows_of_answers {r : Kept.Request} {a : r.Answer} (h : board.Answers b r a c) :
    b.Follows c := by
  obtain ⟨-, rfl⟩ := h
  exact Board.follows_after b r

theorem follows_of_steps (h : Relation.ReflTransGen Board.Follows b c) : b.Follows c := by
  induction h with
  | refl => exact .refl b
  | tail _ step ih => exact ih.trans step

/-- Whatever a keeper asks, the code in the cell stays. -/
theorem leads_follows {Part : Type} (whole : Part → Kept.Request)
    (d : Dialogue Part (fun r => (whole r).Answer) α) (b : Board) :
    (others.seenBy whole).Leads (fun _ c => b.Follows c) d b :=
  (Surroundings.Leads.since (w := others.seenBy whole) follows_of_answers d b).mono
    fun _ _ => follows_of_steps

end Sides

/-- A call may have begun when a code was there, in which case one is there still. -/
structure Board.Ready (late : Prop) (b : Board) : Prop where
  sound : b.Sound
  filled : late → b.code?.isSome

theorem Board.Ready.follows {late : Prop} {b c : Board} (h : b.Ready late) (follows : b.Follows c) :
    c.Ready late := by
  refine ⟨follows.sound h.sound, fun begun => ?_⟩
  obtain ⟨code, there⟩ := Option.isSome_iff_exists.1 (h.filled begun)
  exact Option.isSome_iff_exists.2 ⟨code, follows.code code there⟩

theorem Board.Ready.sees {late : Prop} {b : Board} {code : Int} (h : b.Ready late)
    (listed : .served code ∈ b.waits) : b.code? = some code :=
  h.sound.waits _ listed

theorem Board.Ready.not_late {late : Prop} {b : Board} (h : b.Ready late) (empty : b.code? = none) :
    ¬ late := by
  intro begun
  have filled := h.filled begun
  rw [empty] at filled
  cases filled

/-- A code that is answered is the one in the cell, and who was late is answered one. -/
structure Told (late : Prop) (answer : Except Workload.Error (Option Int)) (b : Board) : Prop where
  ready : b.Ready late
  code : ∀ code, answer = .ok (some code) → b.code? = some code
  late : late → ∃ code, answer = .ok (some code)

theorem Told.early {late : Prop} {answer : Except Workload.Error (Option Int)} {b : Board}
    (h : Told late answer b) (nothing : ∀ code, answer ≠ .ok (some code)) : ¬ late := by
  intro begun
  obtain ⟨code, same⟩ := h.late begun
  exact nothing code same

section Answers

variable {late : Prop} {b : Board}

theorem told_code {code : Int} (ready : b.Ready late) (there : b.code? = some code) :
    Told late (.ok (some code)) b := by
  refine ⟨ready, ?_, fun _ => ⟨code, rfl⟩⟩
  rintro _ ⟨⟩
  exact there

theorem told_error {e : Workload.Error} (ready : b.Ready late) (early : ¬ late) :
    Told late (.error e) b :=
  ⟨ready, nofun, fun begun => absurd begun early⟩

theorem lasts_ready {Request : Type} {Answer : Request → Type}
    {w : Surroundings Request Answer Board} (mild : ∀ {b c}, w.Happens b c → b.Follows c) :
    w.Lasts (Board.Ready late) :=
  fun _ _ h happens => h.follows (mild happens)

theorem attached_exitValue (p : Pod.Attached) (ready : b.Ready late) :
    podSide.Leads (fun answer c => Told late (answer.map some) c) p.exitValue b := by
  refine .request (lasts_ready id) ready fun c answer d ready answers => ?_
  obtain ⟨told, rfl⟩ := answers
  have told : answer = d.code? := told
  cases answer with
  | some code =>
    refine .bind (leads_follows .pod p.close d) fun _ e follows => ?_
    exact told_code (ready.follows follows) (follows.code code told.symm)
  | none => exact told_error ready (ready.not_late told.symm)

theorem attached_waitFor (p : Pod.Attached) (limit : Option Duration) (ready : b.Ready late) :
    podSide.Leads (fun answer c => c.Ready late ∧ ∀ code, answer = some code → c.code? = some code)
      (p.waitFor limit) b := by
  refine .request (lasts_ready id) ready fun c answer d ready answers => ?_
  obtain ⟨told, rfl⟩ := answers
  cases answer with
  | some code =>
    have there : d.code? = some code := ready.sees told
    refine .bind (leads_follows .pod p.close d) fun _ e follows => ?_
    refine ⟨ready.follows follows, ?_⟩
    rintro _ ⟨⟩
    exact follows.code code there
  | none => exact ⟨ready, nofun⟩

theorem detached_exitValue (p : Pod.Detached) (ready : b.Ready late) :
    podSide.Leads (fun answer c => Told late (answer.map some) c) p.exitValue b := by
  refine .request (lasts_ready id) ready fun c answer d ready answers => ?_
  obtain ⟨told, rfl⟩ := answers
  have told : answer = d.code? := told
  cases answer with
  | some code => exact told_code ready told.symm
  | none =>
    have early := ready.not_late told.symm
    refine .bind (leads_follows .pod p.resolveExit d) fun result c follows => ?_
    have ready := ready.follows follows
    cases result with
    | error e => exact told_error ready early
    | ok code =>
      -- whoever puts a code down first, there is one after the completion
      refine .request (lasts_ready id) ready fun d put e ready answers => ?_
      obtain ⟨-, rfl⟩ := answers
      have ready := ready.follows (d.follows_complete code)
      have lasts : podSide.Lasts fun b => b.Ready late ∧ b.code?.isSome := by
        intro b c h follows
        obtain ⟨held, there⟩ := Option.isSome_iff_exists.1 h.2
        exact ⟨h.1.follows follows, Option.isSome_iff_exists.2 ⟨held, follows.code held there⟩⟩
      refine .request lasts ⟨ready, d.isSome_complete code⟩ fun e answer f h answers => ?_
      obtain ⟨told, rfl⟩ := answers
      have told : answer = f.code? := told
      obtain ⟨held, there⟩ := Option.isSome_iff_exists.1 h.2
      rw [told, there]
      exact told_code h.1 there

theorem detached_awaitExit (p : Pod.Detached) (wait : Wait) (ready : b.Ready late) :
    podSide.Leads (fun result c => c.Ready late ∧ (result = .inr false → ¬ late))
      (p.awaitExit wait) b := by
  cases wait with
  | begun limit =>
    refine .bind (leads_follows .pod _ b) fun deadline c follows => ?_
    exact ⟨ready.follows follows, nofun⟩
  | «until» deadline =>
    refine .bind (detached_exitValue p ready) fun answer c told => ?_
    cases answer with
    | ok code => exact ⟨told.ready, nofun⟩
    | error e =>
      have early := told.early nofun
      refine .bind (leads_follows .pod _ c) fun now d follows => ?_
      have ready := told.ready.follows follows
      split
      · exact ⟨ready, fun _ => early⟩
      · refine .bind (leads_follows .pod _ d) fun _ e follows => ?_
        exact ⟨ready.follows follows, nofun⟩

theorem detached_waitFor (p : Pod.Detached) (wait : Wait) (ready : b.Ready late) :
    podSide.Leads (fun result c => c.Ready late ∧
      ∀ answer, result = .inr answer → Told late (answer.map some) c) (p.waitFor wait) b := by
  refine .bind (detached_awaitExit p wait ready) fun result c h => ?_
  obtain ⟨ready, early⟩ := h
  rcases result with wait | (_ | _)
  · exact ⟨ready, nofun⟩
  · refine ⟨ready, ?_⟩
    rintro _ ⟨⟩
    exact told_error ready (early rfl)
  · refine .bind (detached_exitValue p ready) fun answer d told => ⟨told.ready, ?_⟩
    rintro _ ⟨⟩
    exact told

theorem container_pollExit (p : Docker.Container) (ready : b.Ready late) :
    containerSide.Leads (Told late) p.pollExit b := by
  refine .request (lasts_ready id) ready fun c answer d ready answers => ?_
  obtain ⟨told, rfl⟩ := answers
  have told : answer = d.code? := told
  cases answer with
  | some code => exact told_code ready told.symm
  | none =>
    have early := ready.not_late told.symm
    refine .request (lasts_ready id) ready fun d answer e ready answers => ?_
    have ready := ready.follows (follows_of_answers answers)
    rcases answer with fault | (_ | code)
    · exact told_error ready early
    · exact ⟨ready, nofun, fun begun => absurd begun early⟩
    · refine .bind (leads_follows .container _ e) fun _ f follows => ?_
      have ready := ready.follows follows
      refine .request (lasts_ready id) ready fun f answer g ready answers => ?_
      obtain ⟨told, rfl⟩ := answers
      have told : answer = g.code? := told
      refine ⟨ready, ?_, fun begun => absurd begun early⟩
      rintro _ ⟨⟩
      exact told.symm

theorem container_exitValue (p : Docker.Container) (ready : b.Ready late) :
    containerSide.Leads (fun answer c => Told late (answer.map some) c) p.exitValue b := by
  refine .bind (container_pollExit p ready) fun answer c told => ?_
  rcases answer with e | (_ | code)
  · exact told
  · exact told_error told.ready (told.early nofun)
  · exact told

theorem container_waitFor (p : Docker.Container) (ready : b.Ready late) :
    containerSide.Leads (fun result c => c.Ready late ∧
      ∀ answer, result = .inr answer → Told late (answer.map some) c) (p.waitFor ()) b := by
  refine .bind (container_pollExit p ready) fun answer c told => ?_
  rcases answer with e | (_ | code)
  · refine ⟨told.ready, ?_⟩
    rintro _ ⟨⟩
    exact told
  · refine .bind (leads_follows .container _ c) fun _ d follows => ?_
    exact ⟨told.ready.follows follows, nofun⟩
  · refine ⟨told.ready, ?_⟩
    rintro _ ⟨⟩
    exact told

theorem container_awaitExit (p : Docker.Container) (wait : Wait) (ready : b.Ready late) :
    containerSide.Leads (fun result c => c.Ready late ∧ ∀ e, result = .inr (.error e) → ¬ late)
      (p.awaitExit wait) b := by
  cases wait with
  | begun limit =>
    refine .bind (leads_follows .container _ b) fun deadline c follows => ?_
    exact ⟨ready.follows follows, nofun⟩
  | «until» deadline =>
    refine .bind (container_pollExit p ready) fun answer c told => ?_
    rcases answer with e | (_ | code)
    · exact ⟨told.ready, fun _ _ => told.early nofun⟩
    · refine .bind (leads_follows .container _ c) fun now d follows => ?_
      have ready := told.ready.follows follows
      split
      · exact ⟨ready, nofun⟩
      · refine .bind (leads_follows .container _ d) fun _ e follows => ?_
        exact ⟨ready.follows follows, nofun⟩
    · exact ⟨told.ready, nofun⟩

end Answers

/-! ### What the calls of a kept workload are answered -/

structure Settled (late : Prop) (result : Call.Stage ⊕ Call.Result) (b : Board) : Prop where
  ready : b.Ready late
  code : ∀ code, result = .inr (.code code) → b.code? = some code
  late : late → ∀ e, result ≠ .inr (.failed e)

section Calls

variable {late : Prop} {b : Board}

theorem lasts_settled (result : Call.Stage ⊕ Call.Result) : others.Lasts (Settled late result) :=
  fun _ _ h follows => ⟨h.ready.follows follows,
    fun code same => follows.code code (h.code code same), h.late⟩

theorem settled_of_quiet {result : Call.Stage ⊕ Call.Result} (ready : b.Ready late)
    (code : ∀ code, result ≠ .inr (.code code)) (failed : ∀ e, result ≠ .inr (.failed e)) :
    Settled late result b :=
  ⟨ready, fun found same => absurd same (code found), fun _ => failed⟩

theorem Told.settled {answer : Except Workload.Error Int} (h : Told late (answer.map some) b) :
    Settled late (.inr (.ofCode answer)) b := by
  cases answer with
  | ok code =>
    refine ⟨h.ready, ?_, fun _ => nofun⟩
    rintro _ ⟨⟩
    exact h.code code rfl
  | error e => exact ⟨h.ready, nofun, fun begun => absurd begun (h.early nofun)⟩

theorem leads_exitValue (k : Kept) (ready : b.Ready late) :
    others.Leads (fun answer c => Told late (answer.map some) c) k.exitValue b := by
  cases k with
  | attached p => exact .perform (attached_exitValue p ready)
  | detached p => exact .perform (detached_exitValue p ready)
  | container p => exact .perform (container_exitValue p ready)

theorem leads_waitFor (k : Kept) (wait : Wait) (ready : b.Ready late) :
    others.Leads (fun result c => c.Ready late ∧
      ∀ answer, result = .inr answer → Told late (answer.map some) c) (k.waitFor wait) b := by
  cases k with
  | detached p => exact .perform (detached_waitFor p wait ready)
  | attached p =>
    refine .bind (.perform (attached_waitFor p none ready)) fun answer c h => ?_
    obtain ⟨ready, code⟩ := h
    cases answer with
    | none => exact ⟨ready, nofun⟩
    | some found =>
      refine ⟨ready, ?_⟩
      rintro _ ⟨⟩
      exact told_code ready (code found rfl)
  | container p =>
    refine .bind (.perform (container_waitFor p ready)) fun result c h => ?_
    cases result with
    | inl again => exact ⟨h.1, nofun⟩
    | inr answer =>
      refine ⟨h.1, ?_⟩
      rintro _ ⟨⟩
      exact h.2 answer rfl

theorem leads_awaitExit (k : Kept) (wait : Wait) (ready : b.Ready late) :
    others.Leads (fun result c => c.Ready late ∧ ∀ e, result = .inr (.error e) → ¬ late)
      (k.awaitExit wait) b := by
  cases k with
  | container p => exact .perform (container_awaitExit p wait ready)
  | attached p =>
    cases wait with
    | begun limit | «until» limit =>
      refine .bind (.perform (attached_waitFor p (some limit) ready)) fun answer c h => ?_
      exact ⟨h.1, nofun⟩
  | detached p =>
    refine .bind (.perform (detached_awaitExit p wait ready)) fun result c h => ?_
    refine ⟨h.1, ?_⟩
    cases result with
    | inl wait => nofun
    | inr known => nofun

theorem leads_destroy (k : Kept) (ready : b.Ready late) :
    others.Leads (fun _ c => c.Ready late) k.destroy b := by
  cases k with
  | container p =>
    exact .mono (.perform (leads_follows .container p.destroy b)) fun _ _ => ready.follows
  | attached p => exact .mono (.perform (leads_follows .pod p.destroy b)) fun _ _ => ready.follows
  | detached p => exact .mono (.perform (leads_follows .pod p.destroy b)) fun _ _ => ready.follows

theorem leads_watch (pollInterval : Duration) (oomLogLines : Nat) (k : Kept) (failedLooks : Nat)
    (ready : b.Ready late) :
    others.Leads (fun _ c => c.Ready late) (k.watch pollInterval oomLogLines failedLooks) b := by
  cases k with
  | attached p =>
    have watched := leads_follows .pod (Pod.watch p.key pollInterval oomLogLines failedLooks) b
    exact .mono (.perform watched) fun _ _ => ready.follows
  | container p => exact ready
  | detached p => exact ready

theorem leads_turns (k : Kept) (call : Call) (stage : Call.Stage) (ready : b.Ready late) :
    others.Leads (Settled late) (call.turns k stage) b := by
  cases call with
  | exitValue => exact .bind (leads_exitValue k ready) fun answer c told => told.settled
  | waitFor =>
    refine .bind (leads_waitFor k stage.wait ready) fun result c h => ?_
    cases result with
    | inl wait => exact settled_of_quiet h.1 nofun nofun
    | inr answer => exact (h.2 answer rfl).settled
  | awaitExit limit =>
    refine .bind (leads_awaitExit k stage.wait ready) fun result c h => ?_
    rcases result with wait | (e | known)
    · exact settled_of_quiet h.1 nofun nofun
    · exact ⟨h.1, nofun, fun begun => absurd begun (h.2 e rfl)⟩
    · exact settled_of_quiet h.1 nofun nofun
  | destroy =>
    refine .bind (leads_destroy k ready) fun _ c ready => ?_
    exact settled_of_quiet ready nofun nofun
  | watch pollInterval oomLogLines =>
    refine .bind (leads_watch pollInterval oomLogLines k stage.failedLooks ready)
      fun result c ready => ?_
    cases result with
    | inl failedLooks => exact settled_of_quiet ready nofun nofun
    | inr done => exact settled_of_quiet ready nofun nofun

end Calls

/-! ### Runs -/

abbrev Callers (κ : Type) :=
  Crowd Kept.Request Kept.Request.Answer Board Call.Stage Call.Result κ

namespace Callers

variable {κ : Type} [DecidableEq κ] {k : Kept} {calls : κ → Call} {c c' : Callers κ}

/-- No call has begun, and there is no code. -/
def first (calls : κ → Call) : Callers κ where
  talks i := .done (.inl (calls i).first)
  state := {}

abbrev Steps (k : Kept) (calls : κ → Call) : Callers κ → Callers κ → Prop :=
  Crowd.Steps board fun i => (calls i).turns k

theorem settled_steps {late : κ → Prop}
    (begun : Crowd.Assured board Board.Follows (fun i => Settled (late i)) c)
    (steps : Steps k calls c c') :
    Crowd.Assured board Board.Follows (fun i => Settled (late i)) c' ∧
      c.state.Follows c'.state := by
  obtain ⟨assured, follows⟩ := begun.steps Board.follows_of_moves (fun _ => lasts_settled)
    (fun i stage _ h => (leads_turns k (calls i) stage h.ready).assures follows_of_answers) steps
  exact ⟨assured, follows_of_steps follows⟩

theorem sound_first : ({} : Board).Sound := ⟨fun _ => ⟨rfl, rfl⟩, nofun, nofun⟩

/-- Whatever the callers of a workload, its watch and those who destroy it find out, and in whatever
order they go on, all codes that are answered are the same one, at most one completion puts a code
down, and once a code was answered no call that begins then fails, and whoever waits for the code
gets it. -/
theorem one_exitCode (steps : Steps k calls (first calls) c) :
    (∀ i j a b, c.result? i = some (.code a) → c.result? j = some (.code b) → a = b) ∧
      c.state.completions.count true ≤ 1 ∧
      ∀ i code, c.result? i = some (.code code) →
        (∀ j c', c.talks j = .done (.inl (calls j).first) → Steps k calls c c' →
          ∀ e, c'.result? j ≠ some (.failed e)) ∧
        ∀ wait ∈ c.state.waits, Board.Gets c.state.watched code wait := by
  have begun : Crowd.Assured board Board.Follows (fun _ => Settled False) (first calls) :=
    fun _ => ⟨⟨sound_first, nofun⟩, nofun, nofun⟩
  obtain ⟨assured, follows⟩ := settled_steps begun steps
  have sound : c.state.Sound := follows.sound sound_first
  have held {i : κ} {code : Int} (answered : c.result? i = some (.code code)) :
      c.state.code? = some code :=
    (assured.ended (Crowd.talks_of_result? answered)).code code rfl
  refine ⟨fun i j a b atI atJ => ?_, ?_, fun i code answered => ?_⟩
  · exact Option.some.inj ((held atI).symm.trans (held atJ))
  · cases there : c.state.code? with
    | none =>
      have count := (sound.empty there).2
      omega
    | some code =>
      have count := (sound.filled (Option.isSome_iff_exists.2 ⟨code, there⟩)).2
      omega
  have there := held answered
  refine ⟨fun j c' idle later e failed => ?_, fun wait listed => sound.gets there listed⟩
  -- from here on the call that has not begun is late, and all others go on as they were
  have lateAssured : Crowd.Assured board Board.Follows (fun i => Settled (i = j)) c := by
    intro i
    by_cases same : i = j
    · subst same
      rw [idle]
      have filled := Option.isSome_iff_exists.2 ⟨code, there⟩
      exact ⟨⟨sound, fun _ => filled⟩, nofun, fun _ => nofun⟩
    · have early : (i = j) = False := eq_false same
      simp only [early]
      exact assured i
  have settled := (settled_steps lateAssured later).1.ended (Crowd.talks_of_result? failed)
  exact settled.late rfl e rfl

/-! ### Callers that can be computed -/

def reply (b : Board) : (r : Kept.Request) → Option (r.Answer × Board)
  | .pod .exitCode => some (b.code?, b)
  | .pod (.complete code) => some ((b.watched.complete code).1, b.complete code)
  | .pod (.cluster (.read _)) =>
    some (.ok (some { containers := [{ name := Launch.mainContainer, exitCode := some 0 }] }), b)
  | .pod (.cluster (.delete _)) => some (.ok true, b)
  | .pod .release => some (true, b)
  | _ => none

theorem answers_reply {b d : Board} {r : Kept.Request} {a : r.Answer}
    (h : reply b r = some (a, d)) : board.Answers b r a d := by
  unfold reply at h
  split at h <;> cases h <;> exact ⟨by first | rfl | trivial, rfl⟩

def sample : Kept :=
  .attached ⟨⟨"jobs", "source-read-1-0"⟩, { name := "source-read-1-0", image := "source:1" }, [],
    ⟨0, 0⟩⟩

/-- The watch, one who destroys the pod, and one who asks for the exit code. -/
def sampleCalls : Fin 3 → Call
  | 0 => .watch (.ofSeconds 1) 10
  | 1 => .destroy
  | 2 => .exitValue

def call (c : Callers (Fin 3)) (i : Fin 3) : Callers (Fin 3) :=
  let begun := (sampleCalls i).turns sample (sampleCalls i).first
  { c with talks := Function.update c.talks i begun }

def serve (c : Callers (Fin 3)) (i : Fin 3) (answers : Nat) : Callers (Fin 3) :=
  let x := Surroundings.served reply answers ⟨c.talks i, c.state⟩
  ⟨Function.update c.talks i x.rest, x.state⟩

def move (c : Callers κ) (waits : List ExitWait) : Callers κ :=
  { c with state := { c.state with waits } }

abbrev SampleSteps : Callers (Fin 3) → Callers (Fin 3) → Prop := Steps sample sampleCalls

theorem steps_carryOut (c : Callers (Fin 3)) (i : Fin 3) (answers : Nat)
    (idle : c.talks i = .done (.inl (sampleCalls i).first)) :
    SampleSteps c ((c.call i).serve i answers) :=
  .head (.turn idle)
    (Crowd.Steps.advance (c := c.call i) (Surroundings.steps_served answers_reply answers _))

theorem steps_register (c : Callers (Fin 3)) :
    SampleSteps c (c.move (.looking :: c.state.waits)) :=
  .single (.happening (.register c.state))

theorem steps_wait (c : Callers (Fin 3)) {wait next : ExitWait} {later : List ExitWait}
    (there : c.state.waits = wait :: later) (goesOn : wait.next? c.state.watched = some next) :
    SampleSteps c (c.move (next :: later)) :=
  have split : c.state.waits = [] ++ wait :: later := there
  .single (.happening (.step split goesOn))

/-- A wait is parked, the watch puts a code down before the pod is destroyed, and that code is
answered. -/
theorem one_exitCode_of_watched : ∃ c, SampleSteps (first sampleCalls) c ∧
    c.result? 2 = some (.code exitSuccess) ∧ c.state.completions = [false, true] ∧
    c.state.completions.count true ≤ 1 ∧
    ∀ wait ∈ [ExitWait.looking, .parked 0], Board.Gets c.state.watched exitSuccess wait := by
  let parked := ((first sampleCalls).move [.looking]).move [.parked 0]
  let watched := (parked.call 0).serve 0 2
  let destroyed := ((watched.call 1).serve 1 3).move [.looking, .parked 0]
  have steps : SampleSteps (first sampleCalls) ((destroyed.call 2).serve 2 2) :=
    (((((steps_register _).trans (steps_wait _ rfl rfl)).trans
      (steps_carryOut parked 0 2 rfl)).trans (steps_carryOut watched 1 3 rfl)).trans
      (steps_register _)).trans (steps_carryOut destroyed 2 2 rfl)
  obtain ⟨-, once, late⟩ := one_exitCode steps
  have answered : ((destroyed.call 2).serve 2 2).result? 2 = some (.code exitSuccess) := rfl
  exact ⟨_, steps, answered, rfl, once, (late 2 exitSuccess answered).2⟩

end Callers

end ConnectorSync.Workload
