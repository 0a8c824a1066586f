import ConnectorSync.Proofs.Surroundings
import ConnectorSync.Workload.Pod.Detached

/-!
# Waits for a detached pod

A wait looks for the exit code at every poll and at its deadline. What would be found at each moment
tells when it ends and what it answers. The clock goes from one thousandth of a second to the next,
and only in pauses.
-/

namespace ConnectorSync

/-- Turn after turn the surroundings answer, and the turns end with the result. -/
inductive Dialogue.Turns.Ends {Request : Type} {Answer : Request → Type} {S σ α : Type}
    (answer : (r : Request) → StateT S Option (Answer r)) (turns : Turns Request Answer σ α) :
    σ → S → α → S → Prop
  | last {stage : σ} {s t : S} {result : α}
    (performed : (turns stage).perform answer s = some (.inr result, t)) :
    Ends answer turns stage s result t
  | next {stage stage' : σ} {s t u : S} {result : α}
    (performed : (turns stage).perform answer s = some (.inl stage', t))
    (rest : Ends answer turns stage' t result u) : Ends answer turns stage s result u

namespace Workload.Pod.Detached.Timed

open Launch Cluster Documents

structure Scenery where
  code : Nat → Option Int
  document : Nat → String → Except Documents.Error (Option String)
  cluster : Nat → (r : Cluster.Request) → r.Answer

/-- The time, the code that the wait has put down, and the moments at which it asked for one before
that. -/
structure Site where
  now : Nat
  own : Option Int := none
  looks : List Nat := []

namespace Scenery

variable (g : Scenery) (p : Detached)

def cell (s : Site) : Option Int := s.own.or (g.code s.now)

def answer : (r : Request) → StateT Site Option r.Answer
  | .exitCode => fun s =>
    some (g.cell s, if s.own.isSome then s else { s with looks := s.looks ++ [s.now] })
  | .complete code => fun s =>
    some ((g.cell s).isNone, if (g.cell s).isSome then s else { s with own := some code })
  | .document key => fun s => some (g.document s.now key, s)
  | .cluster r => fun s => some (g.cluster s.now r, s)
  | .time => fun s => some (.ofMillis s.now, s)
  | .pause span => fun s => some ((), { s with now := s.now + span.ticks })
  | _ => fun _ => none

/-! ### What a look finds -/

def status (n : Nat) : Except Workload.Error Status :=
  (resolveStatus (m := Id) (g.document n) p.key.ns p.key.name).mapError .documents

def tellsMemory (n : Nat) : Bool :=
  match g.cluster n (.tail p.key mainContainer p.oomLogLines) with
  | .ok lines => tellsOutOfMemory lines
  | .error _ => false

/-- The exit code that can be found out at a moment. -/
def resolution (n : Nat) : Except Workload.Error Int :=
  match g.status p n with
  | .error e => .error e
  | .ok status =>
    match codeOf? status, g.cluster n (.read p.key) with
    | some code, _ => .ok code
    | none, .error e => .error (.cluster e)
    | none, .ok none => .ok exitVanished
    | none, .ok (some pod) =>
      if pod.isTerminal then .ok (if g.tellsMemory p n then exitOutOfMemory else exitSilent)
      else .error .notTerminated

def check (n : Nat) : Except Workload.Error Int :=
  match g.code n with
  | some code => .ok code
  | none => g.resolution p n

def resolved (n : Nat) : Bool := (g.check p n).isOk

variable {g p} {s t : Site} {α β : Type}

theorem perform_bind {d : Talk α} {f : α → Talk β} {a : α}
    (first : d.perform g.answer s = some (a, t)) :
    (d >>= f).perform g.answer s = (f a).perform g.answer t := by
  rw [Dialogue.perform_bind]
  show (d.perform g.answer s).bind _ = _
  rw [first]
  rfl

theorem perform_resolve (ns name : String) (statuses : List Status) :
    (resolveStatus.go (fun key => ask (.document key)) ns name statuses).perform g.answer s =
      some (resolveStatus.go (m := Id) (g.document s.now) ns name statuses, s) := by
  induction statuses with
  | nil => rfl
  | cons status rest ih =>
    unfold resolveStatus.go
    rw [perform_bind (a := g.document s.now (statusKey ns name status)) rfl]
    generalize g.document s.now (statusKey ns name status) = found
    rcases found with e | (_ | text)
    · rfl
    · exact ih
    · rfl

theorem perform_status : p.status.perform g.answer s = some (g.status p s.now, s) :=
  perform_bind (perform_resolve p.key.ns p.key.name Status.precedence)

theorem perform_ranOutOfMemory :
    (ranOutOfMemory p.key p.oomLogLines).perform g.answer s = some (g.tellsMemory p s.now, s) := by
  unfold ranOutOfMemory tellsMemory
  rw [perform_bind (a := g.cluster s.now (.tail p.key mainContainer p.oomLogLines)) rfl]
  cases g.cluster s.now (.tail p.key mainContainer p.oomLogLines) <;> rfl

theorem perform_bindRun {ε : Type} {x : ExceptT ε (Dialogue Request Request.Answer) α}
    {f : α → ExceptT ε (Dialogue Request Request.Answer) β} {a : α}
    (first : x.run.perform g.answer s = some (.ok a, t)) :
    (x >>= f).run.perform g.answer s = (f a).run.perform g.answer t := by
  rw [ExceptT.run_bind]
  exact perform_bind first

theorem perform_bindRun_error {ε : Type} {x : ExceptT ε (Dialogue Request Request.Answer) α}
    {f : α → ExceptT ε (Dialogue Request Request.Answer) β} {e : ε}
    (first : x.run.perform g.answer s = some (.error e, t)) :
    (x >>= f).run.perform g.answer s = some (.error e, t) := by
  rw [ExceptT.run_bind]
  exact perform_bind first

theorem perform_report : (do return (← askCluster (.read p.key)).mapError Workload.Error.cluster :
    Talk (Except Workload.Error (Option PodStatus))).perform g.answer s =
      some ((g.cluster s.now (.read p.key)).mapError .cluster, s) :=
  perform_bind rfl

theorem perform_resolveExit :
    p.resolveExit.perform g.answer s = some (g.resolution p s.now, s) := by
  unfold resolveExit resolution
  have told := perform_status (g := g) (p := p) (s := s)
  have reported := perform_report (g := g) (p := p) (s := s)
  cases found : g.status p s.now with
  | error e =>
    rw [found] at told
    exact perform_bindRun_error told
  | ok status =>
    rw [found] at told
    refine (perform_bindRun told).trans ?_
    dsimp only
    cases hasCode : codeOf? status with
    | some code => rfl
    | none =>
      dsimp only
      cases report : g.cluster s.now (.read p.key) with
      | error e =>
        rw [report] at reported
        exact perform_bindRun_error reported
      | ok pod =>
        rw [report] at reported
        refine (perform_bindRun reported).trans ?_
        cases pod with
        | none => rfl
        | some pod =>
          dsimp only
          cases ended : pod.isTerminal with
          | false => rfl
          | true =>
            refine (perform_bindRun told).trans ?_
            rw [hasCode]
            refine (congrArg (Dialogue.perform g.answer · s) (run_liftM_bind _ _)).trans ?_
            refine (perform_bind perform_ranOutOfMemory).trans ?_
            cases g.tellsMemory p s.now <;> rfl

theorem perform_exitValue (unset : s.own = none) :
    ∃ own, p.exitValue.perform g.answer s =
      some (g.check p s.now, { now := s.now, own, looks := s.looks ++ [s.now] }) ∧
      (g.resolved p s.now = false → own = none) := by
  obtain ⟨now, own, looks⟩ := s
  cases unset
  have asked : (ask .exitCode).perform g.answer ⟨now, none, looks⟩ =
    some (g.code now, ⟨now, none, looks ++ [now]⟩) := rfl
  unfold exitValue resolved check
  cases there : g.code now with
  | some code =>
    rw [there] at asked
    refine ⟨none, perform_bind asked, fun _ => rfl⟩
  | none =>
    rw [there] at asked
    have found := perform_resolveExit (g := g) (p := p) (s := ⟨now, none, looks ++ [now]⟩)
    dsimp only at found ⊢
    cases resolution : g.resolution p now with
    | error e =>
      rw [resolution] at found
      exact ⟨none, (perform_bind asked).trans (perform_bind found), fun _ => rfl⟩
    | ok code =>
      rw [resolution] at found
      refine ⟨some code, (perform_bind asked).trans ((perform_bind found).trans ?_), nofun⟩
      have put : (ask (.complete code)).perform g.answer ⟨now, none, looks ++ [now]⟩ =
          some (true, ⟨now, some code, looks ++ [now]⟩) := by
        have empty : g.cell ⟨now, none, looks ++ [now]⟩ = none := there
        show some ((g.cell ⟨now, none, looks ++ [now]⟩).isNone, _) = _
        rw [empty]
        rfl
      exact (perform_bind put).trans rfl

end Scenery

/-! ### One turn -/

/-- When the looks of a wait are made. -/
def moment (start poll limit k : Nat) : Nat := start + min (k * poll) limit

variable {p : Detached} {g : Scenery} {start poll limit k : Nat} {looks : List Nat}

theorem total_ofMillis {n : Nat} (inRange : n * 1000000 ≤ lastMoment.total) :
    (Duration.ofMillis n).total = n * 1000000 :=
  Nat.min_eq_left (Nat.le_trans inRange lastMoment.total_le)

theorem moment_le (start poll limit k : Nat) : moment start poll limit k ≤ start + limit :=
  Nat.add_le_add_left (Nat.min_le_right _ _) start

theorem moment_zero (start poll limit : Nat) : moment start poll limit 0 = start := by
  unfold moment
  rw [Nat.zero_mul, Nat.zero_min, Nat.add_zero]

theorem le_moment (late : limit ≤ k * poll) : start + limit ≤ moment start poll limit k :=
  Nat.add_le_add_left (Nat.le_min.2 ⟨late, Nat.le_refl _⟩) start

theorem not_le_moment (early : k * poll < limit) : ¬ start + limit ≤ moment start poll limit k := by
  unfold moment
  omega

theorem moment_next (early : k * poll < limit) :
    moment start poll limit k + min poll (start + limit - moment start poll limit k) =
      moment start poll limit (k + 1) := by
  unfold moment
  rw [Nat.add_mul, Nat.one_mul]
  omega

theorem ofMillis_le_iff {n : Nat} (le : n ≤ start + limit)
    (inRange : (start + limit) * 1000000 ≤ lastMoment.total) :
    Duration.ofMillis (start + limit) ≤ .ofMillis n ↔ start + limit ≤ n := by
  show (Duration.ofMillis (start + limit)).total ≤ (Duration.ofMillis n).total ↔ _
  have within : n * 1000000 ≤ lastMoment.total :=
    Nat.le_trans (Nat.mul_le_mul_right _ le) inRange
  rw [total_ofMillis inRange, total_ofMillis within]
  exact Nat.mul_le_mul_right_iff (by decide)

theorem ticks_of_cut {left most : Nat} (fits : left * 1000000 ≤ most) :
    (min (min (poll * 1000000) most) (left * 1000000) + 999999) / 1000000 = min poll left := by
  omega

/-- A pause goes on for a poll, or for what is left. -/
theorem ticks_pause {n : Nat} (le : n ≤ start + limit)
    (inRange : (start + limit) * 1000000 ≤ lastMoment.total) :
    (((Duration.ofMillis (start + limit)).minus (.ofMillis n)).min (.ofMillis poll)).ticks =
      min poll (start + limit - n) := by
  have within : n * 1000000 ≤ lastMoment.total :=
    Nat.le_trans (Nat.mul_le_mul_right _ le) inRange
  have left : ((Duration.ofMillis (start + limit)).minus (.ofMillis n)).total =
      (start + limit - n) * 1000000 := by
    show (Duration.ofMillis (start + limit)).total - (Duration.ofMillis n).total = _
    rw [total_ofMillis inRange, total_ofMillis within, Nat.sub_mul]
  have fits : (start + limit - n) * 1000000 ≤ Duration.longestNanos :=
    Nat.le_trans (Nat.mul_le_mul_right _ (Nat.sub_le _ _))
      (Nat.le_trans inRange lastMoment.total_le)
  unfold Duration.ticks
  rw [Duration.total_min, left]
  exact ticks_of_cut fits

theorem momentAfter_ofMillis (inRange : (start + limit) * 1000000 ≤ lastMoment.total) :
    momentAfter (.ofMillis start) (.ofMillis limit) = some (.ofMillis (start + limit)) := by
  have begins : start * 1000000 ≤ lastMoment.total :=
    Nat.le_trans (Nat.mul_le_mul_right _ (Nat.le_add_right ..)) inRange
  have lasts : limit * 1000000 ≤ lastMoment.total :=
    Nat.le_trans (Nat.mul_le_mul_right _ (Nat.le_add_left ..)) inRange
  unfold momentAfter
  rw [total_ofMillis begins, total_ofMillis lasts, ← Nat.add_mul]
  exact if_pos inRange

theorem perform_begin (inRange : (start + limit) * 1000000 ≤ lastMoment.total) :
    (p.awaitExit (.begun (.ofMillis limit))).perform g.answer { now := start } =
      some (.inl (.until (.ofMillis (start + limit))), { now := start }) := by
  have deadline : (deadlineAfter (ask .time) (ask .breakDown) (.ofMillis limit)).perform g.answer
      { now := start } = some (.ofMillis (start + limit), { now := start }) := by
    refine (Scenery.perform_bind (a := .ofMillis start) rfl).trans ?_
    rw [momentAfter_ofMillis inRange]
    rfl
  exact Scenery.perform_bind deadline

section Turn

variable (inRange : (start + limit) * 1000000 ≤ lastMoment.total)

theorem perform_last (looks : List Nat)
    (resolved : g.resolved p (moment start poll limit k) = true) :
    ∃ own, (p.awaitExit (.until (.ofMillis (start + limit)))).perform g.answer
        ⟨moment start poll limit k, none, looks⟩ =
      some (.inr true, ⟨moment start poll limit k, own, looks ++ [moment start poll limit k]⟩) := by
  obtain ⟨own, looked, -⟩ := Scenery.perform_exitValue (g := g) (p := p)
    (s := ⟨moment start poll limit k, none, looks⟩) rfl
  refine ⟨own, (Scenery.perform_bind looked).trans ?_⟩
  unfold Scenery.resolved at resolved
  cases found : g.check p (moment start poll limit k) with
  | ok code => rfl
  | error e =>
    rw [found] at resolved
    cases resolved

/-- After a look that finds nothing the clock is read. -/
theorem perform_pending (pending : g.resolved p (moment start poll limit k) = false) :
    (p.awaitExit (.until (.ofMillis (start + limit)))).perform g.answer
        ⟨moment start poll limit k, none, looks⟩ =
      (if Duration.ofMillis (start + limit) ≤ .ofMillis (moment start poll limit k) then
        return .inr false
      else do
        ask (.pause (((Duration.ofMillis (start + limit)).minus
          (.ofMillis (moment start poll limit k))).min p.pollInterval))
        return .inl (.until (.ofMillis (start + limit))) : Talk (Wait ⊕ Bool)).perform g.answer
          ⟨moment start poll limit k, none, looks ++ [moment start poll limit k]⟩ := by
  obtain ⟨own, looked, unset⟩ := Scenery.perform_exitValue (g := g) (p := p)
    (s := ⟨moment start poll limit k, none, looks⟩) rfl
  cases unset pending
  refine (Scenery.perform_bind looked).trans ?_
  unfold Scenery.resolved at pending
  cases found : g.check p (moment start poll limit k) with
  | ok code =>
    rw [found] at pending
    cases pending
  | error e =>
    have read : (ask .time).perform g.answer
        ⟨moment start poll limit k, none, looks ++ [moment start poll limit k]⟩ =
      some (.ofMillis (moment start poll limit k),
        ⟨moment start poll limit k, none, looks ++ [moment start poll limit k]⟩) := rfl
    exact Scenery.perform_bind read

include inRange

theorem perform_late (pending : g.resolved p (moment start poll limit k) = false)
    (late : limit ≤ k * poll) :
    (p.awaitExit (.until (.ofMillis (start + limit)))).perform g.answer
        ⟨moment start poll limit k, none, looks⟩ =
      some (.inr false,
        ⟨moment start poll limit k, none, looks ++ [moment start poll limit k]⟩) := by
  rw [perform_pending pending, if_pos ((ofMillis_le_iff (moment_le ..) inRange).2 (le_moment late))]
  rfl

theorem perform_again (polls : p.pollInterval = .ofMillis poll)
    (pending : g.resolved p (moment start poll limit k) = false) (early : k * poll < limit) :
    (p.awaitExit (.until (.ofMillis (start + limit)))).perform g.answer
        ⟨moment start poll limit k, none, looks⟩ =
      some (.inl (.until (.ofMillis (start + limit))),
        ⟨moment start poll limit (k + 1), none, looks ++ [moment start poll limit k]⟩) := by
  have going : ¬ Duration.ofMillis (start + limit) ≤ .ofMillis (moment start poll limit k) :=
    fun le => not_le_moment early ((ofMillis_le_iff (moment_le ..) inRange).1 le)
  rw [perform_pending pending, if_neg going]
  refine (Scenery.perform_bind (a := ()) rfl).trans ?_
  rw [polls, ticks_pause (moment_le ..) inRange, moment_next early]
  rfl

end Turn

/-! ### The whole wait -/

/-- From any look on: each pause takes up some of the time that is left. -/
theorem ends_from (polls : p.pollInterval = .ofMillis poll) (positive : 0 < poll)
    (inRange : (start + limit) * 1000000 ≤ lastMoment.total) (k : Nat) (looks : List Nat) :
    ∃ last own, k ≤ last ∧
      (∀ i, k ≤ i → i < last →
        g.resolved p (moment start poll limit i) = false ∧ i * poll < limit) ∧
      (g.resolved p (moment start poll limit last) = true ∨ limit ≤ last * poll) ∧
      Dialogue.Turns.Ends g.answer p.awaitExit (.until (.ofMillis (start + limit)))
        ⟨moment start poll limit k, none, looks⟩ (g.resolved p (moment start poll limit last))
        ⟨moment start poll limit last, own,
          looks ++ (List.range' k (last + 1 - k)).map (moment start poll limit)⟩ := by
  have one : List.range' k (k + 1 - k) = [k] := by
    rw [Nat.add_sub_cancel_left]
    rfl
  cases found : g.resolved p (moment start poll limit k) with
  | true =>
    obtain ⟨own, performed⟩ := perform_last looks found
    refine ⟨k, own, Nat.le_refl k, fun i after before => absurd before (Nat.not_lt.2 after),
      .inl found, ?_⟩
    rw [found, one]
    exact .last performed
  | false =>
    by_cases late : limit ≤ k * poll
    · refine ⟨k, none, Nat.le_refl k, fun i after before => absurd before (Nat.not_lt.2 after),
        .inr late, ?_⟩
      rw [found, one]
      exact .last (perform_late inRange found late)
    · have early : k * poll < limit := Nat.lt_of_not_le late
      -- The measure is what is left after `k` polls: it falls by a poll, also if the pause is cut.
      have grows : (k + 1) * poll = k * poll + poll := Nat.succ_mul k poll
      obtain ⟨last, own, le, pending, stops, ends⟩ :=
        ends_from polls positive inRange (k + 1) (looks ++ [moment start poll limit k])
      refine ⟨last, own, Nat.le_of_succ_le le, fun i after before => ?_, stops, ?_⟩
      · rcases Nat.eq_or_lt_of_le after with rfl | later
        · exact ⟨found, early⟩
        · exact pending i later before
      · have count : last + 1 - k = (last + 1 - (k + 1)) + 1 := by omega
        rw [count, List.range'_succ, List.map_cons]
        rw [List.append_assoc] at ends
        exact .next (perform_again inRange polls found early) ends
termination_by limit - k * poll

/-- The wait ends. It looks for the exit code after every poll and at the deadline, up to the first
look that finds one, and tells whether there was one. -/
theorem awaitExit_ends (polls : p.pollInterval = .ofMillis poll) (positive : 0 < poll)
    (inRange : (start + limit) * 1000000 ≤ lastMoment.total) :
    ∃ last own,
      (∀ k < last, g.resolved p (moment start poll limit k) = false ∧ k * poll < limit) ∧
      (g.resolved p (moment start poll limit last) = true ∨ limit ≤ last * poll) ∧
      (g.resolved p (moment start poll limit last) = false →
        moment start poll limit last = start + limit) ∧
      Dialogue.Turns.Ends g.answer p.awaitExit (.begun (.ofMillis limit)) { now := start }
        (g.resolved p (moment start poll limit last))
        { now := moment start poll limit last
          own := own
          looks := (List.range (last + 1)).map (moment start poll limit) } := by
  obtain ⟨last, own, -, pending, stops, ends⟩ := ends_from polls positive inRange 0 []
  refine ⟨last, own, fun k before => pending k (Nat.zero_le k) before, stops, fun unresolved => ?_,
    .next (perform_begin inRange) ?_⟩
  · have late : limit ≤ last * poll :=
      stops.resolve_left fun resolved => Bool.noConfusion (unresolved.symm.trans resolved)
    exact Nat.le_antisymm (moment_le ..) (le_moment late)
  · rw [moment_zero, Nat.sub_zero, ← List.range_eq_range'] at ends
    exact ends

/-- The documents cannot be read at tick 3, the pod runs, and success is written at tick 6. -/
def lateSuccess : Scenery where
  code _ := none
  document n key :=
    let success := statusKey "default" "source-read-7-1-abcde" .succeeded
    if n = 3 then .error (.invalidKey key)
    else .ok (if key = success ∧ 6 ≤ n then some "done" else none)
  cluster _
    | .read _ => .ok (some { phase := .running })
    | .create .. | .delete _ | .copy .. | .tail .. => .error (.rejected "not asked for")

def polledPod : Detached :=
  attach { pollInterval := .ofMillis 2 } "source-read-7-1-abcde" "source:1" "7-1"

theorem awaitExit_ends_of_lateSuccess :
    ∃ own, Dialogue.Turns.Ends lateSuccess.answer polledPod.awaitExit (.begun (.ofMillis 5))
      { now := 1 } true { now := 6, own := own, looks := [1, 3, 5, 6] } := by
  have polls : polledPod.pollInterval = .ofMillis 2 := rfl
  have inRange : (1 + 5) * 1000000 ≤ lastMoment.total := by decide
  obtain ⟨last, own, pending, stops, -, ends⟩ :=
    awaitExit_ends (g := lateSuccess) polls (by decide) inRange
  have least : 3 ≤ last := by
    rcases stops with resolved | late
    · match last with
      | 0 | 1 | 2 => exact absurd resolved (by decide +kernel)
      | _ + 3 => exact Nat.le_add_left ..
    · omega
  have most : last ≤ 3 := Nat.not_lt.1 fun beyond => absurd (pending 3 beyond).2 (by decide)
  obtain rfl : last = 3 := Nat.le_antisymm most least
  have resolved : lateSuccess.resolved polledPod (moment 1 2 5 3) = true := by decide +kernel
  rw [resolved] at ends
  exact ⟨own, ends⟩

end Workload.Pod.Detached.Timed

end ConnectorSync
