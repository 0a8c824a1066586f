import ConnectorSync.Proofs.Surroundings
import ConnectorSync.Workload.ExitCell
import ConnectorSync.Workload.Pod.Watch

/-!
# What the watch on a pod puts down

The cluster is looked at again and again, each time for the pod and, where that asks for it, for the
end of the connector's log. What all these looks would find tells which of them is the last one and
which code is put down after it, unless the watch is shut down before.
-/

namespace ConnectorSync.Workload.Pod.Watch

open Launch Cluster

/-! ### The code by the looks -/

structure Look where
  pod : Except Cluster.Error (Option PodStatus)
  log : Except Cluster.Error (List String)

namespace Look

def failed (l : Look) : Bool :=
  match l.pod with
  | .ok _ => false
  | .error _ => true

def tellsMemory (l : Look) : Bool :=
  match l.log with
  | .ok lines => tellsOutOfMemory lines
  | .error _ => false

def code? (l : Look) : Option Int :=
  match l.pod with
  | .error _ => none
  | .ok none => some 143
  | .ok (some pod) =>
    match (pod.container? mainContainer).bind fun main => main.exitCode.map (·, main.reason) with
    | some (code, reason) =>
      some (if reason = some "OOMKilled" ∨ code ≠ 0 ∧ l.tellsMemory then 137 else code)
    | none =>
      if ! pod.isTerminal then none
      else some (if l.tellsMemory then 137 else if pod.phase = .succeeded then 0 else 1)

end Look

variable (looks : Nat → Look)

/-- A look has failed, and so have the four before it. -/
def lost (n : Nat) : Bool := 4 ≤ n && (List.range 5).all fun back => (looks (n - back)).failed

/-- The code by which a look puts an end to the watch, if it does. -/
def verdict? (n : Nat) : Option Int := if lost looks n then some 143 else (looks n).code?

/-- How many looks in a row have failed before a look. -/
def failuresBefore : Nat → Nat
  | 0 => 0
  | n + 1 => if (looks n).failed then failuresBefore n + 1 else 0

variable {looks} {n : Nat}

theorem le_failuresBefore_iff (j n : Nat) :
    j ≤ failuresBefore looks n ↔ j ≤ n ∧ ∀ back < j, (looks (n - (back + 1))).failed := by
  induction n generalizing j with
  | zero =>
    refine ⟨fun le => ?_, fun ⟨le, _⟩ => le⟩
    obtain rfl := Nat.le_zero.1 le
    exact ⟨le, nofun⟩
  | succ n ih =>
    cases j with
    | zero => simp
    | succ j =>
      have shift (back : Nat) : n + 1 - (back + 1 + 1) = n - (back + 1) := by omega
      unfold failuresBefore
      by_cases fails : (looks n).failed
      · rw [if_pos fails, Nat.add_le_add_iff_right, Nat.add_le_add_iff_right, ih]
        refine and_congr_right fun _ => ⟨fun all back less => ?_, fun all back less => ?_⟩
        · cases back with
          | zero => exact fails
          | succ back =>
            rw [shift]
            exact all back (by omega)
        · rw [← shift]
          exact all (back + 1) (by omega)
      · rw [if_neg fails]
        refine iff_of_false (by omega) fun ⟨_, all⟩ => fails ?_
        exact all 0 (by omega)

theorem lost_iff (n : Nat) :
    lost looks n ↔ (looks n).failed ∧ mostFailedLooks ≤ failuresBefore looks n + 1 := by
  have enough : mostFailedLooks ≤ failuresBefore looks n + 1 ↔ 4 ≤ failuresBefore looks n := by
    unfold mostFailedLooks
    omega
  rw [enough, le_failuresBefore_iff]
  simp only [lost, Bool.and_eq_true, decide_eq_true_eq, List.all_eq_true, List.mem_range]
  constructor
  · rintro ⟨le, all⟩
    exact ⟨all 0 (by decide), le, fun back less => all (back + 1) (by omega)⟩
  · rintro ⟨fails, le, all⟩
    refine ⟨le, fun back less => ?_⟩
    cases back with
    | zero => exact fails
    | succ back => exact all back (by omega)

theorem verdict?_of_seen (seen : (looks n).failed = false) :
    verdict? looks n = (looks n).code? := by
  unfold verdict?
  rw [if_neg fun lost => ?_]
  have fails := ((lost_iff n).1 lost).1
  rw [seen] at fails
  contradiction

theorem verdict?_of_failed (failed : (looks n).failed) :
    verdict? looks n =
      if failuresBefore looks n + 1 < mostFailedLooks then none else some exitKilled := by
  have none : (looks n).code? = none := by
    unfold Look.failed at failed
    unfold Look.code?
    cases pod : (looks n).pod with
    | ok found =>
      rw [pod] at failed
      contradiction
    | error e => rfl
  unfold verdict?
  rw [none]
  by_cases lost : lost looks n
  · have enough := ((lost_iff n).1 lost).2
    rw [if_pos lost, if_neg (Nat.not_lt.2 enough)]
    rfl
  · have few := mt (fun enough => (lost_iff n).2 ⟨failed, enough⟩) lost
    rw [if_neg lost, if_pos (Nat.lt_of_not_le few)]

/-! ### The place of a watch -/

/-- The look at hand, and the one at which the watch was shut down; the cell, the codes that the
watch has put down, and all that were put down. -/
structure Site where
  look : Nat := 0
  shut : Option Nat := none
  cell : ExitCell := {}
  own : List Int := []
  puts : List Int := []

namespace Site

inductive Happens : Site → Site → Prop
  | putDown (s : Site) (code : Int) :
    Happens s { s with cell := s.cell.filled code, puts := s.puts ++ [code] }
  | shutDown (s : Site) (going : s.shut = none) : Happens s { s with shut := some s.look }

/-- The cluster answers with what the look at hand finds. -/
def Tells (key : PodKey) (oomLogLines : Nat) (looks : Nat → Look) (s : Site) :
    (r : Request) → r.Answer → Prop
  | .cluster (.read k), a => k = key → a = (looks s.look).pod
  | .cluster (.tail k container lines), a =>
    k = key ∧ container = mainContainer ∧ lines = oomLogLines → a = (looks s.look).log
  | .complete code, a => a = (s.cell.complete code).1
  | .pauseWatch _, a => a = s.shut.isNone
  | _, _ => True

def after (s : Site) : (r : Request) → r.Answer → Site
  | .complete code, _ =>
    { s with cell := s.cell.filled code, own := s.own ++ [code], puts := s.puts ++ [code] }
  | .pauseWatch _, goesOn => if goesOn then { s with look := s.look + 1 } else s
  | _, _ => s

end Site

variable {key : PodKey} {oomLogLines : Nat} {pollInterval : Duration} {s t : Site}

def site (key : PodKey) (oomLogLines : Nat) (looks : Nat → Look) :
    Surroundings Request Request.Answer Site where
  Happens := Site.Happens
  Answers s r a t := s.Tells key oomLogLines looks r a ∧ t = s.after r a

/-! ### One look -/

def putDown (code : Int) : Talk (Nat ⊕ Unit) := do
  let _ ← ask (.complete code)
  return .inr ()

def lookAgain (pollInterval : Duration) (failed : Nat) : Talk (Nat ⊕ Unit) := do
  if ← ask (.pauseWatch pollInterval) then return .inl failed else return .inr ()

structure Reached (looks : Nat → Look) (n : Nat) (s : Site) : Prop where
  look : s.look = n
  shut : ∀ m, s.shut = some m → m = n
  undecided : ∀ k < n, verdict? looks k = none

structure Watching (looks : Nat → Look) (n : Nat) (s : Site) : Prop extends Reached looks n s where
  own : s.own = []

structure Ready (looks : Nat → Look) (n failed : Nat) (s : Site) : Prop extends
    Watching looks n s where
  count : failed = failuresBefore looks n

inductive Over (looks : Nat → Look) (n : Nat) (s : Site) : Prop
  | decided {code : Int} (reached : Reached looks n s) (decided : verdict? looks n = some code)
    (own : s.own = [code])
  | stopped (watching : Watching looks n s) (silent : verdict? looks n = none)
    (shut : s.shut = some n)

def Turned (looks : Nat → Look) (n : Nat) : Nat ⊕ Unit → Site → Prop
  | .inl failed, s => Ready looks (n + 1) failed s
  | .inr (), s => Over looks n s

theorem Reached.happens (reached : Reached looks n s) (happens : s.Happens t) :
    Reached looks n t ∧ t.own = s.own := by
  obtain ⟨look, shut, undecided⟩ := reached
  cases happens with
  | putDown code => exact ⟨⟨look, shut, undecided⟩, rfl⟩
  | shutDown =>
    refine ⟨⟨look, fun m same => ?_, undecided⟩, rfl⟩
    exact (Option.some.inj same).symm.trans look

theorem lasts_watching : (site key oomLogLines looks).Lasts (Watching looks n) := by
  rintro s t ⟨reached, own⟩ happens
  obtain ⟨reached, same⟩ := reached.happens happens
  exact ⟨reached, same.trans own⟩

theorem lasts_ready (failed : Nat) :
    (site key oomLogLines looks).Lasts (Ready looks n failed) := by
  rintro s t ⟨watching, count⟩ happens
  exact ⟨lasts_watching watching happens, count⟩

theorem leads_decided {code : Int} (decided : verdict? looks n = some code)
    (watching : Watching looks n s) :
    (site key oomLogLines looks).Leads (Turned looks n) (putDown code) s := by
  refine .request lasts_watching watching ?_
  rintro t a _ ⟨⟨look, shut, undecided⟩, own⟩ ⟨-, rfl⟩
  refine .decided ⟨look, shut, undecided⟩ decided ?_
  show t.own ++ [code] = _
  rw [own]
  rfl

theorem leads_undecided {failed : Nat} (silent : verdict? looks n = none)
    (count : failed = failuresBefore looks (n + 1)) (watching : Watching looks n s) :
    (site key oomLogLines looks).Leads (Turned looks n) (lookAgain pollInterval failed) s := by
  refine .request lasts_watching watching ?_
  rintro t goesOn _ ⟨⟨look, shut, undecided⟩, own⟩ ⟨told, rfl⟩
  have told : goesOn = t.shut.isNone := told
  cases shutAt : t.shut with
  | none =>
    rw [shutAt] at told
    subst told
    refine ⟨⟨⟨congrArg (· + 1) look, fun m same => ?_, fun k less => ?_⟩, own⟩, count⟩
    · have same : t.shut = some m := same
      rw [shutAt] at same
      cases same
    · rcases Nat.lt_succ_iff_lt_or_eq.1 less with earlier | rfl
      · exact undecided k earlier
      · exact silent
  | some m =>
    rw [shutAt] at told
    subst told
    obtain rfl := shut m shutAt
    exact .stopped ⟨⟨look, shut, undecided⟩, own⟩ silent shutAt

theorem leads_ranOutOfMemory (watching : Watching looks n s) :
    (site key oomLogLines looks).Leads
      (fun tells t => tells = (looks n).tellsMemory ∧ Watching looks n t)
      (ranOutOfMemory key oomLogLines) s := by
  refine .request lasts_watching watching ?_
  rintro t lines u watching ⟨told, same⟩
  obtain rfl : t = u := same.symm
  have told : lines = (looks t.look).log := told ⟨rfl, rfl, rfl⟩
  rw [watching.look] at told
  subst told
  unfold Look.tellsMemory
  cases (looks n).log with
  | ok lines => exact ⟨rfl, watching⟩
  | error e => exact ⟨rfl, watching⟩

theorem leads_endCode {pod : PodStatus} (found : (looks n).pod = .ok (some pod))
    (watching : Watching looks n s) :
    (site key oomLogLines looks).Leads
      (fun code t => code = (looks n).code? ∧ Watching looks n t)
      (endCode key oomLogLines pod) s := by
  unfold endCode Look.code?
  rw [found]
  dsimp only
  generalize (pod.container? mainContainer).bind
    (fun main => main.exitCode.map (·, main.reason)) = ended
  rcases ended with _ | ⟨code, reason⟩
  · dsimp only
    cases terminal : pod.isTerminal with
    | false => exact ⟨rfl, watching⟩
    | true =>
      refine .bind (leads_ranOutOfMemory watching) ?_
      rintro tells t ⟨rfl, watching⟩
      cases (looks n).tellsMemory with
      | true => exact ⟨rfl, watching⟩
      | false => exact ⟨rfl, watching⟩
  · dsimp only
    by_cases killed : reason = some memoryKillReason
    · rw [if_pos killed]
      exact ⟨congrArg some (if_pos (.inl killed)).symm, watching⟩
    · rw [if_neg killed]
      by_cases failed : code = exitSuccess
      · rw [if_neg (not_not_intro failed)]
        refine ⟨congrArg some (if_neg ?_).symm, watching⟩
        rintro (killed' | ⟨failed', -⟩)
        · exact killed killed'
        · exact failed' failed
      · rw [if_pos failed]
        refine .bind (leads_ranOutOfMemory watching) ?_
        rintro tells t ⟨rfl, watching⟩
        cases (looks n).tellsMemory with
        | true => exact ⟨congrArg some (if_pos (.inr ⟨failed, rfl⟩)).symm, watching⟩
        | false =>
          refine ⟨congrArg some (if_neg ?_).symm, watching⟩
          rintro (killed' | ⟨-, tells⟩)
          · exact killed killed'
          · cases tells

/-- A turn of the watch is one look and what follows it. -/
theorem leads_watch {failed : Nat} (ready : Ready looks n failed s) :
    (site key oomLogLines looks).Leads (Turned looks n)
      (watch key pollInterval oomLogLines failed) s := by
  obtain ⟨watching, rfl⟩ := ready
  refine .request lasts_watching watching ?_
  rintro t answer u watching ⟨told, same⟩
  obtain rfl : t = u := same.symm
  have told : answer = (looks t.look).pod := told rfl
  rw [watching.look] at told
  subst told
  cases found : (looks n).pod with
  | error e =>
    have fails : (looks n).failed := by
      unfold Look.failed
      rw [found]
    have verdict := verdict?_of_failed fails
    dsimp only
    split
    · next few =>
      rw [if_pos few] at verdict
      refine leads_undecided verdict ?_ watching
      rw [failuresBefore, if_pos fails]
    · next many =>
      rw [if_neg many] at verdict
      exact leads_decided verdict watching
  | ok pod =>
    have seen : (looks n).failed = false := by
      unfold Look.failed
      rw [found]
    have verdict := verdict?_of_seen seen
    cases pod with
    | none =>
      refine leads_decided (verdict.trans ?_) watching
      unfold Look.code?
      rw [found]
      rfl
    | some pod =>
      refine .bind (leads_endCode found watching) ?_
      rintro code t ⟨rfl, watching⟩
      rw [← verdict]
      cases decided : verdict? looks n with
      | some code => exact leads_decided decided watching
      | none =>
        refine leads_undecided decided ?_ watching
        rw [failuresBefore, if_neg (by simp [seen])]

/-! ### All looks -/

structure Since (s t : Site) : Prop where
  shut : ∀ m, s.shut = some m → t.shut = some m
  puts : ∃ own puts, t.own = s.own ++ own ∧ t.puts = s.puts ++ puts ∧ own.Sublist puts ∧
    t.cell.code = s.cell.code.or puts.head?

theorem code_filled (cell : ExitCell) (code : Int) :
    (cell.filled code).code = cell.code.or (some code) := by
  obtain ⟨_ | held⟩ := cell <;> rfl

namespace Since

theorem of_same (shut : t.shut = s.shut) (own : t.own = s.own) (puts : t.puts = s.puts)
    (cell : t.cell = s.cell) : Since s t where
  shut m there := shut.trans there
  puts := by
    refine ⟨[], [], ?_, ?_, .slnil, ?_⟩
    · rw [own, List.append_nil]
    · rw [puts, List.append_nil]
    · rw [cell, List.head?_nil, Option.or_none]

theorem refl (s : Site) : Since s s := of_same rfl rfl rfl rfl

theorem trans {u : Site} (first : Since s t) (second : Since t u) : Since s u where
  shut m there := second.shut m (first.shut m there)
  puts := by
    obtain ⟨own, puts, ownEq, putsEq, sub, cell⟩ := first.puts
    obtain ⟨own', puts', ownEq', putsEq', sub', cell'⟩ := second.puts
    refine ⟨own ++ own', puts ++ puts', ?_, ?_, sub.append sub', ?_⟩
    · rw [ownEq', ownEq, List.append_assoc]
    · rw [putsEq', putsEq, List.append_assoc]
    · rw [cell', cell, List.head?_append, Option.or_assoc]

theorem happens (h : s.Happens t) : Since s t := by
  cases h with
  | putDown code =>
    refine ⟨fun _ there => there, [], [code], (List.append_nil _).symm, rfl, .cons _ .slnil, ?_⟩
    exact code_filled s.cell code
  | shutDown going =>
    refine ⟨fun m there => ?_, (refl s).puts⟩
    rw [going] at there
    cases there

theorem after (s : Site) (r : Request) (a : r.Answer) : Since s (s.after r a) := by
  cases r with
  | complete code =>
    exact ⟨fun _ there => there, [code], [code], rfl, rfl, .refl _, code_filled s.cell code⟩
  | pauseWatch span =>
    cases a with
    | true => exact of_same rfl rfl rfl rfl
    | false => exact refl s
  | _ => exact refl s

theorem walks {x y : Surroundings.Scene Request Request.Answer Site (Nat ⊕ Unit)}
    (walks : (site key oomLogLines looks).Walks (watch key pollInterval oomLogLines) x y) :
    Since x.state y.state := by
  induction walks with
  | refl => exact refl _
  | tail _ walk ih =>
    refine ih.trans ?_
    cases walk with
    | turn => exact refl _
    | step step =>
      cases step with
      | happening rest happens => exact .happens happens
      | @answer r next s t a answers =>
        obtain ⟨-, rfl⟩ := answers
        exact after s r a

end Since

abbrev Scene := Surroundings.Scene Request Request.Answer Site (Nat ⊕ Unit)

variable {cell : ExitCell} {x : Scene}

def Between (looks : Nat → Look) : Nat ⊕ Unit → Site → Prop
  | .inl failed, s => ∃ n, Ready looks n failed s
  | .inr (), s => ∃ n, Over looks n s

section Walks

variable (walks : (site key oomLogLines looks).Walks (watch key pollInterval oomLogLines)
  ⟨.done (.inl 0), { cell }⟩ x)

include walks

end Walks

def Site.reply (looks : Nat → Look) (s : Site) : (r : Request) → Option (r.Answer × Site)
  | .cluster (.read _) => some ((looks s.look).pod, s)
  | .cluster (.tail ..) => some ((looks s.look).log, s)
  | .complete code =>
    let put := (s.cell.complete code).1
    some (put, s.after (.complete code) put)
  | .pauseWatch span => some (s.shut.isNone, s.after (.pauseWatch span) s.shut.isNone)
  | _ => none

theorem Site.answers_reply {s t : Site} {r : Request} {a : r.Answer}
    (h : s.reply looks r = some (a, t)) : (site key oomLogLines looks).Answers s r a t := by
  cases r with
  | cluster r =>
    cases r with
    | read | tail =>
      cases h
      exact ⟨fun _ => rfl, rfl⟩
    | _ => cases h
  | complete | pauseWatch =>
    cases h
    exact ⟨rfl, rfl⟩
  | _ => cases h

end ConnectorSync.Workload.Pod.Watch
