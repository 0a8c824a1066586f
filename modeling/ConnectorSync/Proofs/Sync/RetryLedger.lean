import Mathlib.Logic.Function.Iterate
import ConnectorSync.Proofs.Sync.Records

/-!
# The ledger of retries

What a store of retry budgets holds and how often each job was attempted and failed, read off what
has happened in a run.
-/

namespace ConnectorSync.Sync

/-! ### Limits -/

namespace RetryLimits

/-- How many failures without progress are put up with. -/
def complete (l : RetryLimits) : Nat := min l.successiveComplete.toNat l.totalComplete.toNat

/-- How many failures with progress are put up with. -/
def incomplete (l : RetryLimits) : Nat := min l.successivePartial.toNat l.totalPartial.toNat

/-- A count that does not go beyond the largest word can exceed the limits. -/
def CanBeExceeded (l : RetryLimits) : Prop := l.complete < largestWord ∧ l.incomplete < largestWord

instance (l : RetryLimits) : Decidable l.CanBeExceeded := inferInstanceAs (Decidable (_ ∧ _))

end RetryLimits

theorem toNat_countUp (n : UInt32) : (countUp n).toNat = min (n.toNat + 1) largestWord := by
  have bound : n.toNat < 2 ^ 32 := n.toNat_lt
  have largest : largestWord = 2 ^ 32 - 1 := rfl
  unfold countUp
  split
  · omega
  · rw [UInt32.toNat_add]
    have one : (1 : UInt32).toNat = 1 := rfl
    omega

theorem toNat_countUp_iterate (n : Nat) : (countUp^[n] 0).toNat = min n largestWord := by
  induction n with
  | zero => simp
  | succ n ih =>
    rw [Function.iterate_succ_apply', toNat_countUp, ih]
    omega

theorem le_countUp (n : UInt32) : n ≤ countUp n := by
  have bound : n.toNat < 2 ^ 32 := n.toNat_lt
  have largest : largestWord = 2 ^ 32 - 1 := rfl
  rw [UInt32.le_iff_toNat_le, toNat_countUp]
  omega

namespace RetryBudget

/-- A budget of which so many failures without and with progress are spent. -/
def spent (b : RetryBudget) (complete incomplete : Nat) : RetryBudget where
  backoff := b.backoff
  limits := b.limits
  successiveComplete := countUp^[complete] 0
  totalComplete := countUp^[complete] 0
  successivePartial := countUp^[incomplete] 0
  totalPartial := countUp^[incomplete] 0

variable {b : RetryBudget} {complete incomplete : Nat}

theorem recordFailure_spent (madeProgress : Bool) :
    (b.spent complete incomplete).recordFailure madeProgress =
      if madeProgress then b.spent complete (incomplete + 1)
      else b.spent (complete + 1) incomplete := by
  cases madeProgress <;> simp [recordFailure, spent, Function.iterate_succ_apply']

theorem shouldRetry_iff : b.shouldRetry ↔
    b.successiveComplete ≤ b.limits.successiveComplete ∧
      b.totalComplete ≤ b.limits.totalComplete ∧
      b.successivePartial ≤ b.limits.successivePartial ∧
      b.totalPartial ≤ b.limits.totalPartial := by
  simp [shouldRetry, and_assoc]

/-- A budget allows another attempt while neither count exceeds the smaller of its limits. -/
theorem shouldRetry_spent (h : b.limits.CanBeExceeded) :
    (b.spent complete incomplete).shouldRetry ↔
      complete ≤ b.limits.complete ∧ incomplete ≤ b.limits.incomplete := by
  obtain ⟨first, second⟩ := h
  unfold RetryLimits.complete RetryLimits.incomplete at *
  rw [shouldRetry_iff]
  simp only [spent, UInt32.le_iff_toNat_le, toNat_countUp_iterate]
  omega

end RetryBudget

/-! ### What has been counted -/

/-- How often a job was attempted, how often it failed without and with progress, and what was said
of its last failure. -/
structure Tally where
  attempts : Nat := 0
  complete : Nat := 0
  incomplete : Nat := 0
  summary : Option FailureSummary := none

namespace Tally

def attempt (t : Tally) : Tally := { t with attempts := t.attempts + 1 }

def fail (t : Tally) (status : AttemptStatus) (summary : FailureSummary) : Tally :=
  match status with
  | .failed => { t with complete := t.complete + 1, summary := some summary }
  | .incomplete => { t with incomplete := t.incomplete + 1, summary := some summary }
  | _ => t

theorem attempts_fail (t : Tally) (status : AttemptStatus) (summary : FailureSummary) :
    (t.fail status summary).attempts = t.attempts := by
  cases status <;> rfl

end Tally

/-- The budgets that are kept, and what was counted of each job. -/
structure Ledger where
  store : RetryStore
  tally : JobId → Tally

namespace Ledger

def count (l : Ledger) (job : JobId) (f : Tally → Tally) : Ledger :=
  { l with tally := Function.update l.tally job (f (l.tally job)) }

def after (l : Ledger) : Event → Ledger
  | .told (.call (.createAttempt job)) (.ok _) => l.count job Tally.attempt
  | .told (.call (.failAttempt job _ status summary)) (.ok _) =>
    l.count job fun t => t.fail status summary
  | .told (.call (.persist job budget)) (.ok _) => { l with store := l.store.persist job budget }
  | _ => l

def budget (l : Ledger) (job : JobId) : Option RetryBudget :=
  l.store.template.map fun b => b.spent (l.tally job).complete (l.tally job).incomplete

/-- A job may be attempted once more: no limit of its budget is exceeded, or without budgets the
given number of attempts is not used up. -/
def Allows (most : Nat) (l : Ledger) (job : JobId) : Prop :=
  match l.store.template with
  | some b => (l.tally job).complete ≤ b.limits.complete ∧
      (l.tally job).incomplete ≤ b.limits.incomplete
  | none => (l.tally job).attempts < max 1 most

def mostAttempts (most : Nat) (l : Ledger) : Nat :=
  match l.store.template with
  | some b => b.limits.complete + b.limits.incomplete + 1
  | none => max 1 most

@[simp] theorem tally_count_self (l : Ledger) (job : JobId) (f : Tally → Tally) :
    (l.count job f).tally job = f (l.tally job) := Function.update_self ..

theorem tally_count_of_ne {job k : JobId} (l : Ledger) (f : Tally → Tally) (other : k ≠ job) :
    (l.count job f).tally k = l.tally k := Function.update_of_ne other ..

theorem after_failed (l : Ledger) (call : Call) (e : ActivityError) :
    l.after (.told (.call call) (.error e)) = l := by
  cases call <;> rfl

theorem template_after (l : Ledger) (e : Event) :
    (l.after e).store.template = l.store.template := by
  unfold after
  split <;> rfl

theorem tally_after_of_other {k : JobId} {call : Call} {reply : call.Reply} (l : Ledger)
    (other : call.target ≠ some k) :
    (l.after (.told (.call call) (.ok reply))).tally k = l.tally k := by
  cases call with
  | createAttempt job =>
    exact tally_count_of_ne l _ fun same => other (congrArg some same.symm)
  | failAttempt job n status summary =>
    exact tally_count_of_ne l (fun t => t.fail status summary)
      fun same => other (congrArg some same.symm)
  | _ => rfl

/-- The number of attempts of a job is counted by their creation. -/
theorem attempts_after (l : Ledger) (e : Event) (job : JobId) :
    ((l.after e).tally job).attempts = (l.tally job).attempts ∨
      (∃ n, e = .told (.call (.createAttempt job)) (.ok n)) ∧
        ((l.after e).tally job).attempts = (l.tally job).attempts + 1 := by
  unfold after
  split
  · next k n =>
    by_cases same : job = k
    · subst same
      exact .inr ⟨⟨n, rfl⟩, by simp [Tally.attempt]⟩
    · exact .inl (by rw [tally_count_of_ne l _ same])
  · next k n status summary reply =>
    by_cases same : job = k
    · subst same
      exact .inl (by simp [Tally.attempts_fail])
    · exact .inl (by rw [tally_count_of_ne l _ same])
  · exact .inl rfl
  · exact .inl rfl

end Ledger

/-- What is in the ledger after what has happened, with the budgets that were kept before. -/
def ledger (first : RetryStore) : List Event → Ledger
  | [] => { store := first, tally := fun _ => {} }
  | e :: past => (ledger first past).after e

theorem template_ledger (first : RetryStore) (past : List Event) :
    (ledger first past).store.template = first.template := by
  induction past with
  | nil => rfl
  | cons e past ih => rw [ledger, Ledger.template_after, ih]

/-! ### Numbers of jobs and attempts -/

theorem Call.length_le_revise (c : Call) (j : Job) :
    j.attempts.length ≤ (c.revise j).attempts.length := by
  by_cases creates : ∃ job, c = .createAttempt job
  · obtain ⟨job, rfl⟩ := creates
    simp [revise]
  · have numbers : (c.revise j).numbers = j.numbers :=
      numbers_revise fun job same => creates ⟨job, same⟩
    refine Nat.le_of_eq ?_
    simpa [Job.numbers] using congrArg List.length numbers.symm

theorem Call.Effect.target_le {id : Uuid} {c : Call} {s t : JobStore} {reply : c.Reply} {k : JobId}
    (h : c.Effect id s reply t) (numbered : s.Numbered) (target : c.target = some k) :
    k ≤ s.lastId := by
  obtain ⟨row, found, -⟩ := (h.revises target).found
  exact numbered k row found

structure World.Counts (first : RetryStore) (w : World) : Prop where
  numbered : w.jobs.Numbered
  unused : ∀ k, w.jobs.lastId < k → (ledger first w.past).tally k = {}
  rows : ∀ k row, w.jobs.find? k = some row →
    ((ledger first w.past).tally k).attempts ≤ row.attempts.length

namespace World.Counts

variable {store : RetryStore} {w w' : World} {id : Uuid}

theorem created {isReset : Bool} {job : JobId} {jobs : JobStore} (h : w.Counts store)
    (effect : (Call.createJob isReset).Effect id w.jobs job jobs) :
    (ledger store w.past).tally job = {} := by
  refine h.unused job ?_
  rw [effect.created.1]
  exact Int.lt_succ _

theorem attempted {job : JobId} {n : Nat} {jobs : JobStore} (h : w.Counts store)
    (effect : (Call.createAttempt job).Effect id w.jobs n jobs) :
    ((ledger store w.past).tally job).attempts < n := by
  obtain ⟨row, found, -⟩ := (effect.revises rfl).found
  rw [effect.attempted found]
  exact Nat.lt_succ_of_le (h.rows job row found)

theorem carried {call : Call} {reply : call.Reply} {jobs : JobStore} (h : w.Counts store)
    (effect : call.Effect id w.jobs reply jobs) :
    ({ w with jobs }.note (.call call) (.ok reply)).Counts store := by
  have other (k : JobId) (apart : call.target ≠ some k) :
      (ledger store (.told (.call call) (.ok reply) :: w.past)).tally k =
        (ledger store w.past).tally k := Ledger.tally_after_of_other _ apart
  have unused (k : JobId) (beyond : w.jobs.lastId < k) :
      (ledger store (.told (.call call) (.ok reply) :: w.past)).tally k = {} := by
    refine (other k fun target => ?_).trans (h.unused k beyond)
    exact Int.not_le.2 beyond (effect.target_le h.numbered target)
  refine ⟨effect.numbered h.numbered, fun k beyond => ?_, fun k row found => ?_⟩
  · exact unused k (Int.lt_of_le_of_lt effect.lastId_le beyond)
  -- the row is that of the target, another one, or a new one
  rcases effect.row found with ⟨-, old, before, rfl⟩ | ⟨apart, before⟩ | ⟨rfl, _, _, rfl⟩
  · have rows := h.rows k old before
    rcases Ledger.attempts_after (ledger store w.past) (.told (.call call) (.ok reply)) k with
      same | ⟨⟨n, created⟩, more⟩
    · exact Nat.le_trans (Nat.le_of_eq same) (Nat.le_trans rows (call.length_le_revise old))
    · cases created
      refine Nat.le_trans (Nat.le_of_eq more) ?_
      simpa [Call.revise] using rows
  · have same := congrArg Tally.attempts (other k apart)
    exact Nat.le_trans (Nat.le_of_eq same) (h.rows k row before)
  · exact Nat.le_of_eq (congrArg Tally.attempts (unused _ (Int.lt_succ _)))

theorem answer {r : Request} {a : r.Answer} (h : w.Counts store) (answers : w.Answers id r a w') :
    (w'.note r a).Counts store := by
  cases answers with
  | carried call reply jobs effect => exact h.carried effect
  | failed call e =>
    have same : ledger store (.told (.call call) (.error e) :: w.past) = ledger store w.past :=
      Ledger.after_failed _ call e
    refine ⟨h.numbered, fun k beyond => ?_, fun k row found => ?_⟩
    · exact (congrArg (·.tally k) same).trans (h.unused k beyond)
    · exact Nat.le_trans (Nat.le_of_eq (congrArg (·.tally k |>.attempts) same)) (h.rows k row found)
  | checked | executed | entered | waited | paused | timed =>
    exact ⟨h.numbered, h.unused, h.rows⟩

theorem hear {s : Signal} (h : w.Counts store) : (w.hear s).Counts store :=
  ⟨h.numbered, h.unused, h.rows⟩

theorem first {m : Manager} (rows : List Job) :
    (Moment.first m rows).world.Counts store where
  numbered := JobStore.numbered_foldl_insert JobStore.numbered_empty rows
  unused _ _ := rfl
  rows _ _ _ := Nat.zero_le _

end World.Counts

end ConnectorSync.Sync
