import Mathlib.Data.List.DropRight
import ConnectorSync.Proofs.Sync.RetryLedger

/-!
# The counters of a retry budget

A budget is told of failures, with and without progress, and of successes, in any order. Its
counters are the failures since the last success, as far as a word goes, and it does not allow
another attempt again before it is told of a success.
-/

namespace ConnectorSync.Sync

inductive RetryRecord where
  | failure (madeProgress : Bool)
  | success
  deriving DecidableEq

/-- How many failures with or without progress there were since the last success. -/
def failuresSinceSuccess (madeProgress : Bool) (history : List RetryRecord) : Nat :=
  (history.rtakeWhile (· ≠ .success)).count (.failure madeProgress)

theorem failuresSinceSuccess_success (madeProgress : Bool) (history : List RetryRecord) :
    failuresSinceSuccess madeProgress (history ++ [.success]) = 0 := by
  rw [failuresSinceSuccess, List.rtakeWhile_concat_neg _ _ _ (by simp), List.count_nil]

theorem failuresSinceSuccess_failure (madeProgress other : Bool) (history : List RetryRecord) :
    failuresSinceSuccess madeProgress (history ++ [.failure other]) =
      failuresSinceSuccess madeProgress history + if other = madeProgress then 1 else 0 := by
  rw [failuresSinceSuccess, List.rtakeWhile_concat_pos _ _ _ (by simp), List.count_append,
    List.count_singleton, failuresSinceSuccess]
  simp

namespace RetryBudget

def record (b : RetryBudget) : RetryRecord → RetryBudget
  | .failure madeProgress => b.recordFailure madeProgress
  | .success => b.recordSuccess

def recordAll (b : RetryBudget) (records : List RetryRecord) : RetryBudget :=
  records.foldl record b

/-- The counters are these numbers of failures, or the largest word where they are beyond it. -/
structure Counts (b : RetryBudget) (complete incomplete : Nat) : Prop where
  successiveComplete : b.successiveComplete.toNat = min complete largestWord
  totalComplete : b.totalComplete.toNat = min complete largestWord
  successivePartial : b.successivePartial.toNat = min incomplete largestWord
  totalPartial : b.totalPartial.toNat = min incomplete largestWord

variable {b : RetryBudget}

theorem recordAll_concat (records : List RetryRecord) (r : RetryRecord) :
    b.recordAll (records ++ [r]) = (b.recordAll records).record r := by
  simp [recordAll]

theorem counts_spent (complete incomplete : Nat) :
    (b.spent complete incomplete).Counts complete incomplete where
  successiveComplete := toNat_countUp_iterate complete
  totalComplete := toNat_countUp_iterate complete
  successivePartial := toNat_countUp_iterate incomplete
  totalPartial := toNat_countUp_iterate incomplete

/-- Of a fresh budget as much is spent as failures were recorded since the last success. -/
theorem recordAll_fresh (backoff : Option Backoff) (limits : RetryLimits)
    (history : List RetryRecord) :
    (fresh backoff limits).recordAll history =
      (fresh backoff limits).spent (failuresSinceSuccess false history)
        (failuresSinceSuccess true history) := by
  induction history using List.reverseRecOn with
  | nil => rfl
  | append_singleton history r ih =>
    rw [recordAll_concat, ih]
    cases r with
    | failure madeProgress =>
      rw [record, recordFailure_spent, failuresSinceSuccess_failure, failuresSinceSuccess_failure]
      cases madeProgress <;> simp
    | success =>
      rw [failuresSinceSuccess_success, failuresSinceSuccess_success]
      rfl

/-- A failure does not make room for another attempt. -/
theorem shouldRetry_of_recordFailure {madeProgress : Bool}
    (allowed : (b.recordFailure madeProgress).shouldRetry) : b.shouldRetry := by
  rw [shouldRetry_iff] at allowed ⊢
  cases madeProgress with
  | false =>
    obtain ⟨first, second, third, fourth⟩ := allowed
    exact ⟨UInt32.le_trans (le_countUp _) first, UInt32.le_trans (le_countUp _) second, third,
      fourth⟩
  | true =>
    obtain ⟨first, second, third, fourth⟩ := allowed
    exact ⟨first, second, UInt32.le_trans (le_countUp _) third,
      UInt32.le_trans (le_countUp _) fourth⟩

theorem shouldRetry_of_recordAll {records : List RetryRecord} (noSuccess : .success ∉ records)
    (allowed : (b.recordAll records).shouldRetry) : b.shouldRetry := by
  induction records generalizing b with
  | nil => exact allowed
  | cons r records ih =>
    rw [List.mem_cons, not_or] at noSuccess
    have before : (b.record r).shouldRetry := ih noSuccess.2 allowed
    cases r with
    | failure madeProgress => exact shouldRetry_of_recordFailure before
    | success => exact absurd rfl noSuccess.1

/-- Whatever a fresh budget is told, its counters are the failures since the last success, it allows
another attempt exactly while each of them is within its limit, and once it does not it never does
before the next success. -/
theorem counters_of_history (backoff : Option Backoff) (limits : RetryLimits)
    (history : List RetryRecord) :
    let b := (fresh backoff limits).recordAll history
    b.Counts (failuresSinceSuccess false history) (failuresSinceSuccess true history) ∧
      (b.shouldRetry ↔ b.successiveComplete ≤ limits.successiveComplete ∧
        b.totalComplete ≤ limits.totalComplete ∧ b.successivePartial ≤ limits.successivePartial ∧
        b.totalPartial ≤ limits.totalPartial) ∧
      (b.shouldRetry = false →
        ∀ more, .success ∉ more → (b.recordAll more).shouldRetry = false) ∧
      (b.record .success).shouldRetry ∧ b.backoff = backoff ∧ b.limits = limits := by
  have spent := recordAll_fresh backoff limits history
  refine ⟨?counts, ?exact, ?stays, ?again, ?_, ?_⟩
  case counts =>
    rw [spent]
    exact counts_spent ..
  case exact =>
    rw [shouldRetry_iff, spent]
    rfl
  case stays =>
    intro refused more noSuccess
    rw [← Bool.not_eq_true] at refused ⊢
    exact fun allowed => refused (shouldRetry_of_recordAll noSuccess allowed)
  case again =>
    simp [record, recordSuccess, fresh, shouldRetry]
  all_goals
    rw [spent]
    rfl

/-- One failure without progress more than the limit is too many, and it takes a success after the
last of them for another attempt. -/
theorem counters_of_two_failures :
    let limits : RetryLimits := { successiveComplete := 1 }
    let b := (fresh none limits).recordAll
      [.failure false, .success, .failure false, .failure true, .failure false]
    b.Counts 2 1 ∧ b.shouldRetry = false ∧
      (b.recordAll [.failure true, .failure false]).shouldRetry = false ∧
      (b.record .success).shouldRetry := by
  have told := counters_of_history none { successiveComplete := 1 }
    [.failure false, .success, .failure false, .failure true, .failure false]
  have refused : ((fresh none { successiveComplete := 1 }).recordAll
      [.failure false, .success, .failure false, .failure true, .failure false]).shouldRetry =
        false := by decide
  exact ⟨told.1, refused, told.2.2.1 refused _ (by decide), told.2.2.2.1⟩

end RetryBudget

end ConnectorSync.Sync
