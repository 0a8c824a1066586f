import ConnectorSync.Proofs.Sync.Clock
import ConnectorSync.Proofs.Sync.RetryBudgets

/-!
# The delay of a retry

How long a job that has failed waits for another attempt, by the failures without progress it has
had. A budget that has them spent tells the same delay, and the clock does not round it.
-/

namespace ConnectorSync

namespace Duration

/-- The duration is a whole number of ticks. -/
def IsWhole (d : Duration) : Prop := 1000000 ∣ d.total

instance (d : Duration) : Decidable d.IsWhole := inferInstanceAs (Decidable (1000000 ∣ d.total))

variable {a b : Duration}

theorem ext_of_le (le : a ≤ b) (ge : b ≤ a) : a = b := Duration.ext (Nat.le_antisymm le ge)

theorem ite_lt (a b : Duration) : (if a < b then a else b) = a.min b := by
  unfold min
  by_cases less : a < b
  · have notLe : ¬ b ≤ a := Nat.not_le.2 less
    rw [if_pos less, if_neg notLe]
  · have le : b ≤ a := Nat.not_lt.1 less
    rw [if_neg less, if_pos le]

theorem zero_min (b : Duration) : zero.min b = zero := by
  unfold min
  split
  · next le => exact ext_of_le le (Nat.zero_le _)
  · rfl

theorem min_longest (a : Duration) : a.min longest = a := by
  unfold min
  split
  · next le => exact ext_of_le le a.total_le
  · rfl

theorem IsWhole.ticks (h : a.IsWhole) : 1000000 * a.ticks = a.total := by
  obtain ⟨n, same⟩ := h
  unfold Duration.ticks
  omega

theorem IsWhole.min (ha : a.IsWhole) (hb : b.IsWhole) : (a.min b).IsWhole := by
  unfold Duration.min
  split
  · exact hb
  · exact ha

end Duration

namespace Sync

/-- The delay after so many failures, however many they are. -/
def Backoff.delayAfter (b : Backoff) (failures : Nat) : Duration :=
  if failures = 0 then .zero
  else growingDelay b.minInterval b.maxInterval (max b.base.toNat 1) failures

/-- How long to wait for another attempt after so many failures without progress: as the policy of
the template says, but no longer than until the next run. -/
def retryDelay (template : Option RetryBudget) (failures : Nat) (untilNext : Duration) : Duration :=
  match template.bind (·.backoff) with
  | some policy => (policy.delayAfter failures).min untilNext
  | none => .zero

theorem cappedPower_of_le {base exponent : Nat} (large : 32 ≤ exponent) :
    cappedPower base exponent = if base ≤ 1 then base else largestWord := by
  unfold cappedPower
  rw [if_pos large]

theorem Backoff.delay_countUp (b : Backoff) (failures : Nat) :
    b.delay (countUp^[failures] 0) = b.delayAfter failures := by
  have count : (countUp^[failures] 0).toNat = min failures largestWord :=
    toNat_countUp_iterate failures
  have zero : countUp^[failures] 0 = 0 ↔ failures = 0 := by
    rw [← UInt32.toNat_inj, count]
    have : 0 < largestWord := by decide
    simp only [UInt32.toNat_zero]
    omega
  unfold delay delayAfter
  by_cases none : failures = 0
  · rw [if_pos (zero.2 none), if_pos none]
  · rw [if_neg fun h => none (zero.1 h), if_neg none, count]
    by_cases large : failures ≤ largestWord
    · rw [Nat.min_eq_left large]
    · -- The counter stays at the largest word, where the power is capped already.
      have word : 33 ≤ largestWord := by decide
      unfold growingDelay
      rw [cappedPower_of_le (by omega), cappedPower_of_le (by omega)]

theorem waitingTime_eq {input : RunInput} {template : Option RetryBudget}
    (failed : input.fromFailure = true) (failures incomplete : Nat) (untilNext : Duration) :
    Manager.waitingTime input (template.map (·.spent failures incomplete)) untilNext =
      retryDelay template failures untilNext := by
  unfold Manager.waitingTime retryDelay
  rw [if_pos failed]
  cases template with
  | none => rfl
  | some b =>
    show (if (b.spent failures incomplete).delay < untilNext then _ else _) = _
    rw [Duration.ite_lt]
    unfold RetryBudget.delay RetryBudget.spent
    cases policy : b.backoff with
    | none =>
      simp only [policy, Option.map_none, Option.getD_none, Option.bind_some]
      exact Duration.zero_min untilNext
    | some policy' =>
      simp only [policy, Option.map_some, Option.getD_some, Option.bind_some]
      rw [Backoff.delay_countUp]

theorem eq_of_deadline {now tick : Nat} {span : Duration} (h : deadline now span = some tick) :
    tick = now + span.ticks := by
  unfold deadline at h
  dsimp only at h
  split at h
  · exact (Option.some.inj h).symm
  · cases h

/-! ### Whole ticks -/

theorem isWhole_growingDelay {first limit : Duration} (hf : first.IsWhole) (hl : limit.IsWhole)
    (base repetitions : Nat) : (growingDelay first limit base repetitions).IsWhole := by
  refine Duration.IsWhole.min ?_ hl
  cases product : first.times? (cappedPower base (repetitions - 1)) with
  | none => exact hl
  | some d =>
    unfold Duration.times? Duration.ofNanos? at product
    split at product
    · cases product
      exact Nat.dvd_trans hf (Nat.dvd_mul_right _ _)
    · cases product

/-- The intervals of the policy are whole numbers of ticks, if there is one. -/
def RetryStore.IsWhole (s : RetryStore) : Prop :=
  ∀ policy, s.template.bind (·.backoff) = some policy →
    policy.minInterval.IsWhole ∧ policy.maxInterval.IsWhole

theorem RetryStore.IsWhole.retryDelay {s : RetryStore} (h : s.IsWhole) {untilNext : Duration}
    (next : untilNext.IsWhole ∨ untilNext = .longest) (failures : Nat) :
    (retryDelay s.template failures untilNext).IsWhole := by
  unfold Sync.retryDelay
  split
  · next policy some =>
    obtain ⟨least, most⟩ := h policy some
    have delay : (policy.delayAfter failures).IsWhole := by
      unfold Backoff.delayAfter
      split
      · exact Nat.dvd_zero _
      · exact isWhole_growingDelay least most _ _
    rcases next with next | rfl
    · exact delay.min next
    · rw [Duration.min_longest]
      exact delay
  · exact Nat.dvd_zero _

end Sync

end ConnectorSync
