import ConnectorSync.Sync.Config

/-!
# How delays grow

The delay before a repetition against its value in exact arithmetic: the first delay times a power
of the base, up to the limit. The product is told only up to the longest duration, which never
shows. The power is cut to what a word holds, which shows where the largest word does not take the
delay to its limit.
-/

namespace ConnectorSync.Sync

/-- The delay before a repetition in exact arithmetic, in nanoseconds. -/
def exactDelay (first limit : Duration) (base repetitions : Nat) : Nat :=
  min limit.total (first.total * Nat.pow base (repetitions - 1))

/-- The power fits in a word, or the largest word takes the delay to its limit as well. -/
def StaysExact (first limit : Duration) (base repetitions : Nat) : Prop :=
  Nat.pow base (repetitions - 1) ≤ largestWord ∨ first = .zero ∨
    limit.total ≤ first.total * largestWord

instance (first limit : Duration) (base repetitions : Nat) :
    Decidable (StaysExact first limit base repetitions) :=
  inferInstanceAs (Decidable (_ ∨ _ ∨ _))

variable {first limit : Duration} {base : Nat}

theorem cappedPower_eq (positive : 1 ≤ base) (exponent : Nat) :
    cappedPower base exponent = min (Nat.pow base exponent) largestWord := by
  unfold cappedPower
  split
  · next small =>
    obtain rfl : base = 1 := Nat.le_antisymm small positive
    rw [show Nat.pow 1 exponent = 1 from Nat.one_pow exponent]
    rfl
  · next large =>
    split
    · next long =>
      have two : Nat.pow 2 32 ≤ Nat.pow 2 exponent := Nat.pow_le_pow_right (by decide) long
      have more : Nat.pow 2 exponent ≤ Nat.pow base exponent :=
        Nat.pow_le_pow_left (by omega) exponent
      have word : largestWord ≤ Nat.pow 2 32 := by decide
      exact (Nat.min_eq_right (by omega)).symm
    · rfl

theorem total_times_min (n : Nat) :
    (((first.times? n).getD limit).min limit).total = min limit.total (first.total * n) := by
  rw [Duration.total_min]
  unfold Duration.times? Duration.ofNanos?
  split
  · rfl
  · next long =>
    -- What is past the longest duration is past the limit.
    have le := limit.total_le
    have past : limit.total ≤ first.total * n := by omega
    rw [Nat.min_eq_left past]
    exact Nat.min_self _

theorem total_growingDelay (positive : 1 ≤ base) (repetitions : Nat) :
    (growingDelay first limit base repetitions).total =
      min limit.total (first.total * min (Nat.pow base (repetitions - 1)) largestWord) := by
  unfold growingDelay
  rw [total_times_min, cappedPower_eq positive]

theorem growingDelay_le (positive : 1 ≤ base) (repetitions : Nat) :
    growingDelay first limit base repetitions ≤ limit := by
  show (growingDelay first limit base repetitions).total ≤ limit.total
  rw [total_growingDelay positive]
  exact Nat.min_le_left _ _

theorem growingDelay_mono (positive : 1 ≤ base) {i j : Nat} (le : i ≤ j) :
    growingDelay first limit base i ≤ growingDelay first limit base j := by
  show (growingDelay first limit base i).total ≤ (growingDelay first limit base j).total
  rw [total_growingDelay positive, total_growingDelay positive]
  have power : Nat.pow base (i - 1) ≤ Nat.pow base (j - 1) :=
    Nat.pow_le_pow_right positive (Nat.sub_le_sub_right le 1)
  have cut : min (Nat.pow base (i - 1)) largestWord ≤ min (Nat.pow base (j - 1)) largestWord := by
    omega
  have product := Nat.mul_le_mul_left first.total cut
  omega

theorem growingDelay_exact_iff (positive : 1 ≤ base) (repetitions : Nat) :
    (growingDelay first limit base repetitions).total = exactDelay first limit base repetitions ↔
      StaysExact first limit base repetitions := by
  rw [total_growingDelay positive]
  unfold exactDelay StaysExact
  generalize Nat.pow base (repetitions - 1) = power
  by_cases fits : power ≤ largestWord
  · rw [Nat.min_eq_left fits]
    exact iff_of_true rfl (.inl fits)
  · have cut : largestWord ≤ power := Nat.le_of_not_le fits
    rw [Nat.min_eq_right cut]
    by_cases nothing : first = .zero
    · subst nothing
      refine iff_of_true ?_ (.inr (.inl rfl))
      show min _ (0 * _) = min _ (0 * _)
      rw [Nat.zero_mul, Nat.zero_mul]
    · -- The products differ, so they are cut to the same delay just if the limit cuts both.
      have positive : 0 < first.total := by
        refine Nat.pos_of_ne_zero fun zero => nothing ?_
        exact Duration.ext zero
      have less : first.total * largestWord < first.total * power :=
        Nat.mul_lt_mul_of_pos_left (by omega) positive
      constructor
      · intro same
        refine .inr (.inr ?_)
        omega
      · rintro (fits | nothing | reached)
        · omega
        · contradiction
        · rw [Nat.min_eq_left reached, Nat.min_eq_left (by omega)]

/-- The delay before the next attempt of a job, and that before the repetition of a call, are what
exact arithmetic tells just if each stays exact where its power is cut. -/
theorem delays_exact_iff (policy : Backoff) (config : Config) {failures : UInt32}
    (failed : failures ≠ 0) (calls : Nat) :
    ((policy.delay failures).total =
        exactDelay policy.minInterval policy.maxInterval (max policy.base.toNat 1)
          failures.toNat ↔
      StaysExact policy.minInterval policy.maxInterval (max policy.base.toNat 1)
        failures.toNat) ∧
    ((config.retryDelay calls).total =
        exactDelay config.activityInitialInterval config.activityMaxInterval 2 calls ↔
      StaysExact config.activityInitialInterval config.activityMaxInterval 2 calls) := by
  constructor
  · unfold Backoff.delay
    rw [if_neg failed]
    exact growingDelay_exact_iff (Nat.le_max_right _ _) _
  · exact growingDelay_exact_iff (by decide) calls

/-- From a millisecond on, doubled up to a hundred days. -/
def Backoff.slow : Backoff where
  minInterval := .ofMillis 1
  maxInterval := .ofSeconds 8640000
  base := 2

def Config.slow : Config where
  activityInitialInterval := .ofMillis 1
  activityMaxInterval := .ofSeconds 8640000

/-- The power fits in a word after twenty failures, and is cut after fifty calls. -/
theorem delays_exact_of_slow : (20 : UInt32) ≠ 0 ∧
    (Backoff.slow.delay 20).total = exactDelay (.ofMillis 1) (.ofSeconds 8640000) 2 20 ∧
    (Config.slow.retryDelay 50).total ≠ exactDelay (.ofMillis 1) (.ofSeconds 8640000) 2 50 := by
  have failed : (20 : UInt32) ≠ 0 := by decide
  obtain ⟨backoff, calls⟩ := delays_exact_iff .slow .slow failed 50
  have fits : StaysExact (.ofMillis 1) (.ofSeconds 8640000) 2 20 := by decide
  have cut : ¬ StaysExact (.ofMillis 1) (.ofSeconds 8640000) 2 50 := by decide
  exact ⟨failed, backoff.2 fits, fun same => cut (calls.1 same)⟩

theorem delay_below_exact :
    ∃ (policy : Backoff) (config : Config) (failures : UInt32) (calls : Nat),
      1 ≤ failures ∧ 1 ≤ calls ∧
      (policy.delay failures).total <
        exactDelay policy.minInterval policy.maxInterval (max policy.base.toNat 1)
          failures.toNat ∧
      (config.retryDelay calls).total <
        exactDelay config.activityInitialInterval config.activityMaxInterval 2 calls :=
  ⟨.slow, .slow, 34, 34, by decide, by decide, by decide, by decide⟩

end ConnectorSync.Sync
