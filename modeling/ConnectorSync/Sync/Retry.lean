import ConnectorSync.Duration

/-!
# Retries

How often a job is attempted and how long to wait in between. Failures that made progress and those
that made none are counted apart; a job is retried while no count exceeds its limit.
-/

namespace ConnectorSync.Sync

open Text

def largestWord : Nat := Nat.pow 2 32 - 1

/-- `base ^ exponent`, or the largest word where that is smaller. -/
def cappedPower (base exponent : Nat) : Nat :=
  if base ≤ 1 then base
  else if 32 ≤ exponent then largestWord
  else Nat.min (Nat.pow base exponent) largestWord

/-- `first` multiplied by `base` before each repetition but the first, up to `limit`. -/
def growingDelay (first limit : Duration) (base repetitions : Nat) : Duration :=
  ((first.times? (cappedPower base (repetitions - 1))).getD limit).min limit

/-- How the wait before a retry grows. -/
structure Backoff where
  minInterval : Duration
  maxInterval : Duration
  base : UInt32 := 3
  deriving DecidableEq

def Backoff.delay (b : Backoff) (failures : UInt32) : Duration :=
  if failures = 0 then .zero
  else growingDelay b.minInterval b.maxInterval (max b.base.toNat 1) failures.toNat

/-- How many failures of each kind are put up with. -/
structure RetryLimits where
  successiveComplete : UInt32 := 5
  totalComplete : UInt32 := 10
  successivePartial : UInt32 := 1000
  totalPartial : UInt32 := 20
  deriving DecidableEq, Repr

/-- The failures of a job so far, against their limits. -/
structure RetryBudget where
  backoff : Option Backoff := none
  limits : RetryLimits := {}
  successiveComplete : UInt32 := 0
  totalComplete : UInt32 := 0
  successivePartial : UInt32 := 0
  totalPartial : UInt32 := 0
  deriving DecidableEq

/-- One more, or the largest word again. -/
def countUp (n : UInt32) : UInt32 := if n.toNat = largestWord then n else n + 1

namespace RetryBudget

/-- A budget with nothing spent. -/
def fresh (backoff : Option Backoff) (limits : RetryLimits) : RetryBudget := { backoff, limits }

def recordFailure (b : RetryBudget) (madeProgress : Bool) : RetryBudget :=
  if madeProgress then
    { b with
      successivePartial := countUp b.successivePartial
      totalPartial := countUp b.totalPartial }
  else
    { b with
      successiveComplete := countUp b.successiveComplete
      totalComplete := countUp b.totalComplete }

def recordSuccess (b : RetryBudget) : RetryBudget := fresh b.backoff b.limits

def shouldRetry (b : RetryBudget) : Bool :=
  b.successiveComplete ≤ b.limits.successiveComplete && b.totalComplete ≤ b.limits.totalComplete &&
    b.successivePartial ≤ b.limits.successivePartial && b.totalPartial ≤ b.limits.totalPartial

def delay (b : RetryBudget) : Duration :=
  (b.backoff.map (·.delay b.successiveComplete)).getD .zero

/-- The wait before the next attempt, but no longer than a given time. -/
def delayWithin (b : RetryBudget) (remaining : Duration) : Duration :=
  if b.delay < remaining then b.delay else remaining

def message (b : RetryBudget) : String :=
  let ratio (n limit : UInt32) : String := decimal n.toNat ++ "/" ++ decimal limit.toNat
  "complete failures " ++ ratio b.successiveComplete b.limits.successiveComplete ++
    " successive, " ++ ratio b.totalComplete b.limits.totalComplete ++
    " total; partial failures " ++ ratio b.successivePartial b.limits.successivePartial ++
    " successive, " ++ ratio b.totalPartial b.limits.totalPartial ++
    " total; backoff " ++ decimal b.delay.seconds ++ "s"

end RetryBudget

end ConnectorSync.Sync
