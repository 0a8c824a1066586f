import ConnectorSync.Text.Numeral

/-!
# Durations

Spans of time in whole nanoseconds, up to the longest one that sixty-four bits of seconds hold.
Sums and products are partial: they answer `none` past the longest duration.
-/

namespace ConnectorSync

namespace Duration

def nanosPerSecond : Nat := 1000000000

/-- Nanoseconds of the longest duration. -/
def longestNanos : Nat := Nat.pow 2 64 * 1000000000 - 1

end Duration

/-- A span of time. -/
@[ext]
structure Duration where
  total : Nat
  total_le : total ≤ Duration.longestNanos
  deriving DecidableEq

namespace Duration

instance : LE Duration := ⟨fun a b => a.total ≤ b.total⟩
instance : LT Duration := ⟨fun a b => a.total < b.total⟩
instance (a b : Duration) : Decidable (a ≤ b) := inferInstanceAs (Decidable (a.total ≤ b.total))
instance (a b : Duration) : Decidable (a < b) := inferInstanceAs (Decidable (a.total < b.total))

/-- The duration of so many nanoseconds, if there is one that long. -/
def ofNanos? (n : Nat) : Option Duration :=
  if h : n ≤ longestNanos then some ⟨n, h⟩ else none

def zero : Duration := ⟨0, Nat.zero_le _⟩

/-- The longest span. As the time until something, it means never. -/
def longest : Duration := ⟨longestNanos, Nat.le_refl _⟩

/-- So many nanoseconds, or the longest duration where that is shorter. -/
def ofNanos (n : Nat) : Duration := ⟨min n longestNanos, Nat.min_le_right _ _⟩

def ofSeconds (n : Nat) : Duration := ofNanos (n * nanosPerSecond)

def ofMillis (n : Nat) : Duration := ofNanos (n * 1000000)

def seconds (d : Duration) : Nat := d.total / nanosPerSecond

/-- Nanoseconds beyond the whole seconds. -/
def subsecond (d : Duration) : Nat := d.total % nanosPerSecond

/-- Thousandths of a second, rounded up: the first tick of a clock of that grain at which the
duration has passed. -/
def ticks (d : Duration) : Nat := (d.total + 999999) / 1000000

/-- How long the clock has gone when its ticks begin to count: a day. -/
def earlierTicks : Nat := 24 * 60 * 60 * 1000

/-- The last tick of the clock, whose seconds are counted in sixty-four bits with a sign. -/
def lastTick : Nat := Nat.pow 2 63 * 1000 - 1 - earlierTicks

/-- `n` times the duration, if it is not too long. -/
def times? (d : Duration) (n : Nat) : Option Duration := ofNanos? (d.total * n)

def min (a b : Duration) : Duration := if b ≤ a then b else a

theorem total_min (a b : Duration) : (a.min b).total = Min.min b.total a.total := by
  unfold Duration.min
  by_cases le : b ≤ a
  · rw [if_pos le]
    exact (Nat.min_eq_left le).symm
  · have less : a.total < b.total := Nat.not_le.1 le
    rw [if_neg le]
    exact (Nat.min_eq_right (Nat.le_of_lt less)).symm

/-- What is left of `a` after `b`. -/
def minus (a b : Duration) : Duration :=
  ⟨a.total - b.total, Nat.le_trans (Nat.sub_le _ _) a.total_le⟩

instance : Inhabited Duration := ⟨zero⟩

end Duration

end ConnectorSync
