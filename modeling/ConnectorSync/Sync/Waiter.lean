import ConnectorSync.Duration
import ConnectorSync.Sync.Control

/-!
# Waiters

How a connection's manager waits for a time or for flags without missing a signal. Who signals
changes the flags first and rings the bell after that; the bell wakes only those who registered for
it before and is not remembered. So a waiter registers, then reads the flags, and parks only when it
found none that ends its wait; woken by the bell it starts again.
-/

namespace ConnectorSync.Sync

inductive Wait
  | schedule
  | recovery
  deriving DecidableEq, Repr

def Wait.isInterrupted : Wait → Flags → Bool
  | schedule, flags => flags.interruptsWait
  | recovery, flags => flags.deleted

inductive Waiter
  /-- It has not registered for the bell. -/
  | arriving
  /-- It is registered and has yet to read the flags; the bell may have rung since. -/
  | registered (rung : Bool)
  /-- It read the flags and found none that ends the wait; the bell may have rung since. -/
  | parked (rung : Bool)
  | ended
  deriving DecidableEq, Repr

namespace Waiter

def ring : Waiter → Waiter
  | registered _ => registered true
  | parked _ => parked true
  | w => w

/-- The next step, under the flags as they are and with the time come or not. -/
def step (purpose : Wait) (flags : Flags) (isDue : Bool) : Waiter → Waiter
  | arriving => registered false
  | registered rung => if purpose.isInterrupted flags then ended else parked rung
  | parked rung => if rung then arriving else if isDue then ended else parked false
  | ended => ended

end Waiter

/-- The tick at which a wait is over. One that outlasts the clock never is. -/
def deadline (clock : Nat) (span : Duration) : Option Nat :=
  let t := clock + span.ticks
  if t ≤ Duration.lastTick then some t else none

end ConnectorSync.Sync
