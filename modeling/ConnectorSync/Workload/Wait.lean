import ConnectorSync.Duration

/-!
# Waits with a limit

A wait that looks again and again until a deadline, which it sets when it begins. A clock tells the
moments up to a last one. Who needs a deadline after that breaks down: no answer of any kind follows.
-/

namespace ConnectorSync.Workload

inductive Wait
  | begun (limit : Duration)
  | until (deadline : Duration)

/-- The last moment of a clock, whose seconds are counted in sixty-four bits with a sign. -/
def lastMoment : Duration := .ofNanos (Nat.pow 2 63 * Duration.nanosPerSecond - 1)

/-- The moment that lies a span after another one, if the clock tells it. -/
def momentAfter (now span : Duration) : Option Duration :=
  let moment := now.total + span.total
  if moment ≤ lastMoment.total then some (.ofNanos moment) else none

/-- The moment a span from now, for a program that can ask for the time and can break down. -/
def deadlineAfter {m : Type → Type} [Monad m] (time : m Duration) (breakDown : m Empty)
    (span : Duration) : m Duration := do
  match momentAfter (← time) span with
  | some moment => return moment
  | none => return (← breakDown).elim

end ConnectorSync.Workload
