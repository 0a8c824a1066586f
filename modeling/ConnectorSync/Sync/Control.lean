import ConnectorSync.Sync.Flags

/-!
# Control of a connection

What a connection's manager shares with those who signal to it. Each signal and each of the
manager's own changes happens as a whole, while no other does.
-/

namespace ConnectorSync.Sync

/-- The flags of the generation and the attempt in progress. -/
structure Control where
  flags : Flags := {}
  /-- Whether the attempt in progress is asked to end, if there is one. -/
  attempt : Option Bool := none
  deriving DecidableEq, Repr

/-- What can be asked of a connection's manager. -/
inductive Signal
  | manualSync
  | cancel
  | delete
  | updated
  | reset
  | resetAndSkipSchedule
  deriving DecidableEq, Repr

namespace Control

def cancelAttempt (c : Control) : Control := { c with attempt := c.attempt.map fun _ => true }

/-- A reset is asked for: at once if the wait for the schedule is over, else by ending that wait. -/
def requestReset (c : Control) (skipNext : Bool) : Control :=
  let flags := { c.flags with
    resetRequested := true
    skipSchedulingNext := skipNext || c.flags.skipSchedulingNext }
  if flags.doneWaiting then
    { c with flags := { flags with cancelledForReset := true } }.cancelAttempt
  else { c with flags := { flags with skipScheduling := true } }

/-- A signal's effect. A manual sync is ignored while a job runs, a cancellation while none does. -/
def signal (c : Control) : Signal → Control
  | .manualSync =>
    if c.flags.running then c else { c with flags := { c.flags with skipScheduling := true } }
  | .cancel =>
    if c.flags.running then { c with flags := { c.flags with cancelled := true } }.cancelAttempt
    else c
  | .delete =>
    let c := { c with flags := { c.flags with deleted := true } }
    if c.flags.running then { c with flags := { c.flags with cancelled := true } }.cancelAttempt
    else c
  | .updated => { c with flags := { c.flags with updated := true } }
  | .reset => c.requestReset false
  | .resetAndSkipSchedule => c.requestReset true

end Control

/-- What the manager does to the shared control. -/
inductive Section
  /-- A generation begins, with a job left open or not, and without waiting or not. -/
  | beginGeneration (jobOpen skipWait : Bool)
  | endWait
  | registerAttempt
  | releaseAttempt
  | recordSuccess
  | recordFailure
  | look
  /-- The generation is over; unless the connection is deleted, the next one begins. -/
  | endGeneration
  deriving DecidableEq, Repr

def Section.apply : Section → Control → Control
  | beginGeneration jobOpen skipWait, c =>
    { c with flags := { c.flags with
        running := jobOpen
        skipScheduling := skipWait || c.flags.skipScheduling } }
  | endWait, c =>
    { c with flags := { c.flags with
        doneWaiting := true
        skipScheduling := false
        running := c.flags.running ||
          !(c.flags.deleted || c.flags.updated || c.flags.cancelled) } }
  | registerAttempt, c =>
    { flags := { c.flags with running := true }
      attempt := some (c.flags.cancelled || c.flags.cancelledForReset || c.flags.deleted) }
  | releaseAttempt, c => { c with attempt := none }
  | recordSuccess, c => { c with flags := { c.flags with success := true } }
  | recordFailure, c => { c with flags := { c.flags with failed := true } }
  | look, c => c
  | endGeneration, c =>
    if c.flags.deleted then c else { flags := c.flags.nextGeneration, attempt := none }

end ConnectorSync.Sync
