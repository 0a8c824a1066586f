import ConnectorSync.Uuid
import ConnectorSync.Sync.Failure

/-!
# Flags of a connection

What a connection's manager and those who signal to it tell each other during one generation of a
run, and what is handed from one generation to the next.
-/

namespace ConnectorSync.Sync

/-- The state of one generation. Every flag is down when a generation begins. -/
structure Flags where
  running : Bool := false
  doneWaiting : Bool := false
  cancelled : Bool := false
  cancelledForReset : Bool := false
  deleted : Bool := false
  updated : Bool := false
  skipScheduling : Bool := false
  skipSchedulingNext : Bool := false
  resetRequested : Bool := false
  failed : Bool := false
  success : Bool := false
  generation : UInt64 := 0
  deriving DecidableEq, Repr

namespace Flags

def nextGeneration (f : Flags) : Flags := { generation := f.generation + 1 }

/-- Whether a flag is up that ends the wait for the schedule. -/
def interruptsWait (f : Flags) : Bool :=
  f.skipScheduling || f.deleted || f.updated || f.cancelled

def named (f : Flags) : List (String × Bool) :=
  [("running", f.running), ("done_waiting", f.doneWaiting), ("cancelled", f.cancelled),
    ("cancelled_for_reset", f.cancelledForReset), ("deleted", f.deleted), ("updated", f.updated),
    ("skip_scheduling", f.skipScheduling),
    ("skip_scheduling_next_workflow", f.skipSchedulingNext),
    ("reset_requested", f.resetRequested), ("failed", f.failed), ("success", f.success)]

end Flags

structure RunInput where
  connectionId : Uuid
  jobId : Option JobId := none
  attempt : Nat := 1
  fromFailure : Bool := false
  skipScheduling : Bool := false
  resetConnection : Bool := false
  deriving DecidableEq

def RunInput.fresh (connectionId : Uuid) : RunInput := { connectionId }

end ConnectorSync.Sync
