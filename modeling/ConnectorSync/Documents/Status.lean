/-!
# Status documents

A detached workload reports how far it is by writing one document per status. The statuses have an
order of authority: `Status.resolve` answers the most authoritative one that has a document.
-/

namespace ConnectorSync.Documents

/-- How far a detached workload is. -/
inductive Status
  | notStarted
  | initializing
  | running
  | failed
  | succeeded
  deriving DecidableEq, Repr

namespace Status

def all : List Status := [notStarted, initializing, running, failed, succeeded]

def precedence : List Status := [failed, succeeded, running, initializing]

/-- The name of the status, which is also the last part of its document's key. -/
def name : Status → String
  | notStarted => "NOT_STARTED"
  | initializing => "INITIALIZING"
  | running => "RUNNING"
  | failed => "FAILED"
  | succeeded => "SUCCEEDED"

def ofName? (s : String) : Option Status :=
  all.find? (·.name = s)

/-- A status after which nothing follows. -/
def isTerminal : Status → Bool
  | failed | succeeded => true
  | _ => false

end Status

def statusKey (ns name : String) (status : Status) : String :=
  ns ++ "/" ++ name ++ "/" ++ status.name

/-- The most authoritative status with a document, reading one key after another. -/
def resolveStatus {m : Type → Type} [Monad m] {ε : Type}
    (read : String → m (Except ε (Option String))) (ns name : String) : m (Except ε Status) :=
  let rec go : List Status → m (Except ε Status)
    | [] => pure (.ok .notStarted)
    | status :: rest => do
      match ← read (statusKey ns name status) with
      | .error e => return .error e
      | .ok (some _) => return .ok status
      | .ok none => go rest
  go Status.precedence

end ConnectorSync.Documents
