/-!
# Connector steps

What a connector can be asked to do, and the name it is asked by.
-/

namespace ConnectorSync.Launch

inductive Step
  | spec
  | check
  | discover
  | read
  | write
  deriving DecidableEq, Repr, Inhabited

namespace Step

def all : List Step := [spec, check, discover, read, write]

/-- The name of the step, which is also its first argument. -/
def name : Step → String
  | spec => "spec"
  | check => "check"
  | discover => "discover"
  | read => "read"
  | write => "write"

def ofName? (s : String) : Option Step :=
  all.find? (·.name = s)

def usesStdin : Step → Bool
  | write => true
  | _ => false

end Step

end ConnectorSync.Launch
