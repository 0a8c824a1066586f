import ConnectorSync.Launch.Error
import ConnectorSync.Workload.Error

/-!
# Activity errors

Why a call to one of the manager's collaborators failed.
-/

namespace ConnectorSync.Sync

/-- Why a call to a collaborator failed. -/
inductive ActivityError
  | unavailable (reason : String)
  | notFound (what : String)
  | launch (error : Launch.Error)
  | process (error : Workload.Error)
  | io (fault : Files.Fault)
  deriving DecidableEq

def ActivityError.message : ActivityError → String
  | .unavailable reason => "Activity unavailable: " ++ reason
  | .notFound what => "Not found: " ++ what
  | .launch error => "Launch error: " ++ error.message
  | .process error => "Process error: " ++ error.message
  | .io fault => "IO error: " ++ fault.message

end ConnectorSync.Sync
