import ConnectorSync.Environment
import ConnectorSync.Sync.ActivityError

/-!
# Program errors

Why one of the programs failed, with the part it failed in named first.
-/

namespace ConnectorSync

inductive Error
  | config (error : ConfigError)
  | definition (fault : Json.Fault)
  | launch (error : Launch.Error)
  | process (error : Workload.Error)
  | activity (error : Sync.ActivityError)
  | io (fault : Files.Fault)
  | json (fault : Json.Fault)
  deriving DecidableEq

def Error.message : Error → String
  | .config error => "Configuration error: " ++ error.message
  | .definition fault => "Invalid connection definition: " ++ fault.message
  | .launch error => "Launch error: " ++ error.message
  | .process error => "Process error: " ++ error.message
  | .activity error => "Activity error: " ++ error.message
  | .io fault => "IO error: " ++ fault.message
  | .json fault => "JSON error: " ++ fault.message

end ConnectorSync
