import ConnectorSync.Cluster.Error

/-!
# Launch errors

Why a connector could not be started.
-/

namespace ConnectorSync.Launch

open Text

/-- Why a connector could not be started. -/
inductive Error
  | imageNotFound (image : String)
  | podRejected (reason : String)
  | noPortsAvailable
  | initTimeout (pod : String) (seconds : Nat)
  | terminatedDuringStartup (pod : String)
  | startFailed (reason : String)
  | cluster (error : Cluster.Error)
  | io (fault : Files.Fault)
  | json (fault : Json.Fault)
  deriving DecidableEq

def Error.message : Error → String
  | .imageNotFound image => "Image not found: " ++ image
  | .podRejected reason => "Pod rejected: " ++ reason
  | .noPortsAvailable => "No relay ports available"
  | .initTimeout pod seconds =>
    "Init container for " ++ pod ++ " not running after " ++ decimal seconds ++ "s"
  | .terminatedDuringStartup pod => "Pod " ++ pod ++ " terminated during startup"
  | .startFailed reason => "Container start failed: " ++ reason
  | .cluster error => "Cluster error: " ++ error.message
  | .io fault => "IO error: " ++ fault.message
  | .json fault => "JSON error: " ++ fault.message

end ConnectorSync.Launch
