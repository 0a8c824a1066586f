import ConnectorSync.Files.Fault
import ConnectorSync.Json.Fault

/-!
# Cluster errors

Why a request to the cluster failed.
-/

namespace ConnectorSync.Cluster

open Text

/-- Why a request to the cluster failed. -/
inductive Error
  | command (line : String) (status : Int) (stderr : String)
  | rejected (reason : String)
  | io (fault : Files.Fault)
  | json (fault : Json.Fault)
  deriving DecidableEq

def Error.message : Error → String
  | .command line status stderr =>
    line ++ " failed with status " ++ decimalInt status ++ ": " ++ stderr
  | .rejected reason => "Rejected: " ++ reason
  | .io fault => "IO error: " ++ fault.message
  | .json fault => "JSON error: " ++ fault.message

end ConnectorSync.Cluster
