import ConnectorSync.Cluster.Error
import ConnectorSync.Documents.Error

/-!
# Process errors

Why a question to a running connector failed.
-/

namespace ConnectorSync.Workload

/-- Why a question to a running connector failed. -/
inductive Error
  | notTerminated
  | timeout
  | cluster (error : Cluster.Error)
  | documents (error : Documents.Error)
  | io (fault : Files.Fault)
  deriving DecidableEq

def Error.message : Error → String
  | .notTerminated => "Process has not terminated"
  | .timeout => "Timed out waiting for process"
  | .cluster error => "Cluster error: " ++ error.message
  | .documents error => "Document store error: " ++ error.message
  | .io fault => "IO error: " ++ fault.message

end ConnectorSync.Workload
