import ConnectorSync.Files.Fault
import ConnectorSync.Json.Fault

/-!
# Document errors

Why a document cannot be read.
-/

namespace ConnectorSync.Documents

/-- Why a document cannot be read. -/
inductive Error
  | invalidKey (key : String)
  | io (fault : Files.Fault)
  | json (fault : Json.Fault)
  deriving DecidableEq

def Error.message : Error → String
  | .invalidKey key => "Invalid document key: " ++ key
  | .io fault => "IO error: " ++ fault.message
  | .json fault => "JSON error: " ++ fault.message

end ConnectorSync.Documents
