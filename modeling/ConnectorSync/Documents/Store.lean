import ConnectorSync.Documents.Error
import ConnectorSync.Documents.Status
import ConnectorSync.Files.Tree
import ConnectorSync.Json.Decode

/-!
# Document stores

Two stores of status documents and workload outputs: `Shelf` keeps them in memory, `Folder` reads
them from a directory. A folder accepts only keys whose every component is an ordinary name, so that
no key leads out of it.
-/

namespace ConnectorSync.Documents

/-- Documents and outputs kept in memory. -/
structure Shelf where
  documents : StringMap String := .empty
  outputs : StringMap Json.Value := .empty

namespace Shelf

def read (s : Shelf) (key : String) : Option String := s.documents.find? key

def output (s : Shelf) (workloadId : String) : Option Json.Value := s.outputs.find? workloadId

def writeStatus (s : Shelf) (ns name : String) (status : Status) (contents : String) : Shelf :=
  { s with documents := s.documents.insert (statusKey ns name status) contents }

def writeOutput (s : Shelf) (workloadId : String) (output : Json.Value) : Shelf :=
  { s with outputs := s.outputs.insert workloadId output }

end Shelf

structure Folder where
  root : String

namespace Folder

def isOrdinary : Files.Component → Bool
  | .normal _ => true
  | _ => false

def path (f : Folder) (key : String) : Except Error String :=
  if key ≠ "" && (Files.components key).all isOrdinary then .ok (Files.join f.root key)
  else .error (.invalidKey key)

def readPath (files : Files.Tree) (path : String) : Except Error (Option String) :=
  match files.readText path with
  | .ok text => .ok (some text)
  | .error .notFound => .ok none
  | .error fault => .error (.io fault)

def read (f : Folder) (files : Files.Tree) (key : String) : Except Error (Option String) := do
  readPath files (← f.path key)

def outputKey (workloadId : String) : String := "job-output/" ++ workloadId ++ ".json"

def output (f : Folder) (files : Files.Tree) (workloadId : String) :
    Except Error (Option Json.Value) := do
  match ← readPath files (← f.path (outputKey workloadId)) with
  | none => return none
  | some text =>
    match Json.parse text with
    | .ok v => return some v
    | .error fault => throw (.json fault)

end Folder

end ConnectorSync.Documents
