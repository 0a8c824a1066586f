import ConnectorSync.Docker.Command
import ConnectorSync.Host.Request

/-!
# Input files of containers

A container finds its input files in the directory of its attempt, which is made and filled before
it starts and removed when it is destroyed.
-/

namespace ConnectorSync.Docker

open Files Host

/-- Files are written into a directory one after another, up to the first that cannot be. -/
def writeFiles (dir : String) : List (String × String) → Host.Talk (Except Fault Unit)
  | [] => return .ok ()
  | (name, contents) :: rest => do
    match ← ask (.writeFile (join dir name) (Text.bytes contents)) with
    | .error fault => return .error fault
    | .ok () => writeFiles dir rest

/-- The descriptor's files are written into a directory, which is made first. -/
def materialize (dir : String) (d : Launch.Descriptor) : Host.Talk (Except Fault Unit) := do
  match ← ask (.createDirectories dir) with
  | .error fault => return .error fault
  | .ok () => writeFiles dir d.files.entries

/-- An attempt's directory is removed. One that is not there, or cannot be removed, is let be. -/
def removeJobRoot (dir : String) : Host.Talk Unit := do
  let _ ← ask (.removeDirectory dir)

end ConnectorSync.Docker
