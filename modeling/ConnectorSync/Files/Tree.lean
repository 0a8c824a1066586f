import ConnectorSync.Files.Fault
import ConnectorSync.Files.Path
import ConnectorSync.Text.Bytes

/-!
# Trees of files

A file system as a list of absolute places with a file or directory at each. A path is followed
from the working directory one name at a time, so that every name but the last must be a directory.
The root directory is always there and has no entry.
-/

namespace ConnectorSync.Files

abbrev Place := List String

inductive Entry
  | file (contents : Bytes)
  | directory
  deriving DecidableEq

/-- Files and directories by place, and the working directory. -/
structure Tree where
  entries : List (Place × Entry) := []
  workingDirectory : Place := []

namespace Tree

def entry? (t : Tree) (p : Place) : Option Entry :=
  if p = [] then some .directory else (t.entries.find? (·.1 = p)).map (·.2)

def put (t : Tree) (p : Place) (e : Entry) : Tree :=
  { t with entries := (p, e) :: t.entries.filter (·.1 ≠ p) }

/-- The tree without a place and all below it. -/
def remove (t : Tree) (p : Place) : Tree :=
  { t with entries := t.entries.filter fun e => ! p.isPrefixOf e.1 }

def longestName : Nat := 255

def longestPath : Nat := 4095

/-- One step along a path, from a place that is there. -/
def follow (t : Tree) (p : Place) (name : String) : Except Fault Place :=
  match t.entry? p with
  | none => .error .notFound
  | some (.file _) => .error .notDirectory
  | some .directory =>
    if name = "" ∨ name = "." then .ok p
    else if name = ".." then .ok p.dropLast
    else if longestName < name.utf8ByteSize then .error .invalidName
    else .ok (p ++ [name])

/-- The end of a path: the place before its last name, that name, and whether slashes follow it. -/
structure Ending where
  above : Place
  name : String
  slash : Bool

def approach (t : Tree) (path : String) : Except Fault Ending := do
  if path.toList.any (· = '\x00') then throw .invalidInput
  if longestPath < path.utf8ByteSize then throw .invalidName
  if path = "" then throw .notFound
  let pieces := (splitSlashes path.toList).map String.ofList
  let names := (pieces.reverse.dropWhile (· = "")).reverse
  let start := if path.startsWith "/" then [] else t.workingDirectory
  let above ← names.dropLast.foldlM t.follow start
  return ⟨above, names.getLast?.getD "", names.length < pieces.length⟩

/-- A path's place, with whether a directory is asked for by a slash at its end. The place itself
need not be there. -/
def resolve (t : Tree) (path : String) : Except Fault (Place × Bool) := do
  let ending ← t.approach path
  let place ← t.follow ending.above ending.name
  return (place, ending.slash || ending.name = "." || ending.name = "..")

def readFile (t : Tree) (path : String) : Except Fault Bytes := do
  let (place, asDirectory) ← t.resolve path
  match t.entry? place with
  | none => throw .notFound
  | some .directory => throw .isDirectory
  | some (.file contents) => if asDirectory then throw .notDirectory else return contents

def readText (t : Tree) (path : String) : Except Fault String := do
  match Text.ofBytes? (← t.readFile path) with
  | some s => return s
  | none => throw .invalidData

/-- A file with the given contents in place of any before it. A slash after the last name asks for a
directory, which is refused before the name is looked at. -/
def writeFile (t : Tree) (path : String) (contents : Bytes) : Except Fault Tree := do
  let ending ← t.approach path
  if ending.slash && t.entry? ending.above = some .directory then throw .isDirectory
  let place ← t.follow ending.above ending.name
  match t.entry? place with
  | some .directory => throw .isDirectory
  | _ => return t.put place (.file contents)

def isDirectory (t : Tree) (path : String) : Bool :=
  match t.resolve path with
  | .ok (place, _) => t.entry? place = some .directory
  | .error _ => false

def createDirectory (t : Tree) (path : String) : Except Fault Tree := do
  let (place, _) ← t.resolve path
  match t.entry? place with
  | some _ => throw .alreadyExists
  | none => return t.put place .directory

def parent? (path : String) : Option String :=
  let cs := path.toList.reverse.dropWhile (· = '/')
  if cs.isEmpty then none
  else
    let above := (cs.dropWhile (· ≠ '/')).dropWhile (· = '/')
    if above.isEmpty then some (if path.startsWith "/" then "/" else "")
    else some (String.ofList above.reverse)

/-- A directory at a path, with those above it that are missing, and the tree as far as it got. The
fuel bounds the number of directories above the path. -/
def createDirectoriesWithin : Nat → Tree → String → Except Fault Unit × Tree
  | fuel, t, path =>
    let settle (t : Tree) (fault : Fault) : Except Fault Unit × Tree :=
      (if t.isDirectory path then .ok () else .error fault, t)
    if path = "" then (.ok (), t)
    else match t.createDirectory path with
      | .ok t => (.ok (), t)
      | .error .notFound =>
        match fuel, parent? path with
        | fuel + 1, some above =>
          match createDirectoriesWithin fuel t above with
          | (.ok (), t) =>
            match t.createDirectory path with
            | .ok t => (.ok (), t)
            | .error fault => settle t fault
          | failed => failed
        | _, _ => (.error (.other "failed to create whole tree"), t)
      | .error fault => settle t fault

/-- A directory at a path, with those above it that are missing, and the tree as far as it got. -/
def createDirectories (t : Tree) (path : String) : Except Fault Unit × Tree :=
  createDirectoriesWithin path.length t path

/-- The tree without the directory at a path and all in it. -/
def removeDirectory (t : Tree) (path : String) : Except Fault Tree := do
  let (place, _) ← t.resolve path
  match t.entry? place with
  | none => throw .notFound
  | some (.file _) => throw .notDirectory
  | some .directory => return t.remove place

/-- The tree without the file at a path. -/
def removeFile (t : Tree) (path : String) : Except Fault Tree := do
  let (place, asDirectory) ← t.resolve path
  match t.entry? place with
  | none => throw .notFound
  | some .directory => throw .isDirectory
  | some (.file _) => if asDirectory then throw .notDirectory else return t.remove place

/-- A file put at a place together with the directories above it. -/
def seed (t : Tree) (place : Place) (contents : Bytes) : Tree :=
  let above := (List.range (place.length - 1)).map fun n => place.take (n + 1)
  let t := above.foldl (fun t p => if (t.entry? p).isSome then t else t.put p .directory) t
  t.put place (.file contents)

/-- The entries below a place, with their places relative to it. -/
def below (t : Tree) (p : Place) : List (Place × Entry) :=
  t.entries.filterMap fun e =>
    if p.isPrefixOf e.1 && p.length < e.1.length then some (e.1.drop p.length, e.2) else none

end Tree

end ConnectorSync.Files
