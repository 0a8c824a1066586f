/-!
# Paths

Slash-separated paths as texts. `components` splits a path the way a reader of the path does:
repeated and trailing slashes do not count, and a dot counts only at the start.
-/

namespace ConnectorSync.Files

inductive Component
  | root
  | current
  | parent
  | normal (name : String)
  deriving DecidableEq, Repr

def splitSlashes : List Char → List (List Char)
  | [] => [[]]
  | c :: cs =>
    if c = '/' then [] :: splitSlashes cs
    else match splitSlashes cs with
      | [] => [[c]]
      | piece :: rest => (c :: piece) :: rest

def Component.ofPiece (piece : List Char) : Option Component :=
  if piece = [] ∨ piece = ['.'] then none
  else if piece = ['.', '.'] then some .parent
  else some (.normal (String.ofList piece))

def components (path : String) : List Component :=
  match splitSlashes path.toList with
  | [] => []
  | first :: rest =>
    let inner := rest.filterMap Component.ofPiece
    if first = [] then if rest.isEmpty then [] else .root :: inner
    else if first = ['.'] then .current :: inner
    else (Component.ofPiece first).toList ++ inner

/-- `relative` below `base`; an absolute path stands for itself. -/
def join (base relative : String) : String :=
  if relative.startsWith "/" then relative
  else if base = "" || base.endsWith "/" then base ++ relative
  else base ++ "/" ++ relative

end ConnectorSync.Files
