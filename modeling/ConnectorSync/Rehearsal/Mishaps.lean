import ConnectorSync.Rehearsal.Script

/-!
# Mishaps

What goes wrong with the calls that a rehearsed part makes: for each name of a call a list with an
entry for one call after the other.
-/

namespace ConnectorSync.Rehearsal

/-- Mishaps by the name of the call, each for one call; none lets a call through. -/
abbrev Mishaps (α : Type) := List (String × List (Option α))

def mishaps {α : Type} (mishap : Json.Value → α) (v : Json.Value) : Mishaps α :=
  (members v).map fun (name, list) => (name, (items list).map (optionally mishap))

namespace Mishaps

variable {α : Type}

def take (name : String) : Mishaps α → Option α × Mishaps α
  | [] => (none, [])
  | (other, list) :: rest =>
    if other = name ∧ ! list.isEmpty then (list.head?.join, (other, list.tail) :: rest)
    else
      let (found, rest) := take name rest
      (found, (other, list) :: rest)

def append (old new : Mishaps α) : Mishaps α :=
  new.foldl (fun all (name, list) =>
    if all.any (·.1 = name) then
      all.map fun (other, l) => if other = name then (other, l ++ list) else (other, l)
    else all ++ [(name, list)]) old

end Mishaps

end ConnectorSync.Rehearsal
