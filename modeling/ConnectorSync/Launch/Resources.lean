import ConnectorSync.Decimal.Reading
import ConnectorSync.Text.Blank

/-!
# Resources

Amounts of processor time and memory, written as a number with a unit. `Resources.clamped` lowers a
request that exceeds its limit to the limit; amounts that cannot be read are left alone.
-/

namespace ConnectorSync.Launch

open Text Decimal

/-- The units an amount may have, with their factors. A unit is tried before those that could be
taken for its end. -/
def units : List (List Char × Float) :=
  [("Ki".toList, 1024.0), ("Mi".toList, 1048576.0), ("Gi".toList, 1073741824.0),
    ("Ti".toList, 1099511627776.0), (['m'], 0.001), (['k'], 1e3), (['K'], 1e3), (['M'], 1e6),
    (['G'], 1e9), (['T'], 1e12)]

def withoutEnding? (ending cs : List Char) : Option (List Char) :=
  if ending.isSuffixOf cs then some (cs.take (cs.length - ending.length)) else none

def quantity? (s : String) : Option Float :=
  let cs := (trim s).toList
  let withUnit := units.findSome? fun (unit, factor) =>
    (withoutEnding? unit cs).map fun number => (String.ofList number, factor)
  match withUnit with
  | some (number, factor) => (double? number).map (· * factor)
  | none => double? (String.ofList cs)

/-- A request and limit of processor time and memory. -/
structure Resources where
  cpuRequest : Option String := none
  cpuLimit : Option String := none
  memoryRequest : Option String := none
  memoryLimit : Option String := none
  deriving DecidableEq, Repr, Inhabited

namespace Resources

/-- The request, or the limit where the request exceeds it. -/
def clampRequest (request limit : Option String) : Option String :=
  match request, limit with
  | some r, some l =>
    match quantity? r, quantity? l with
    | some x, some y => if x > y then some l else some r
    | _, _ => some r
  | r, _ => r

/-- The resources with no request above its limit. -/
def clamped (r : Resources) : Resources :=
  { r with
    cpuRequest := clampRequest r.cpuRequest r.cpuLimit
    memoryRequest := clampRequest r.memoryRequest r.memoryLimit }

/-- Whether nothing is asked for. -/
def isEmpty (r : Resources) : Bool :=
  r.cpuRequest.isNone && r.cpuLimit.isNone && r.memoryRequest.isNone && r.memoryLimit.isNone

end Resources

end ConnectorSync.Launch
