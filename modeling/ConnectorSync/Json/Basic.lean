import ConnectorSync.Json.Number
import ConnectorSync.StringMap

/-!
# JSON values

Values with the members of an object in a fixed order. Free values are kept with their members
sorted by key and without repeats.
-/

namespace ConnectorSync.Json

inductive Value
  | null
  | bool (b : Bool)
  | number (n : Number)
  | string (s : String)
  | array (items : List Value)
  | object (members : List (String × Value))

namespace Value

instance : Inhabited Value := ⟨.null⟩

def int (n : Int) : Value := .number (.integer n)

def nat (n : Nat) : Value := .int n

def member? (v : Value) (key : String) : Option Value :=
  match v with
  | .object ms => (ms.find? (·.1 = key)).map (·.2)
  | _ => none

/-- An optional value, or null. -/
def orNull : Option Value → Value
  | some v => v
  | none => .null

end Value

/-- Members in the order of their keys; of repeated keys the last one counts. -/
def sortMembers {α : Type} (members : List (String × α)) : List (String × α) :=
  (StringMap.ofList members).entries

/-- A free object: its members in the order of their keys. -/
def Value.record (members : List (String × Value)) : Value :=
  .object (sortMembers members)

def Value.present (members : List (String × Option Value)) : Value :=
  .object (members.filterMap fun (key, v) => v.map fun v => (key, v))

def Value.ofMap {α : Type} (f : α → Value) (m : StringMap α) : Value :=
  .object (m.entries.map fun (key, v) => (key, f v))

def Value.ofList {α : Type} (f : α → Value) (items : List α) : Value :=
  .array (items.map f)

end ConnectorSync.Json
