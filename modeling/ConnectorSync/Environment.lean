import ConnectorSync.Duration
import ConnectorSync.StringMap
import ConnectorSync.Text.Bytes
import ConnectorSync.Text.Numeral

/-!
# Environment variables

Settings by name. A variable whose value is not text counts as unset. Readers answer the default for
a variable that is unset and refuse a value that cannot be read.
-/

namespace ConnectorSync

open Text

structure ConfigError where
  name : String
  value : String
  deriving DecidableEq, Repr

def ConfigError.message (e : ConfigError) : String :=
  "Invalid value for " ++ e.name ++ ": " ++ e.value

/-- Environment variables with the bytes of their values. -/
structure Environment where
  values : StringMap Bytes := .empty

namespace Environment

def get? (env : Environment) (name : String) : Option String :=
  (env.values.find? name).bind ofBytes?

/-- The text of a variable, or a default. -/
def text (env : Environment) (name default : String) : String :=
  (env.get? name).getD default

/-- A variable that is read by `parse`, or a default. -/
def parsed {α : Type} (env : Environment) (name : String) (parse : String → Option α) (default : α) :
    Except ConfigError α :=
  match env.get? name with
  | none => .ok default
  | some value =>
    match parse value with
    | some a => .ok a
    | none => .error ⟨name, value⟩

/-- A natural number of at most `bound`. -/
def number (env : Environment) (name : String) (bound default : Nat) : Except ConfigError Nat :=
  env.parsed name (unsigned? bound) default

/-- A switch: `true` and `1` turn it on, anything else off. -/
def switch (env : Environment) (name : String) : Bool :=
  env.get? name = some "true" || env.get? name = some "1"

def below16 : Nat := Nat.pow 2 16 - 1
def below32 : Nat := Nat.pow 2 32 - 1
def below64 : Nat := Nat.pow 2 64 - 1

end Environment

end ConnectorSync
