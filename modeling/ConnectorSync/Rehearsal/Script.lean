import ConnectorSync.Json.Basic
import ConnectorSync.Duration
import ConnectorSync.Launch.Step
import ConnectorSync.Sync.Wire
import ConnectorSync.Workload.Wire

/-!
# Scripts

A rehearsal runs a part of the library against scripted surroundings. Its script is a JSON value; a
part that is missing or of another kind stands for a default.
-/

namespace ConnectorSync.Rehearsal

open Json

def part (v : Value) (key : String) : Value := (v.member? key).getD .null

def items : Value → List Value
  | .array vs => vs
  | _ => []

def item (v : Value) (index : Nat) : Value := (items v)[index]?.getD .null

def members : Value → List (String × Value)
  | .object ms => ms
  | _ => []

def text? : Value → Option String
  | .string s => some s
  | _ => none

def text (v : Value) : String := (text? v).getD ""

def texts (v : Value) : List String := (items v).map text

def integer? : Value → Option Int
  | .number (.integer n) => some n
  | _ => none

def integer (v : Value) : Int := (integer? v).getD 0

def natural? (v : Value) : Option Nat := (integer? v).map Int.toNat

def natural (v : Value) : Nat := (integer v).toNat

def truth : Value → Bool
  | .bool b => b
  | _ => false

/-- What is read from a value unless that is null. -/
def optionally {α : Type} (f : Value → α) : Value → Option α
  | .null => none
  | v => some (f v)

/-- What is read from a value, or a default where that is null. -/
def given {α : Type} (v : Value) (f : Value → α) (default : α) : α := (optionally f v).getD default

def record? {α : Type} (decoder : Decoder α) (v : Value) : Option α :=
  (decoder (Draft.ofValue v)).toOption

def written? {α : Type} (decoder : Decoder α) (v : Value) : Option α :=
  (Json.read decoder (text v)).toOption

def nibble (c : Char) : Nat := ((Uuid.hexValue? c).map Fin.val).getD 0

def ofHex : List Char → Bytes
  | a :: b :: rest => UInt8.ofNat (nibble a * 16 + nibble b) :: ofHex rest
  | _ => []

/-- Bytes: a text, hexadecimal digits, or a text repeated. -/
def bytes (v : Value) : Bytes :=
  match v, part v "hex", part v "repeat" with
  | .string s, _, _ => Text.bytes s
  | _, .string digits, _ => ofHex digits.toList
  | _, _, .string s => (List.replicate (natural (part v "times")) (Text.bytes s)).flatten
  | _, _, _ => []

/-- A duration: thousandths of a second, or seconds and nanoseconds; null is the longest one. -/
def duration : Value → Duration
  | .null => .longest
  | .number (.integer n) => .ofMillis n.toNat
  | v =>
    .ofNanos (natural (part v "secs") * Duration.nanosPerSecond + natural (part v "nanos"))

/-- The duration under a key, or a default where there is none. -/
def durationOr (v : Value) (key : String) (default : Duration) : Duration :=
  ((v.member? key).map duration).getD default

def uuid (v : Value) : Uuid := (Uuid.parse? (text v)).getD .zero

def step (v : Value) : Launch.Step := (Launch.Step.ofName? (text v)).getD .spec

end ConnectorSync.Rehearsal
