import ConnectorSync.Json.Draft
import ConnectorSync.Duration
import ConnectorSync.Timestamp
import ConnectorSync.Uuid

/-!
# Decoding drafts

A decoder reads a value of one type from a draft, left to right, and fails with the first fault it
meets. Records are described field by field: `Fields` says which keys are known, how each is read
and what stands in for one that is missing. A record is read from an object, or from an array of its
fields in order.
-/

namespace ConnectorSync.Json

open Text

abbrev Decoder (α : Type) := Draft → Except Fault α

namespace Decode

def describeNumber : Number → String
  | .integer i => "integer `" ++ decimalInt i ++ "`"
  | .real _ => "floating point"

/-- The fault of a value of the wrong type. A string or number that cannot be read is reported as
such; a container is not looked into. -/
def wrongType {α : Type} (expected : String) : Decoder α
  | .null => .error (.ofCause (.wrongType "null" expected))
  | .bool true => .error (.ofCause (.wrongType "boolean `true`" expected))
  | .bool false => .error (.ofCause (.wrongType "boolean `false`" expected))
  | .number (.ok n) => .error (.ofCause (.wrongType (describeNumber n) expected))
  | .number (.error f) => .error f
  | .string (.ok s) => .error (.ofCause (.wrongType ("string \"" ++ s ++ "\"") expected))
  | .string (.error f) => .error f
  | .array .. => .error (.ofCause (.wrongType "sequence" expected))
  | .object .. => .error (.ofCause (.wrongType "map" expected))
  | .sunken d _ => wrongType expected d
  | .broken fault => .error fault.reading

def bool : Decoder Bool
  | .bool b => .ok b
  | d => wrongType "a boolean" d

def text : Decoder String
  | .string content => content
  | d => wrongType "a string" d

def integer (low high : Int) (expected : String) : Decoder Int
  | .number (.ok (.integer i)) =>
    if low ≤ i ∧ i ≤ high then .ok i
    else .error (.ofCause (.wrongValue (describeNumber (.integer i)) expected))
  | d => wrongType expected d

/-- A natural number below `2 ^ 32`. -/
def nat32 : Decoder Nat := fun d =>
  (integer 0 (Nat.pow 2 32 - 1 : Nat) "a natural number of 32 bits" d).map Int.toNat

/-- A natural number below `2 ^ 64`. -/
def nat64 : Decoder Nat := fun d =>
  (integer 0 (Nat.pow 2 64 - 1 : Nat) "a natural number of 64 bits" d).map Int.toNat

def int32 : Decoder Int :=
  integer (-(Nat.pow 2 31)) (Nat.pow 2 31 - 1 : Nat) "an integer of 32 bits"

def int64 : Decoder Int :=
  integer (-(Nat.pow 2 63)) (Nat.pow 2 63 - 1 : Nat) "i64"

def word32 : Decoder UInt32 := fun d => (nat32 d).map UInt32.ofNat

def word64 : Decoder UInt64 := fun d => (nat64 d).map UInt64.ofNat

def optional {α : Type} (decode : Decoder α) : Decoder (Option α)
  | .null => .ok none
  | d => (decode d).map some

def listOf {α : Type} (decode : Decoder α) : Decoder (List α)
  | .array items cut => do
    let vs ← items.mapM decode
    Draft.orFault (cut.map (·.reading))
    return vs
  | .sunken _ fault => .error fault
  | d => wrongType "a sequence" d

/-- The members of an object whose values have one type; of repeated keys the last one counts. -/
def mapOf {α : Type} (decode : Decoder α) : Decoder (StringMap α)
  | .object members cut => do
    let ms ← members.mapM fun (key, d) => do
      let k ← key
      let v ← decode d
      return (k, v)
    Draft.orFault (cut.map (·.reading))
    return StringMap.ofList ms
  | .sunken _ fault => .error fault
  | d => wrongType "a map" d

/-- One of the names of a finite choice, alone or as the only key of an object with the value
null. -/
def choice {α : Type} (named : String → Option α) : Decoder α
  | .string content => do
    let name ← content
    match named name with
    | some a => .ok a
    | none => .error (.ofCause (.unknownVariant name))
  | .object [] cut => .error ((cut.map (·.choosing)).getD ⟨.expectedValue, none⟩)
  | .object ((key, d) :: more) cut => do
    let name ← key
    match named name with
    | none => .error (.ofCause (.unknownVariant name))
    | some a =>
      match d with
      | .null =>
        if more.isEmpty then Draft.orFault (cut.map (·.choosing))
        else .error ⟨.expectedValue, none⟩
      | d => wrongType "unit" d
      return a
  | .sunken _ fault => .error fault
  | .broken fault => .error fault.choosing
  | _ => .error ⟨.expectedValue, none⟩

def notated {α : Type} (parse : String → Option α) (expected : String) : Decoder α := fun d => do
  let s ← text d
  match parse s with
  | some a => .ok a
  | none => .error (.ofCause (.refused ("invalid " ++ expected)))

def uuid : Decoder Uuid := notated Uuid.parse? "UUID"

def timestamp : Decoder Timestamp := notated Timestamp.parse? "timestamp"

end Decode

/-! ### Records -/

/-- The fields of a record: their names with a check of each value, how the record is put together
from the values found under the names, and how from a list of values in order. -/
structure Fields (α : Type) where
  checks : List (String × (Draft → Except Fault Unit))
  gather : (String → Option Draft) → Except Fault α
  sequence : Nat → List Draft → Option Fault → Except Fault (α × List Draft)

namespace Fields

/-- What stands in for a field that is missing. -/
inductive Missing (α : Type)
  | never
  /-- The value does in an object, but an array must hold the field. -/
  | inObject (value : α)
  | anywhere (value : α)

def field {α : Type} (name : String) (decode : Decoder α) (missing : Missing α) : Fields α where
  checks := [(name, fun d => (decode d).map fun _ => ())]
  gather find :=
    match find name, missing with
    | some d, _ => decode d
    | none, .never => .error (.ofCause (.missingField name))
    | none, .inObject v | none, .anywhere v => .ok v
  sequence index items cut :=
    match items, cut, missing with
    | d :: ds, _, _ => (decode d).map fun v => (v, ds)
    | [], some fault, _ => .error fault
    | [], none, .anywhere v => .ok (v, [])
    | [], none, _ => .error (.ofCause (.wrongLength index "more elements"))

def required {α : Type} (name : String) (decode : Decoder α) : Fields α :=
  field name decode .never

/-- An optional field that counts as absent when it is missing from an object. -/
def nullable {α : Type} (name : String) (decode : Decoder α) : Fields (Option α) :=
  field name (Decode.optional decode) (.inObject none)

def defaulted {α : Type} (name : String) (decode : Decoder α) (value : α) : Fields α :=
  field name decode (.anywhere value)

def pure {α : Type} (a : α) : Fields α where
  checks := []
  gather _ := .ok a
  sequence _ items _ := .ok (a, items)

def seq {α β : Type} (f : Fields (α → β)) (x : Unit → Fields α) : Fields β where
  checks := f.checks ++ (x ()).checks
  gather find := do
    let g ← f.gather find
    let a ← (x ()).gather find
    return g a
  sequence index items cut := do
    let (g, rest) ← f.sequence index items cut
    let (a, rest) ← (x ()).sequence (index + f.checks.length) rest cut
    return (g a, rest)

instance : Applicative Fields where
  pure := pure
  seq := seq

/-- What to do with keys that are not known. -/
inductive Unknown
  | skipped
  | refused

/-- The members of an object checked in order: each known key once, with a value that decodes. -/
def checkMembers (checks : List (String × (Draft → Except Fault Unit))) (unknown : Unknown) :
    List String → List (Except Fault String × Draft) → Except Fault Unit
  | _, [] => .ok ()
  | seen, (key, d) :: rest => do
    let k ← key
    match checks.find? (·.1 = k), unknown with
    | some (_, check), _ =>
      if k ∈ seen then .error (.ofCause (.duplicateField k))
      else
        check d
        checkMembers checks unknown (k :: seen) rest
    | none, .skipped =>
      d.skip
      checkMembers checks unknown seen rest
    | none, .refused => .error (.ofCause (.unknownField k))

def find (members : List (Except Fault String × Draft)) (name : String) : Option Draft :=
  (members.find? fun m => match m.1 with
    | .ok k => k = name
    | .error _ => false).map (·.2)

/-- A record, from an object or from an array of its fields. -/
def record {α : Type} (fields : Fields α) (expected : String) (unknown : Unknown := .skipped) :
    Decoder α
  | .object members cut => do
    checkMembers fields.checks unknown [] members
    Draft.orFault (cut.map (·.reading))
    fields.gather (find members)
  | .array items cut => do
    let cut := cut.map (·.reading)
    let (a, rest) ← fields.sequence 0 items cut
    if rest.isEmpty then Draft.orFault cut else .error ⟨.trailingCharacters, none⟩
    return a
  | .sunken _ fault => .error fault
  | d => Decode.wrongType expected d

end Fields

/-- A span of time: seconds, and nanoseconds that may carry into them. -/
def Decode.duration : Decoder Duration := fun d => do
  let fields : Fields (Nat × Nat) :=
    Prod.mk <$> Fields.required "secs" Decode.nat64 <*> Fields.required "nanos" Decode.nat32
  let (secs, nanos) ← fields.record "a duration" .refused d
  match Duration.ofNanos? (secs * Duration.nanosPerSecond + nanos) with
  | some span => .ok span
  | none => .error (.ofCause (.refused "overflow deserializing Duration"))

/-- The value of a text that holds one value of the given type and nothing else. -/
def read {α : Type} (decoder : Decoder α) (text : String) : Except Fault α := do
  let doc := Document.read text
  let a ← decoder doc.root
  Draft.orFault doc.trailing
  return a

def parse (text : String) : Except Fault Value := read Draft.value text

end ConnectorSync.Json
