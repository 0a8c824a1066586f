import ConnectorSync.Text.Numeral

/-!
# Faults of a JSON text

What can be wrong with a JSON text or with the shape of the value in it. A fault is one of three
categories: the text is malformed, it ends too early, or it is well formed but of the wrong shape.
Where a text is broken off, `Break` says which fault each kind of reader meets.
-/

namespace ConnectorSync.Json

open Text

/-- A place in a text, by line and by byte column within the line. -/
structure Mark where
  line : Nat
  column : Nat
  deriving DecidableEq, Repr

namespace Mark

def start : Mark := ⟨1, 0⟩

def after (m : Mark) (c : Char) : Mark :=
  if c = '\n' then ⟨m.line + 1, 0⟩ else ⟨m.line, m.column + c.utf8Size⟩

def into (m : Mark) (c : Char) : Mark :=
  if c = '\n' then ⟨m.line + 1, 0⟩ else ⟨m.line, m.column + 1⟩

end Mark

inductive Category
  | malformed
  | truncated
  | mismatched
  deriving DecidableEq, Repr

inductive Cause
  | endInList
  | endInObject
  | endInString
  | endInValue
  | expectedColon
  | expectedListCommaOrEnd
  | expectedObjectCommaOrEnd
  | expectedIdentifier
  | expectedValue
  | invalidEscape
  | invalidNumber
  | numberOutOfRange
  | controlCharacter
  | keyMustBeString
  | loneLeadingSurrogate
  | unexpectedEndOfHexEscape
  | trailingComma
  | trailingCharacters
  | nestedTooDeep
  | wrongType (found expected : String)
  | wrongValue (found expected : String)
  | wrongLength (length : Nat) (expected : String)
  | missingField (name : String)
  | duplicateField (name : String)
  | unknownField (name : String)
  | unknownVariant (name : String)
  | refused (reason : String)
  deriving DecidableEq, Repr

namespace Cause

def category : Cause → Category
  | endInList | endInObject | endInString | endInValue => .truncated
  | wrongType .. | wrongValue .. | wrongLength .. | missingField _ | duplicateField _
  | unknownField _ | unknownVariant _ | refused _ => .mismatched
  | _ => .malformed

def message : Cause → String
  | endInList => "EOF while parsing a list"
  | endInObject => "EOF while parsing an object"
  | endInString => "EOF while parsing a string"
  | endInValue => "EOF while parsing a value"
  | expectedColon => "expected `:`"
  | expectedListCommaOrEnd => "expected `,` or `]`"
  | expectedObjectCommaOrEnd => "expected `,` or `\x7d`"
  | expectedIdentifier => "expected ident"
  | expectedValue => "expected value"
  | invalidEscape => "invalid escape"
  | invalidNumber => "invalid number"
  | numberOutOfRange => "number out of range"
  | controlCharacter => "control character (\\u0000-\\u001F) found while parsing a string"
  | keyMustBeString => "key must be a string"
  | loneLeadingSurrogate => "lone leading surrogate in hex escape"
  | unexpectedEndOfHexEscape => "unexpected end of hex escape"
  | trailingComma => "trailing comma"
  | trailingCharacters => "trailing characters"
  | nestedTooDeep => "recursion limit exceeded"
  | wrongType found expected => "invalid type: " ++ found ++ ", expected " ++ expected
  | wrongValue found expected => "invalid value: " ++ found ++ ", expected " ++ expected
  | wrongLength n expected => "invalid length " ++ decimal n ++ ", expected " ++ expected
  | missingField name => "missing field `" ++ name ++ "`"
  | duplicateField name => "duplicate field `" ++ name ++ "`"
  | unknownField name => "unknown field `" ++ name ++ "`"
  | unknownVariant name => "unknown variant `" ++ name ++ "`"
  | refused reason => reason

end Cause

/-- A cause, and for a fault of the text the place where it was noticed. -/
structure Fault where
  cause : Cause
  place : Option Mark := none
  deriving DecidableEq, Repr

namespace Fault

/-- A fault of shape, which has no place of its own. -/
def ofCause (cause : Cause) : Fault := ⟨cause, none⟩

def category (f : Fault) : Category := f.cause.category

def message (f : Fault) : String :=
  match f.place with
  | some m => f.cause.message ++ " at line " ++ decimal m.line ++ " column " ++ decimal m.column
  | none => f.cause.message

end Fault

/-- The fault of a part of a text that is broken off. Readers look at different amounts of the part,
so each kind of reader meets a fault of its own. -/
structure Break where
  /-- The fault for a reader that wants the value of the part. -/
  reading : Fault
  skipping : Fault
  /-- The fault for a reader that chooses among names, which goes by the first character. -/
  choosing : Fault
  deriving DecidableEq, Repr

namespace Break

def ofFault (f : Fault) : Break := ⟨f, f, f⟩

end Break

end ConnectorSync.Json
