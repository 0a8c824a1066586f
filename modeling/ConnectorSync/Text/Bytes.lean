/-!
# Bytes and text

Contents of files and streams are lists of bytes. A text is read from bytes where they are valid
UTF-8, or with a replacement character for each part that is not.
-/

namespace ConnectorSync

/-- The contents of a file or stream. -/
abbrev Bytes := List UInt8

namespace Text

def bytes (s : String) : Bytes := s.toUTF8.toList

/-- How many bytes follow a first byte, with the bounds of the second byte. -/
def continuation? (b : UInt8) : Option (Nat × UInt8 × UInt8) :=
  if b < 0x80 then some (0, 0, 0)
  else if 0xC2 ≤ b ∧ b ≤ 0xDF then some (1, 0x80, 0xBF)
  else if b = 0xE0 then some (2, 0xA0, 0xBF)
  else if b = 0xED then some (2, 0x80, 0x9F)
  else if 0xE1 ≤ b ∧ b ≤ 0xEF then some (2, 0x80, 0xBF)
  else if b = 0xF0 then some (3, 0x90, 0xBF)
  else if 0xF1 ≤ b ∧ b ≤ 0xF3 then some (3, 0x80, 0xBF)
  else if b = 0xF4 then some (3, 0x80, 0x8F)
  else none

/-- The bits of the first byte that belong to the character. -/
def leadBits (b : UInt8) : Nat :=
  if b < 0x80 then b.toNat
  else if b < 0xE0 then b.toNat % 0x20
  else if b < 0xF0 then b.toNat % 0x10
  else b.toNat % 8

/-- A character that has begun: its bits so far, the bytes to come, the bounds of the next one. -/
structure Partial where
  bits : Nat
  missing : Nat
  low : UInt8
  high : UInt8

/-- The characters decoded so far, last first. A part that is not valid UTF-8 stands as `none`. -/
structure Utf8State where
  found : List (Option Char) := []
  pending : Option Partial := none

def Utf8State.begin (found : List (Option Char)) (b : UInt8) : Utf8State :=
  match continuation? b with
  | none => ⟨none :: found, none⟩
  | some (0, _, _) => ⟨some (Char.ofNat b.toNat) :: found, none⟩
  | some (n, low, high) => ⟨found, some ⟨leadBits b, n, low, high⟩⟩

/-- One byte more. A byte that cannot go on with the character begun is looked at afresh. -/
def Utf8State.step (s : Utf8State) (b : UInt8) : Utf8State :=
  match s.pending with
  | none => .begin s.found b
  | some p =>
    if p.low ≤ b ∧ b ≤ p.high then
      let bits := p.bits * 64 + b.toNat % 64
      if p.missing ≤ 1 then ⟨some (Char.ofNat bits) :: s.found, none⟩
      else ⟨s.found, some ⟨bits, p.missing - 1, 0x80, 0xBF⟩⟩
    else .begin (none :: s.found) b

/-- The characters of the bytes, with `none` for each part that is not valid UTF-8. -/
def decodeUtf8 (bs : Bytes) : List (Option Char) :=
  let s := bs.foldl Utf8State.step {}
  (if s.pending.isSome then none :: s.found else s.found).reverse

/-- The text of the bytes, if they are valid UTF-8. -/
def ofBytes? (bs : Bytes) : Option String :=
  ((decodeUtf8 bs).mapM id).map String.ofList

/-- The text of the bytes, with U+FFFD for each part that is not valid UTF-8. -/
def ofBytesLossy (bs : Bytes) : String :=
  String.ofList ((decodeUtf8 bs).map (·.getD '\ufffd'))

/-- The lines of a text, without their ends: a newline, or a carriage return before one. -/
def lines (s : String) : List String :=
  let rec go (line : List Char) : List Char → List String
    | [] => if line.isEmpty then [] else [String.ofList line.reverse]
    | '\n' :: rest =>
      let line := match line with
        | '\r' :: l => l
        | l => l
      String.ofList line.reverse :: go [] rest
    | c :: rest => go (c :: line) rest
  go [] s.toList

/-- Whether `needle` occurs in `cs`. -/
def occursIn (needle : List Char) : List Char → Bool
  | [] => needle.isEmpty
  | c :: cs => needle.isPrefixOf (c :: cs) || occursIn needle cs

end Text

end ConnectorSync
