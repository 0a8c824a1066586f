import ConnectorSync.Json.Basic
import ConnectorSync.Decimal.Shortest

/-!
# Writing JSON

The compact text of a value, members in the order they have. Of the characters of a string only
quotes, backslashes and control characters are escaped; a double is written with the fewest digits
that read back, positionally from `1e-5` up to `1e16` and with at least one decimal.
-/

namespace ConnectorSync.Json

open Text Decimal

def hexDigit (n : Nat) : Char :=
  if n < 10 then Char.ofNat (48 + n) else Char.ofNat (87 + n)

def escapeChar (c : Char) : List Char :=
  if c = '"' then ['\\', '"']
  else if c = '\\' then ['\\', '\\']
  else if c = '\x08' then ['\\', 'b']
  else if c = '\x0c' then ['\\', 'f']
  else if c = '\n' then ['\\', 'n']
  else if c = '\r' then ['\\', 'r']
  else if c = '\t' then ['\\', 't']
  else if c.toNat < 0x20 then ['\\', 'u', '0', '0', hexDigit (c.toNat / 16), hexDigit (c.toNat % 16)]
  else [c]

def quote (s : String) : List Char :=
  '"' :: s.toList.flatMap escapeChar ++ ['"']

def zeros (n : Nat) : List Char := List.replicate n '0'

/-- A positive decimal: positional while the first digit stands between the fifth place after the
point and the sixteenth before it, else with a signed exponent. -/
def layOut (s : Scientific) : List Char :=
  let ds := Nat.toDigits 10 s.digits
  let point : Int := s.exponent + ds.length
  if 0 < point ∧ point ≤ 16 then
    if 0 ≤ s.exponent then ds ++ zeros s.exponent.toNat ++ ['.', '0']
    else ds.take point.toNat ++ '.' :: ds.drop point.toNat
  else if -5 < point ∧ point ≤ 0 then
    ['0', '.'] ++ zeros (-point).toNat ++ ds
  else
    let mantissa := match ds with
      | [d] => [d]
      | d :: rest => d :: '.' :: rest
      | [] => []
    let e := point - 1
    mantissa ++ 'e' :: (if e < 0 then '-' else '+') :: (decimal e.natAbs).toList

def writeDouble (x : Float) : List Char :=
  let bits := x.toBits
  let parts := Parts.ofBits bits
  let sign := if signBit bits then ['-'] else []
  if parts.mantissa = 0 then sign ++ ['0', '.', '0'] else sign ++ layOut (shortest parts)

def writeNumber : Number → List Char
  | .integer n => (decimalInt n).toList
  | .real x => writeDouble x

mutual

def Value.write : Value → List Char
  | .null => "null".toList
  | .bool true => "true".toList
  | .bool false => "false".toList
  | .number n => writeNumber n
  | .string s => quote s
  | .array [] => ['[', ']']
  | .array (v :: vs) => '[' :: v.write ++ Value.writeItems vs
  | .object [] => ['\x7b', '\x7d']
  | .object ((k, v) :: ms) => '\x7b' :: quote k ++ ':' :: v.write ++ Value.writeMembers ms

/-- The items of an array after the first, and its end. -/
def Value.writeItems : List Value → List Char
  | [] => [']']
  | v :: vs => ',' :: v.write ++ Value.writeItems vs

/-- The members of an object after the first, and its end. -/
def Value.writeMembers : List (String × Value) → List Char
  | [] => ['\x7d']
  | (k, v) :: ms => ',' :: quote k ++ ':' :: v.write ++ Value.writeMembers ms

end

def Value.render (v : Value) : String := String.ofList v.write

end ConnectorSync.Json
