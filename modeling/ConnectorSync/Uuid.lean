/-!
# UUIDs

Identifiers of 128 bits. `Uuid.parse?` accepts the hyphenated form, bare or in braces or after
`urn:uuid:`, and the form of thirty-two digits, in either case of letters; `Uuid.render` writes the
hyphenated form in lower case.
-/

namespace ConnectorSync

/-- An identifier of 128 bits, as its thirty-two hexadecimal digits. -/
@[ext]
structure Uuid where
  digits : List (Fin 16)
  length_digits : digits.length = 32
  deriving DecidableEq

namespace Uuid

def hexValue? (c : Char) : Option (Fin 16) :=
  let n := c.toNat
  if h : 48 ≤ n ∧ n ≤ 57 then some ⟨n - 48, by omega⟩
  else if h : 97 ≤ n ∧ n ≤ 102 then some ⟨n - 87, by omega⟩
  else if h : 65 ≤ n ∧ n ≤ 70 then some ⟨n - 55, by omega⟩
  else none

def hexDigit (d : Fin 16) : Char :=
  if d.val < 10 then Char.ofNat (48 + d.val) else Char.ofNat (87 + d.val)

def ofDigits? (cs : List Char) : Option Uuid :=
  match cs.mapM hexValue? with
  | some ds => if h : ds.length = 32 then some ⟨ds, h⟩ else none
  | none => none

/-- Groups of eight, four, four, four and twelve digits, with a hyphen between them. -/
def hyphenated? (cs : List Char) : Option Uuid :=
  let hyphens := [cs.drop 8, cs.drop 13, cs.drop 18, cs.drop 23].map (·.head?)
  if cs.length = 36 ∧ hyphens = List.replicate 4 (some '-') then
    ofDigits? (cs.take 8 ++ (cs.drop 9).take 4 ++ (cs.drop 14).take 4 ++ (cs.drop 19).take 4 ++
      cs.drop 24)
  else none

def parse? (s : String) : Option Uuid :=
  let cs := s.toList
  let bare := (hyphenated? cs).or (if cs.length = 32 then ofDigits? cs else none)
  let braced := match cs with
    | '\x7b' :: rest =>
      if rest.getLast? = some '\x7d' then hyphenated? rest.dropLast else none
    | _ => none
  let named := if cs.take 9 = "urn:uuid:".toList then hyphenated? (cs.drop 9) else none
  bare.or (braced.or named)

def render (u : Uuid) : String :=
  let cs := u.digits.map hexDigit
  String.ofList (cs.take 8 ++ '-' :: (cs.drop 8).take 4 ++ '-' :: (cs.drop 12).take 4 ++
    '-' :: (cs.drop 16).take 4 ++ '-' :: cs.drop 20)

def zero : Uuid := ⟨List.replicate 32 0, by decide⟩

instance : Inhabited Uuid := ⟨zero⟩

end Uuid

end ConnectorSync
