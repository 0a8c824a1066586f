import ConnectorSync.Text.Numeral

/-!
# Reading a decimal as a double

The plain grammar of decimal numbers: a sign, digits with at most one point, an exponent, or one of
the words for the values that are not finite. The result is the double nearest to what was written.
-/

namespace ConnectorSync.Decimal

open Text

/-- The double nearest to `mantissa · 10 ^ exponent`. Exponents far outside the range of doubles are
settled before any power is formed. -/
def nearestDouble (mantissa : Nat) (exponent : Int) : Float :=
  let scale := exponent + (Nat.toDigits 10 mantissa).length
  if mantissa = 0 then 0.0
  else if 400 < scale then 1.0 / 0.0
  else if scale < -400 then 0.0
  else if exponent < 0 then Float.ofScientific mantissa true exponent.natAbs
  else Float.ofScientific mantissa false exponent.natAbs

/-- An exponent as written after `e`: an optional sign and at least one digit. -/
def exponent? : List Char → Option Int
  | '-' :: cs => (digits? cs).map fun n => -(n : Int)
  | '+' :: cs => (digits? cs).map Int.ofNat
  | cs => (digits? cs).map Int.ofNat

/-- A number without its sign: digits, a point, more digits, an exponent. -/
def magnitude? (cs : List Char) : Option Float :=
  let whole := cs.takeWhile isDigit
  let afterWhole := cs.dropWhile isDigit
  let (fraction, rest) := match afterWhole with
    | '.' :: more => (more.takeWhile isDigit, more.dropWhile isDigit)
    | more => ([], more)
  if whole.isEmpty && fraction.isEmpty then none
  else
    let digits := ofDigits (whole ++ fraction)
    match rest with
    | [] => some (nearestDouble digits (-fraction.length))
    | e :: more =>
      if e = 'e' ∨ e = 'E' then
        (exponent? more).map fun x => nearestDouble digits (x - fraction.length)
      else none

/-- The values that are not finite have names, in any case of letters. -/
def named? (cs : List Char) : Option Float :=
  let word := cs.map Char.toLower
  if word = "inf".toList ∨ word = "infinity".toList then some (1.0 / 0.0)
  else if word = "nan".toList then some (0.0 / 0.0)
  else none

def double? (s : String) : Option Float :=
  let (negative, cs) := match s.toList with
    | '-' :: cs => (true, cs)
    | '+' :: cs => (false, cs)
    | cs => (false, cs)
  let value := (magnitude? cs).or (named? cs)
  if negative then value.map (fun x => -x) else value

end ConnectorSync.Decimal
