import ConnectorSync.Text.Numeral

/-!
# JSON numbers

`Numeral` is a number as written, `Number` the value it stands for: an integer where it is written
as one and fits sixty-four bits, otherwise a double. A double is found by scaling the leading
digits, as many as fit sixty-four bits, by powers of ten in double arithmetic.
-/

namespace ConnectorSync.Json

open Text

/-- A number as written: sign, digits before the point, digits after it, exponent. -/
structure Numeral where
  negative : Bool
  whole : List Char
  fraction : Option (List Char)
  exponent : Option (Bool × List Char)
  deriving DecidableEq, Repr

/-- The value of a number. A negative integer is below zero, so that minus zero is a double. -/
inductive Number
  | integer (n : Int)
  | real (x : Float)

namespace Numeral

def largest : Nat := Nat.pow 2 64 - 1

/-- The leading digits while the number they write fits sixty-four bits, and the digits left. -/
def leading : Nat → List Char → Nat × List Char
  | n, [] => (n, [])
  | n, c :: cs =>
    let next := n * 10 + digitValue c
    if next ≤ largest then leading next cs else (n, c :: cs)

/-- `x · 10 ^ e` in steps that keep the power of ten a double, or nothing when it overflows.
The number of steps is bounded by the size of the exponent. -/
def scale : Nat → Float → Int → Option Float
  | fuel, x, e =>
    if e.natAbs ≤ 308 then
      let power := Float.ofScientific 1 false e.natAbs
      if 0 ≤ e then
        let y := x * power
        if y.isInf then none else some y
      else some (x / power)
    else if x == 0.0 then some x
    else if 0 ≤ e then none
    else
      match fuel with
      | 0 => some 0.0
      | fuel + 1 => scale fuel (x / 1e308) (e + 308)

/-- The largest exponent that is read; a longer one is as good as infinite. -/
def largestExponent : Nat := Nat.pow 2 31 - 1

def double? (n : Numeral) : Option Float :=
  let (high, dropped) := leading 0 n.whole
  let fraction := n.fraction.getD []
  let (significand, rest) := leading high fraction
  let point : Int := (dropped.length : Int) - ((fraction.length : Int) - rest.length)
  let signed (x : Float) := if n.negative then -x else x
  let (negativeExponent, digits) := n.exponent.getD (false, [])
  let magnitude := ofDigits digits
  if largestExponent < magnitude then
    if significand = 0 ∨ negativeExponent then some (signed 0.0) else none
  else
    let e := if negativeExponent then point - magnitude else point + magnitude
    (scale 10 significand.toUInt64.toFloat e).map signed

/-- The value of the numeral: nothing when it is too large for a double. -/
def value? (n : Numeral) : Option Number :=
  let whole := ofDigits n.whole
  let isInteger := n.fraction.isNone && n.exponent.isNone
  if isInteger && !n.negative && whole ≤ largest then some (.integer whole)
  else if isInteger && n.negative && 0 < whole && whole ≤ Nat.pow 2 63 then some (.integer (-whole))
  else n.double?.map .real

end Numeral

end ConnectorSync.Json
