import ConnectorSync.Decimal.Double

/-!
# Shortest decimals

The fewest decimal digits that read back as a given double. The reals that round to
`m · 2 ^ q` form an interval, closed when `m` is even; `shortest` looks for the coarsest decimal grid
with a point in it, and takes the nearer of the value's two neighbours on that grid.
All arithmetic is exact, on natural numbers over one common denominator.
-/

namespace ConnectorSync.Decimal

/-- `digits · 10 ^ exponent`. -/
structure Scientific where
  digits : Nat
  exponent : Int
  deriving DecidableEq, Repr

/-- A value and the bounds of its rounding interval, as numerators over one denominator. -/
structure Interval where
  low : Nat
  value : Nat
  high : Nat
  denominator : Nat
  closed : Bool

/-- The interval of reals that round to the double: half a step on either side. -/
def Interval.ofParts (p : Parts) : Interval :=
  let up := if 0 ≤ p.exponent then Nat.pow 2 p.exponent.toNat else 1
  let down := if 0 ≤ p.exponent then 1 else Nat.pow 2 (-p.exponent).toNat
  { low := (4 * p.mantissa - if p.narrowBelow then 1 else 2) * up
    value := 4 * p.mantissa * up
    high := (4 * p.mantissa + 2) * up
    denominator := 4 * down
    closed := p.mantissa % 2 = 0 }

/-- Whether `n · 10 ^ e` lies in the interval. -/
def Interval.contains (i : Interval) (n : Nat) (e : Int) : Bool :=
  let x := if 0 ≤ e then n * Nat.pow 10 e.toNat * i.denominator else n * i.denominator
  let scale := if 0 ≤ e then 1 else Nat.pow 10 (-e).toNat
  if i.closed then i.low * scale ≤ x && x ≤ i.high * scale
  else i.low * scale < x && x < i.high * scale

/-- The point of the grid of step `10 ^ e` that stands for the value, if the grid has one in the
interval. Of two it is the nearer, and the even one of two equally near. -/
def Interval.onGrid? (i : Interval) (e : Int) : Option Nat :=
  let numerator := if 0 ≤ e then i.value else i.value * Nat.pow 10 (-e).toNat
  let step := if 0 ≤ e then i.denominator * Nat.pow 10 e.toNat else i.denominator
  let below := numerator / step
  let rest := numerator % step
  match i.contains below e && below ≠ 0, i.contains (below + 1) e with
  | true, true =>
    if 2 * rest < step then some below
    else if step < 2 * rest then some (below + 1)
    else if below % 2 = 0 then some below else some (below + 1)
  | true, false => some below
  | false, true => some (below + 1)
  | false, false => none

/-- The first grid with a point for the value, from the step `10 ^ e` downwards. -/
def Interval.search (i : Interval) : Nat → Int → Scientific
  | 0, e => ⟨(i.onGrid? e).getD 0, e⟩
  | fuel + 1, e =>
    match i.onGrid? e with
    | some n => ⟨n, e⟩
    | none => i.search fuel (e - 1)

/-- An exponent `e` with `value < 10 ^ e`, from the number of digits on both sides of the bar. -/
def Interval.above (i : Interval) : Int :=
  ((Nat.toDigits 10 i.value).length : Int) - (Nat.toDigits 10 i.denominator).length + 1

/-- The number of zeros at the end of `n`, moved into the exponent. -/
def Scientific.trimmed : Nat → Scientific → Scientific
  | 0, s => s
  | fuel + 1, s =>
    if s.digits % 10 = 0 ∧ s.digits ≠ 0 then
      Scientific.trimmed fuel ⟨s.digits / 10, s.exponent + 1⟩
    else s

/-- The shortest decimal of a double of positive magnitude. Twenty grids always suffice: the first
is at most one decimal place above the value, and seventeen digits tell all doubles apart. -/
def shortest (p : Parts) : Scientific :=
  let i := Interval.ofParts p
  (i.search 20 i.above).trimmed 20

end ConnectorSync.Decimal
