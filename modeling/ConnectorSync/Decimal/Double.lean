/-!
# Binary doubles

A finite double is `mantissa · 2 ^ exponent` with a mantissa below `2 ^ 53`; `Parts.ofBits` reads the
two from the sixty-four bits.
-/

namespace ConnectorSync.Decimal

/-- The magnitude of a finite double: `mantissa · 2 ^ exponent`. -/
structure Parts where
  mantissa : Nat
  exponent : Int
  /-- The neighbour below is only half as far away as the one above. -/
  narrowBelow : Bool
  deriving DecidableEq, Repr

def signBit (bits : UInt64) : Bool :=
  bits.toNat ≥ Nat.pow 2 63

def Parts.ofBits (bits : UInt64) : Parts :=
  let n : Nat := bits.toNat % Nat.pow 2 63
  let field : Nat := n / Nat.pow 2 52
  let fraction : Nat := n % Nat.pow 2 52
  if field = 0 then ⟨fraction, -1074, false⟩
  else ⟨Nat.pow 2 52 + fraction, (field : Int) - 1075, fraction = 0 && 1 < field⟩

end ConnectorSync.Decimal
