import ShipManifest.Binary64.Rounding

/-!
# Decimal magnitudes

A decimal is a natural number of digits and a power of ten. `nearestRank` reads it as a binary64 magnitude, rounding its
exact value once. Decimals that are beyond every finite magnitude, or below half the least one, are told by the size
of their exponent, so the exact value is only computed where it is of moderate length.
-/

namespace ShipManifest

/-- The number `digits · 10 ^ exponent`. -/
structure Decimal where
  digits : Nat
  exponent : Int
  deriving DecidableEq

namespace Decimal

/-- The rank of the binary64 magnitude nearest to the decimal; `rankLimit` or more if it is too large. Since 8 < 10, a
positive exponent `e` adds at least `3 * e` binary digits and a negative one takes as many away. -/
def nearestRank (d : Decimal) : Nat :=
  if d.digits = 0 then 0
  else match d.exponent with
    | .ofNat e =>
      if 1024 ≤ d.digits.log2 + 3 * e then rankLimit else Binary64.nearestRank (d.digits * Nat.pow 10 e) 1
    | .negSucc e =>
      if d.digits.log2 + 1076 ≤ 3 * (e + 1) then 0 else Binary64.nearestRank d.digits (Nat.pow 10 (e + 1))

/-- The binary64 number nearest to the decimal under the given sign. -/
def toBinary64 (negative : Bool) (d : Decimal) : Binary64 :=
  Binary64.ofRank negative d.nearestRank

/-- The same number without zeros at the end of its digits. -/
def reduce (d : Decimal) : Decimal :=
  if h : d.digits ≠ 0 ∧ d.digits % 10 = 0 then reduce ⟨d.digits / 10, d.exponent + 1⟩ else d
termination_by d.digits
decreasing_by exact Nat.div_lt_self (Nat.pos_of_ne_zero h.1) (by decide)

end Decimal

end ShipManifest
