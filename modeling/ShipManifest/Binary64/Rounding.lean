import ShipManifest.Binary64.Basic

/-!
# Rounding to binary64

A quotient of natural numbers rounds to the nearest finite magnitude, and halfway between two to the one of even rank.
The quotient is cut to 53 binary digits, or fewer near zero; the digits, rounded to an integer, are added to the rank
where numbers of this size begin, so a carry into the next size needs no case of its own.

Products and quotients of numbers are rounded from their exact values.
-/

namespace ShipManifest.Binary64

/-- The integer nearest to `num / den`, and of two at the same distance the even one. -/
def roundHalfEven (num den : Nat) : Nat :=
  let quotient := num / den
  let rest := num % den
  if 2 * rest < den then quotient
  else if den < 2 * rest then quotient + 1
  else quotient + quotient % 2

/-- The rank nearest to `num / den`; `rankLimit` or more if the quotient is too large for a finite number. -/
def nearestRank (num den : Nat) : Nat :=
  let scaled := num * Nat.pow 2 1074
  let shift := (scaled / den).log2 - 52
  shift * Nat.pow 2 52 + roundHalfEven scaled (den * Nat.pow 2 shift)

/-- The rounded product of two magnitudes; an infinite factor keeps the product infinite. -/
def mulMagnitude (x y : Nat) : Nat :=
  if rankLimit ≤ x ∨ rankLimit ≤ y then rankLimit
  else nearestRank (units x * units y) (Nat.pow 2 1074 * Nat.pow 2 1074)

/-- The rounded quotient of two magnitudes, the second of which is not zero. -/
def divMagnitude (x y : Nat) : Nat :=
  nearestRank (units x) (units y)

end ShipManifest.Binary64
