import ShipManifest.Decimal.Basic

/-!
# Shortest digits

The shortest digits of a finite magnitude are the fewest that read back as it, and of those the nearest to its value.
For one digit, two digits and so on, the value stands between two neighbours on the grid of decimals with that many
digits; if any decimal of the grid reads back, one of the neighbours does. Seventeen digits are always enough.
-/

namespace ShipManifest.Decimal

/-- Which of two neighbours at the same distance is taken. -/
inductive TieRule where
  | up
  | toEven
  deriving DecidableEq

/-- The exact value of a rank. -/
def exact (rank : Nat) : Decimal :=
  ⟨Binary64.units rank * Nat.pow 5 1074, -1074⟩

/-- The number of digits before the point of a positive magnitude, counted negatively when zeros follow the point: the
least `k` with the value below `10 ^ k`. -/
def scale (rank : Nat) : Int :=
  let units := Binary64.units rank
  if Nat.pow 2 1074 ≤ units then (Nat.toDigits 10 (units / Nat.pow 2 1074)).length
  else 1 - ((Nat.toDigits 10 ((Nat.pow 2 1074 - 1) / units)).length : Int)

/-- The neighbour of the value among the multiples of `10 ^ exponent` that reads back, if one does; the nearer one if
both do. -/
def gridPoint? (tie : TieRule) (rank : Nat) (exponent : Int) : Option Decimal :=
  let num := Binary64.units rank * Nat.pow 10 (-exponent).toNat
  let den := Nat.pow 2 1074 * Nat.pow 10 exponent.toNat
  let low : Decimal := ⟨num / den, exponent⟩
  let high : Decimal := ⟨num / den + 1, exponent⟩
  let rest := num % den
  match low.nearestRank == rank, high.nearestRank == rank with
  | true, true =>
    if 2 * rest < den then some low
    else if den < 2 * rest then some high
    else match tie with
      | .up => some high
      | .toEven => some (if low.digits % 2 = 0 then low else high)
  | true, false => some low
  | false, true => some high
  | false, false => none

/-- The shortest digits of a rank. -/
def shortest (tie : TieRule) (rank : Nat) : Decimal :=
  if rank = 0 then ⟨0, 0⟩
  else
    let digitCounts := (List.range 17).map fun n => ((n + 1 : Nat) : Int)
    ((digitCounts.findSome? fun n => gridPoint? tie rank (scale rank - n)).getD (exact rank)).reduce

end ShipManifest.Decimal
