import ShipManifest.Decimal.Basic

/-!
# Layout of decimals

`positional` writes every digit in its place, with zeros as needed and no point behind an integer. `scientific` writes
one digit before the point and the power of ten after `e`, with its sign.
-/

namespace ShipManifest.Decimal

/-- The power of ten of the first digit. -/
def leadingPower (d : Decimal) : Int :=
  (Nat.toDigits 10 d.digits).length + d.exponent - 1

/-- The decimal without a power of ten. -/
def positional (d : Decimal) : List Char :=
  let digits := Nat.toDigits 10 d.digits
  match d.exponent with
  | .ofNat e => if d.digits = 0 then digits else digits ++ List.replicate e '0'
  | .negSucc e =>
    let places := e + 1
    let padded := List.replicate (places + 1 - digits.length) '0' ++ digits
    padded.take (padded.length - places) ++ '.' :: padded.drop (padded.length - places)

/-- The decimal with one digit before the point and a signed power of ten. -/
def scientific (d : Decimal) : List Char :=
  let power := d.leadingPower
  let mantissa := match Nat.toDigits 10 d.digits with
    | first :: second :: rest => first :: '.' :: second :: rest
    | digits => digits
  mantissa ++ 'e' :: (if power < 0 then '-' else '+') :: Nat.toDigits 10 power.natAbs

end ShipManifest.Decimal
