import ShipManifest.Decimal.Basic

/-!
# Numerals

A numeral is an optional sign, decimal digits with at most one point among them and at least one digit, and optionally
`e` or `E` with a signed exponent of at least one digit. Digits are those of ASCII.
-/

namespace ShipManifest

/-- A signed decimal as it is written. -/
structure Numeral where
  negative : Bool
  magnitude : Decimal
  deriving DecidableEq

namespace Numeral

/-- Takes a sign off the front: whether it is a minus, and the rest. -/
def takeSign : List Char → Bool × List Char
  | '+' :: cs => (false, cs)
  | '-' :: cs => (true, cs)
  | cs => (false, cs)

/-- The number that decimal digits write. -/
def ofDigits (cs : List Char) : Nat :=
  Nat.ofDigitChars 10 cs 0

/-- Reads what may follow the digits: nothing, or an exponent. -/
def readExponent? : List Char → Option Int
  | [] => some 0
  | e :: cs =>
    let (negative, digits) := takeSign cs
    if (e = 'e' ∨ e = 'E') ∧ digits ≠ [] ∧ digits.all Char.isDigit then
      some (if negative then -(ofDigits digits : Int) else ofDigits digits)
    else none

/-- Splits off the digits behind a point, if a point comes next. -/
def takeFraction : List Char → List Char × List Char
  | '.' :: cs => cs.span Char.isDigit
  | cs => ([], cs)

/-- Reads a whole text as a numeral. -/
def read? (cs : List Char) : Option Numeral :=
  let (negative, cs) := takeSign cs
  let (whole, cs) := cs.span Char.isDigit
  let (fraction, cs) := takeFraction cs
  if whole = [] ∧ fraction = [] then none
  else (readExponent? cs).map fun exponent =>
    ⟨negative, ⟨ofDigits (whole ++ fraction), exponent - fraction.length⟩⟩

/-- The binary64 number nearest to the numeral; the sign stays on zero. -/
def toBinary64 (n : Numeral) : Binary64 :=
  n.magnitude.toBinary64 n.negative

end Numeral

end ShipManifest
