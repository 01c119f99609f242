import ShipManifest.Decimal.Layout
import ShipManifest.Decimal.Numeral
import ShipManifest.Decimal.Shortest
import ShipManifest.Text.Blank

/-!
# Ages

An age is a number of years; where the manifest gives none that can be read, it is not-a-number, which is neither over
nor under any age. A numeral beyond the finite numbers gives no age either.

Ages are equal if they are the same number, where the two zeros differ and the unknown age equals itself.
-/

namespace ShipManifest

/-- An age in years. -/
structure Age where
  years : Binary64
  deriving DecidableEq

namespace Age

/-- The age that is not known. -/
def unknown : Age := ⟨.nan⟩

/-- Reads an age from a column: a numeral between white space, in the range of the finite numbers. -/
def parse (raw : String) : Age :=
  match Numeral.read? (Text.trim raw.toList) with
  | some numeral => if numeral.toBinary64.isFinite then ⟨numeral.toBinary64⟩ else unknown
  | none => unknown

/-- Whether the age is known. -/
def isKnown (a : Age) : Bool :=
  a.years != .nan

/-- Whether the age is greater than `years`. -/
def isOver (a : Age) (years : Binary64) : Bool :=
  years.less a.years

/-- Whether the age is less than `years`. -/
def isUnder (a : Age) (years : Binary64) : Bool :=
  a.years.less years

/-- The age in the shortest digits that read back, each in its place. -/
def chars (a : Age) : List Char :=
  match a.years with
  | .nan => "NaN".toList
  | .infinite negative => (if negative then ['-'] else []) ++ "inf".toList
  | .finite negative rank => (if negative then ['-'] else []) ++ (Decimal.shortest .up rank).positional

/-- The age as text. -/
def text (a : Age) : String :=
  String.ofList a.chars

end Age

end ShipManifest
