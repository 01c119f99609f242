/-!
# Tables of characters

Properties and mappings of characters beyond ASCII are tables. A property is a list of ranges of code points; a mapping
is a list of runs, each of which moves its characters by one distance. A run of step two takes every other code point,
because in many alphabets capital and small letters alternate.
-/

namespace ShipManifest.Text

/-- The first and the last code point of a range. -/
abbrev CodeRange := Nat × Nat

/-- Whether one of the ranges holds the character. -/
def inRanges (ranges : List CodeRange) (c : Char) : Bool :=
  ranges.any fun r => r.1 ≤ c.toNat && c.toNat ≤ r.2

/-- A run of characters that map at one distance: its first and last code point, the step between its members, and
the image of the first. -/
abbrev CodeRun := Nat × Nat × Nat × Nat

/-- The image of the code point, if the run has it. -/
def CodeRun.image? (run : CodeRun) (code : Nat) : Option Nat :=
  let (first, last, step, image) := run
  if first ≤ code ∧ code ≤ last ∧ (code - first) % step = 0 then some (image + (code - first)) else none

/-- The image of the character under the first run that has it, else the character. -/
def mapRuns (runs : List CodeRun) (c : Char) : Char :=
  match runs.findSome? (CodeRun.image? · c.toNat) with
  | some code => Char.ofNat code
  | none => c

end ShipManifest.Text
