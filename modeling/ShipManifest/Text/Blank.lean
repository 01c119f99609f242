/-!
# Blank text

White space is Unicode's property `White_Space`: twenty-five characters, of which U+FEFF and U+200B are not members.
Text is blank if it holds nothing else.
-/

namespace ShipManifest.Text

/-- Unicode's property `White_Space`. -/
def isSpace (c : Char) : Bool :=
  c == ' ' || ('\t' ≤ c && c ≤ '\r') || c == '\u0085' || c == '\u00a0' || c == '\u1680' ||
    ('\u2000' ≤ c && c ≤ '\u200a') || c == '\u2028' || c == '\u2029' || c == '\u202f' || c == '\u205f' || c == '\u3000'

/-- Text that holds white space only. The empty text is blank. -/
def isBlank (cs : List Char) : Bool :=
  cs.all isSpace

/-- The text without the white space at its two ends. -/
def trim (cs : List Char) : List Char :=
  (((cs.dropWhile isSpace).reverse).dropWhile isSpace).reverse

@[simp] theorem isBlank_nil : isBlank [] = true := rfl

@[simp] theorem isBlank_cons {c : Char} {cs : List Char} : isBlank (c :: cs) = (isSpace c && isBlank cs) := rfl

end ShipManifest.Text
