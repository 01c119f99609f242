import ShipManifest.Text.UpperTable
import ShipManifest.Text.LowerTable
import ShipManifest.Text.CasedTable
import ShipManifest.Text.CaseIgnorableTable

/-!
# Capital and small letters

`upper` maps each character on its own. `lower` does too, with one exception: a capital sigma at the end of a word
becomes the final small sigma. It stands at the end of a word if a cased character comes before it and none after it,
where case-ignorable characters in between do not count.

ASCII letters move by thirty-two code points; the tables begin behind ASCII.
-/

namespace ShipManifest.Text

/-- Whether the character is one of the 128 of ASCII. -/
def isAscii (c : Char) : Bool :=
  c.toNat < 0x80

/-! ## Single characters -/

/-- The capital form of a character. -/
def upperChar (c : Char) : List Char :=
  if isAscii c then [c.toUpper]
  else match upperExpansions.lookup c.toNat with
    | some codes => codes.map Char.ofNat
    | none => [mapRuns upperRuns c]

/-- The small form of a character away from the end of a word. -/
def lowerChar (c : Char) : List Char :=
  if isAscii c then [c.toLower]
  else if c = '\u0130' then ['i', '\u0307']
  else [mapRuns lowerRuns c]

/-- Unicode's property `Cased`: the character is a capital, small or title-case letter. -/
def isCased (c : Char) : Bool :=
  if isAscii c then c.isAlpha else inRanges casedRanges c

/-- Unicode's property `Case_Ignorable`. -/
def isCaseIgnorable (c : Char) : Bool :=
  if isAscii c then c == '\'' || c == '.' || c == ':' || c == '^' || c == '\x60' else inRanges caseIgnorableRanges c

/-! ## Words -/

/-- Whether the first character that is not case-ignorable is cased. -/
def startsCased : List Char → Bool
  | [] => false
  | c :: cs => if isCaseIgnorable c then startsCased cs else isCased c

/-- Whether the last character that is not case-ignorable is cased, given the answer for the text before `c`. -/
def endsCased (before : Bool) (c : Char) : Bool :=
  if isCaseIgnorable c then before else isCased c

/-- The small form of the text, where `before` tells whether the text to the left ends with a cased character. -/
def lowerAfter : Bool → List Char → List Char
  | _, [] => []
  | before, c :: cs =>
    let small := if c = 'Σ' then [if before && !startsCased cs then 'ς' else 'σ'] else lowerChar c
    small ++ lowerAfter (endsCased before c) cs

/-- The text in small letters. -/
def lower (cs : List Char) : List Char :=
  lowerAfter false cs

/-- The text in capitals. -/
def upper (cs : List Char) : List Char :=
  cs.flatMap upperChar

end ShipManifest.Text
