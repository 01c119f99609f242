/-!
# Lines

A line ends with a line feed, and one carriage return before the line feed belongs to the ending. What follows the last
line feed is a line too unless it is empty; it has no ending, so it keeps its carriage return. The same rule cuts
characters and bytes.
-/

namespace ShipManifest.Text

variable {α : Type} [BEq α]

/-- The line without one carriage return at its end. -/
def dropReturn (cr : α) (line : List α) : List α :=
  if line.getLast? == some cr then line.dropLast else line

/-- The lines of a sequence, for its line feed and its carriage return. -/
def linesBy (lf cr : α) (xs : List α) : List (List α) :=
  let pieces := xs.splitOn lf
  pieces.dropLast.map (dropReturn cr) ++ pieces.getLast?.toList.filter fun line => !line.isEmpty

/-- The lines of a text. -/
def lines (cs : List Char) : List (List Char) :=
  linesBy '\n' '\r' cs

/-- The lines of a byte sequence. -/
def byteLines (bytes : List UInt8) : List (List UInt8) :=
  linesBy 10 13 bytes

end ShipManifest.Text
