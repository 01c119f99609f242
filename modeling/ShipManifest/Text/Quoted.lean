import ShipManifest.Text.CodeRange
import ShipManifest.Text.HiddenTable

/-!
# Quoted text

A text in messages stands between double quotes. A quote and a backslash in it are escaped, the four controls that have
a letter are written with it, and every other character without a shape of its own is written as its code point.
-/

namespace ShipManifest.Text

/-- Whether the character is written as its code point: controls, and beyond ASCII the table of hidden characters. -/
def isHidden (c : Char) : Bool :=
  if c.toNat < 0x80 then c.toNat < 0x20 || c.toNat == 0x7F else inRanges hiddenRanges c

/-- A character as it stands between the quotes. -/
def quoteChar (c : Char) : List Char :=
  match c with
  | '"' => ['\\', '"']
  | '\\' => ['\\', '\\']
  | '\n' => ['\\', 'n']
  | '\r' => ['\\', 'r']
  | '\t' => ['\\', 't']
  | '\x00' => ['\\', '0']
  | c => if isHidden c then ['\\', 'u', '{'] ++ Nat.toDigits 16 c.toNat ++ ['}'] else [c]

/-- The text between quotes. -/
def quoted (s : String) : String :=
  String.ofList ('"' :: s.toList.flatMap quoteChar ++ ['"'])

end ShipManifest.Text
