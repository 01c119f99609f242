import ShipManifest.Decimal.Layout
import ShipManifest.Decimal.Shortest
import ShipManifest.Json.Basic

/-!
# Writing JSON

Values are written without blanks, members in the order they have. In a text the quote, the backslash and the controls
below U+0020 are escaped, those with a letter by their letter; everything else is written as it is.

A binary64 number has the shortest digits that read back. It is positional, with at least one place, if its first digit
stands between the fifth place behind the point and the sixteenth before it; otherwise it is scientific. There is no
number for infinity and for not-a-number, so they are null.
-/

namespace ShipManifest.Json

/-- A character as it stands in a text. -/
def escapeChar (c : Char) : List Char :=
  match c with
  | '"' => ['\\', '"']
  | '\\' => ['\\', '\\']
  | '\x08' => ['\\', 'b']
  | '\x0c' => ['\\', 'f']
  | '\n' => ['\\', 'n']
  | '\r' => ['\\', 'r']
  | '\t' => ['\\', 't']
  | c => if c.toNat < 0x20 then ['\\', 'u', '0', '0'] ++ [(c.toNat / 16).digitChar, (c.toNat % 16).digitChar] else [c]

/-- A text between quotes. -/
def writeText (s : String) : List Char :=
  '"' :: s.toList.flatMap escapeChar ++ ['"']

/-- A magnitude with at least one place behind the point, or in scientific form. -/
def writeMagnitude (rank : Nat) : List Char :=
  let d := Decimal.shortest .toEven rank
  if d.digits = 0 ∨ (-5 ≤ d.leadingPower ∧ d.leadingPower < 16) then
    d.positional ++ (if 0 ≤ d.exponent then ['.', '0'] else [])
  else d.scientific

/-- A binary64 number, or null where it is not finite. -/
def writeReal : Binary64 → List Char
  | .finite negative rank => (if negative then ['-'] else []) ++ writeMagnitude rank
  | _ => ['n', 'u', 'l', 'l']

/-- An integer in decimal digits. -/
def writeInteger (i : Int) : List Char :=
  (if i < 0 then ['-'] else []) ++ Nat.toDigits 10 i.natAbs

mutual

/-- The characters of a value. -/
def write : Json → List Char
  | null => ['n', 'u', 'l', 'l']
  | boolean true => ['t', 'r', 'u', 'e']
  | boolean false => ['f', 'a', 'l', 's', 'e']
  | integer i => writeInteger i
  | real x => writeReal x
  | text s => writeText s
  | list [] => ['[', ']']
  | list (item :: rest) => '[' :: write item ++ writeItems rest
  | object [] => ['{', '}']
  | object ((key, value) :: rest) => '{' :: writeText key ++ ':' :: write value ++ writeMembers rest

/-- The characters from behind an item to the end of the list. -/
def writeItems : List Json → List Char
  | [] => [']']
  | item :: rest => ',' :: write item ++ writeItems rest

/-- The characters from behind a member to the end of the object. -/
def writeMembers : List (String × Json) → List Char
  | [] => ['}']
  | (key, value) :: rest => ',' :: writeText key ++ ':' :: write value ++ writeMembers rest

end

/-- The text of a value. -/
def compact (value : Json) : String :=
  String.ofList value.write

end ShipManifest.Json
