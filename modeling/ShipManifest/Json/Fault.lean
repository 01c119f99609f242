import ShipManifest.Json.Mismatch

/-!
# Faults in JSON text

A fault has a cause and a place. Lines are counted from one; the column is the number of bytes that the line holds up to
the place, so a place right behind a line feed has column zero. A fault about the next character stands behind that
character's first byte, a fault about what was read stands behind it.
-/

namespace ShipManifest.Json

/-- A place in a text. -/
structure Place where
  line : Nat
  column : Nat
  deriving DecidableEq

namespace Place

/-- Where a text begins. -/
def start : Place := ⟨1, 0⟩

/-- The place behind a character. -/
def behind (p : Place) (c : Char) : Place :=
  if c = '\n' then ⟨p.line + 1, 0⟩ else ⟨p.line, p.column + c.utf8Size⟩

/-- The place behind the first byte of what comes next, or the place itself at the end of the text. -/
def peek (p : Place) : List Char → Place
  | [] => p
  | c :: _ => if c = '\n' then ⟨p.line + 1, 0⟩ else ⟨p.line, p.column + 1⟩

/-- The place behind a text. -/
def behindAll (p : Place) (cs : List Char) : Place :=
  cs.foldl behind p

/-- The place behind the next `n` bytes of a text. -/
def behindBytes (p : Place) : Nat → List Char → Place
  | 0, _ => p
  | _, [] => p
  | n, c :: cs =>
    if c.utf8Size ≤ n then behindBytes (p.behind c) (n - c.utf8Size) cs else ⟨p.line, p.column + n⟩

end Place

/-- Why a text is not the JSON that is asked for. -/
inductive Cause where
  | endInValue
  | endInList
  | endInObject
  | endInText
  | expectedColon
  | expectedListEnd
  | expectedObjectEnd
  | expectedWord
  | expectedValue
  | invalidEscape
  | invalidNumber
  | numberOutOfRange
  | controlCharacter
  | keyNotText
  | loneSurrogate
  | halfSurrogatePair
  | trailingComma
  | trailingCharacters
  | tooDeep
  | mismatch (mismatch : Mismatch)
  deriving DecidableEq

/-- The words for a cause. -/
def Cause.message : Cause → String
  | endInValue => "EOF while parsing a value"
  | endInList => "EOF while parsing a list"
  | endInObject => "EOF while parsing an object"
  | endInText => "EOF while parsing a string"
  | expectedColon => "expected `:`"
  | expectedListEnd => "expected `,` or `]`"
  | expectedObjectEnd => "expected `,` or `\x7d`"
  | expectedWord => "expected ident"
  | expectedValue => "expected value"
  | invalidEscape => "invalid escape"
  | invalidNumber => "invalid number"
  | numberOutOfRange => "number out of range"
  | controlCharacter => "control character (\\u0000-\\u001F) found while parsing a string"
  | keyNotText => "key must be a string"
  | loneSurrogate => "lone leading surrogate in hex escape"
  | halfSurrogatePair => "unexpected end of hex escape"
  | trailingComma => "trailing comma"
  | trailingCharacters => "trailing characters"
  | tooDeep => "recursion limit exceeded"
  | mismatch m => m.message

/-- A cause at a place. -/
structure Fault where
  cause : Cause
  place : Place
  deriving DecidableEq

/-- The words for a fault. -/
def Fault.message (f : Fault) : String :=
  f.cause.message ++ " at line " ++ toString f.place.line ++ " column " ++ toString f.place.column

end ShipManifest.Json
