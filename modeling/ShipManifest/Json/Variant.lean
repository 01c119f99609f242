import ShipManifest.Json.Read

/-!
# Names in JSON

An enumeration is a list of names with their values. In JSON a value of it is its name as a text, or an object whose
only key is the name and whose value is null. The same form is read from a value, where a mismatch has no place, and
from text, where it has.
-/

namespace ShipManifest.Json

variable {α : Type}

/-- The value of a name. -/
def variantOfName (variants : List (String × α)) (name : String) : Except Mismatch α :=
  match variants.lookup name with
  | some value => .ok value
  | none => .error (.unknownVariant name (variants.map (·.1)))

/-- Reads a name from a value. -/
def variantOfJson (variants : List (String × α)) : Json → Except Mismatch α
  | .text name => variantOfName variants name
  | .object [(name, value)] =>
    match variantOfName variants name, value with
    | .error mismatch, _ => .error mismatch
    | .ok variant, .null => .ok variant
    | .ok _, value => .error (.kind value.found "unit")
  | .object _ => .error .memberCount
  | value => .error (.kind value.found "string or map")

/-- The fault of a value that is not of the expected kind, at blanks' end. A list or an object is not read; any other
value is, so that a fault within it comes first. -/
def kindFault (expected : String) (c : Cursor) : Fault :=
  match c.rest with
  | '[' :: _ => c.faultHere (.mismatch (.kind .list expected))
  | '{' :: _ => c.faultHere (.mismatch (.kind .object expected))
  | _ =>
    match readValue 0 c with
    | .ok (value, c) => c.faultHere (.mismatch (.kind value.found expected))
    | .error fault => fault

/-- Reads a text from text. -/
def expectText (expected : String) (c : Cursor) : Reading String :=
  let c := skipBlanks c
  match c.rest with
  | '"' :: _ => readText c
  | _ => .error (kindFault expected c)

/-- Reads null from text. -/
def expectNull (expected : String) (c : Cursor) : Reading Unit :=
  let c := skipBlanks c
  match c.rest with
  | 'n' :: _ => (readWord .null ['u', 'l', 'l'] c.next).map fun (_, c) => ((), c)
  | _ => .error (kindFault expected c)

/-- Reads a text that names a variant, from its opening quote on. -/
def readName (variants : List (String × α)) (c : Cursor) : Reading α :=
  (readText c).bind fun (name, c) =>
    match variantOfName variants name with
    | .ok value => .ok (value, c)
    | .error mismatch => .error (c.faultHere (.mismatch mismatch))

/-- Goes to the only key of an object from behind its opening brace. The cursor is then at the key's quote. -/
def seekName (c : Cursor) : Reading Unit :=
  (seekKey true c).bind fun (more, c) => if more then .ok ((), c) else .error (c.faultAhead .expectedValue)

/-- Reads the brace behind the only member of an object. -/
def closeVariant (c : Cursor) : Reading Unit :=
  let c := skipBlanks c
  match c.rest with
  | [] => .error (c.faultHere .endInObject)
  | '}' :: _ => .ok ((), c.next)
  | _ => .error (c.faultHere .expectedValue)

/-- Reads a name from text. -/
def expectVariant (variants : List (String × α)) (c : Cursor) : Reading α :=
  let c := skipBlanks c
  match c.rest with
  | [] => .error (c.faultAhead .endInValue)
  | '"' :: _ => readName variants c
  | '{' :: _ =>
    (seekName c.next).bind fun (_, c) =>
      (readName variants c).bind fun (value, c) =>
        (readColon c).bind fun (_, c) =>
          (expectNull "unit" c).bind fun (_, c) =>
            (closeVariant c).map fun (_, c) => (value, c)
  | _ => .error (c.faultAhead .expectedValue)

end ShipManifest.Json
