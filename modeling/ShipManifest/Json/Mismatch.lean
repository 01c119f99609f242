import ShipManifest.Json.Write
import ShipManifest.Text.Quoted

/-!
# Mismatches

A value that is JSON but not of the kind that is asked for is a mismatch. Its message names what was found and what was
expected.
-/

namespace ShipManifest.Json

/-- What was found in the place of something else. -/
inductive Found where
  | null
  | boolean (b : Bool)
  | integer (i : Int)
  | real (x : Binary64)
  | text (s : String)
  | list
  | object
  deriving DecidableEq

/-- What a value is found to be. -/
def found : Json → Found
  | .null => .null
  | .boolean b => .boolean b
  | .integer i => .integer i
  | .real x => .real x
  | .text s => .text s
  | .list _ => .list
  | .object _ => .object

/-- The words for what was found. -/
def Found.phrase : Found → String
  | null => "null"
  | boolean b => "boolean `" ++ (if b then "true" else "false") ++ "`"
  | integer i => "integer `" ++ String.ofList (writeInteger i) ++ "`"
  | real x => "floating point `" ++ String.ofList (writeReal x) ++ "`"
  | text s => "string " ++ Text.quoted s
  | list => "sequence"
  | object => "map"

/-- Why a value is not of the kind that is asked for. -/
inductive Mismatch where
  | kind (found : Found) (expected : String)
  | memberCount
  | length (length : Nat) (expected : String)
  | missingField (name : String)
  | duplicateField (name : String)
  | unknownField (name : String) (known : List String)
  | unknownVariant (name : String) (known : List String)
  deriving DecidableEq

/-- A name between backticks. -/
def ticked (name : String) : String :=
  "`" ++ name ++ "`"

/-- The names to choose from. -/
def choice : List String → String
  | [a, b] => ticked a ++ " or " ++ ticked b
  | names => "one of " ++ String.intercalate ", " (names.map ticked)

/-- The words for a mismatch. -/
def Mismatch.message : Mismatch → String
  | kind found expected => "invalid type: " ++ found.phrase ++ ", expected " ++ expected
  | memberCount => "invalid value: map, expected map with a single key"
  | length n expected => "invalid length " ++ toString n ++ ", expected " ++ expected
  | missingField name => "missing field " ++ ticked name
  | duplicateField name => "duplicate field " ++ ticked name
  | unknownField name known => "unknown field " ++ ticked name ++ ", expected " ++ choice known
  | unknownVariant name known => "unknown variant " ++ ticked name ++ ", expected " ++ choice known

end ShipManifest.Json
