import ShipManifest.Age

/-!
# Records

A row of the manifest has six columns: name, age, class, category, role and survival. Columns that a row lacks are
empty, and fields beyond the sixth are not read. The name holds the last name and, behind the first slash, the first
name; without a slash there is no first name, which is not the same as an empty one.
-/

namespace ShipManifest

/-- How many columns a well-formed row has. -/
def columnCount : Nat := 6

/-- What the manifest says about one person. -/
structure Record where
  fullName : String
  lastName : String
  firstName : Option String
  age : Age
  travelClass : String
  role : String
  category : String
  isSurvivor : Bool
  deriving DecidableEq

namespace Record

/-- The parts of a full name before and after the first slash. -/
def splitName (name : List Char) : List Char × Option (List Char) :=
  match name.span (· != '/') with
  | (last, []) => (last, none)
  | (last, _ :: first) => (last, some first)

/-- Reads a row. Someone survived exactly if the sixth field is `T`. -/
def ofRow (row : List String) : Record :=
  let field (column : Nat) : String := row[column]?.getD ""
  let (last, first) := splitName (field 0).toList
  { fullName := field 0
    lastName := String.ofList last
    firstName := first.map String.ofList
    age := Age.parse (field 1)
    travelClass := field 2
    category := field 3
    role := field 4
    isSurvivor := field 5 == "T" }

/-- Whether the person belongs to the crew. -/
def isCrew (r : Record) : Bool :=
  r.category == "Crew"

/-- Whether the person is a passenger. -/
def isPassenger (r : Record) : Bool :=
  r.category == "Passenger"

end Record

end ShipManifest
