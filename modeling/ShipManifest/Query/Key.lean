import ShipManifest.Record
import ShipManifest.Text.Case

/-!
# Query keys

A key asks either for a text in one of four fields or for one of four flags. A token names a key if its first four
characters in capitals are the key's stem. The stems of three letters therefore match no longer token.
-/

namespace ShipManifest

/-- A field that is searched for a text. -/
inductive TextKey where
  | firstName
  | lastName
  | travelClass
  | role
  deriving DecidableEq

/-- A property that a record has or has not. -/
inductive FlagKey where
  | crew
  | passenger
  | survived
  | notSurvived
  deriving DecidableEq

/-- A key of a query. -/
inductive Key where
  | text (key : TextKey)
  | flag (key : FlagKey)
  deriving DecidableEq

/-- The field that the key names; a record may lack a first name. -/
def TextKey.field? : TextKey → Record → Option String
  | firstName, r => r.firstName
  | lastName, r => some r.lastName
  | travelClass, r => some r.travelClass
  | role, r => some r.role

/-- Whether the record has the property. -/
def FlagKey.holds : FlagKey → Record → Bool
  | crew, r => r.isCrew
  | passenger, r => r.isPassenger
  | survived, r => r.isSurvivor
  | notSurvived, r => !r.isSurvivor

namespace Key

/-- Every key. -/
def all : List Key :=
  [.text .firstName, .text .lastName, .text .travelClass, .text .role, .flag .crew, .flag .passenger, .flag .survived,
    .flag .notSurvived]

/-- How many characters of a token count. -/
def stemLength : Nat := 4

/-- The capitals that a token must begin with. -/
def stem : Key → String
  | .text .firstName => "FIRS"
  | .text .lastName => "LAST"
  | .text .travelClass => "CLAS"
  | .text .role => "ROLE"
  | .flag .crew => "CREW"
  | .flag .passenger => "PAX"
  | .flag .survived => "SURV"
  | .flag .notSurvived => "NOT"

/-- The key's name. -/
def name : Key → String
  | .text .firstName => "first_name"
  | .text .lastName => "last_name"
  | .text .travelClass => "class"
  | .text .role => "role"
  | .flag .crew => "crew"
  | .flag .passenger => "passenger"
  | .flag .survived => "survived"
  | .flag .notSurvived => "not_survived"

/-- The key as messages show it. -/
def label : Key → String
  | .text .firstName => "FirstName"
  | .text .lastName => "LastName"
  | .text .travelClass => "Class"
  | .text .role => "Role"
  | .flag .crew => "Crew"
  | .flag .passenger => "Passenger"
  | .flag .survived => "Survived"
  | .flag .notSurvived => "NotSurvived"

/-- Whether the token behind the key is the text to look for. -/
def takesValue : Key → Bool
  | .text _ => true
  | .flag _ => false

/-- The key that a token names, if it names one. -/
def ofToken? (token : List Char) : Option Key :=
  all.find? fun key => key.stem.toList == (Text.upper token).take stemLength

end Key

end ShipManifest
