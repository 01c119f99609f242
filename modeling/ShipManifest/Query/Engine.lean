import ShipManifest.Query.Predicate

/-!
# Evaluating queries

Records are evaluated together with their position in the manifest, so equal records stay apart. The directives narrow
the list one after the other, and the search ends early once nobody is left. An outcome holds what was found, in
manifest order, and how many of those survived.
-/

namespace ShipManifest

/-- How tokens are read and texts compared. -/
structure QueryOptions where
  stride : Stride := .paired
  mode : MatchMode := .exact
  deriving DecidableEq

/-- A record at its position in a manifest. -/
structure Listed where
  position : Nat
  record : Record
  deriving DecidableEq

/-- The records at their positions, counted from zero. -/
def Listed.ofRecords (records : List Record) : List Listed :=
  records.zipIdx.map fun (record, position) => ⟨position, record⟩

/-- How many survived and how many did not. -/
structure Tally where
  survivors : Nat
  notSurvivors : Nat
  deriving DecidableEq

namespace Tally

/-- The tally with one more person. -/
def add (t : Tally) (r : Record) : Tally :=
  if r.isSurvivor then { t with survivors := t.survivors + 1 } else { t with notSurvivors := t.notSurvivors + 1 }

/-- Counts records. -/
def ofRecords (records : List Record) : Tally :=
  records.foldl add ⟨0, 0⟩

/-- How many people were counted. -/
def total (t : Tally) : Nat :=
  t.survivors + t.notSurvivors

end Tally

/-- What was found. -/
structure Outcome where
  found : List Listed
  tally : Tally
  deriving DecidableEq

namespace Outcome

/-- The outcome that finds exactly these. -/
def ofFound (found : List Listed) : Outcome :=
  ⟨found, Tally.ofRecords (found.map (·.record))⟩

/-- The records found. -/
def records (o : Outcome) : List Record :=
  o.found.map (·.record)

end Outcome

namespace Query

/-- The records left by the directives, which end early when none is left. -/
def narrow (mode : MatchMode) : Query → List Listed → List Listed
  | [], listed => listed
  | _, [] => []
  | directive :: rest, listed =>
    narrow mode rest (listed.filter fun entry => (Predicate.ofDirective mode directive).test entry.record)

/-- The outcome of a query on a list of records. -/
def apply (mode : MatchMode) (listed : List Listed) (query : Query) : Outcome :=
  Outcome.ofFound (query.narrow mode listed)

/-- Reads a query and applies it. -/
def evaluate (options : QueryOptions) (listed : List Listed) (input : String) : Outcome :=
  apply options.mode listed (parse options.stride input)

end Query

/-- The records whose full name contains the text. -/
def searchName (mode : MatchMode) (listed : List Listed) (name : String) : Outcome :=
  let needle := mode.normalize name.toList
  Outcome.ofFound (listed.filter fun entry => mode.contains entry.record.fullName needle)

end ShipManifest
