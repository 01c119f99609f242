import ShipManifest.Checksum
import ShipManifest.Instant
import ShipManifest.Manifest.Table
import ShipManifest.Query.Engine

/-!
# Manifests

A manifest is what was read from a table: the headers, one record for each row, and how many rows do not have six
fields. It knows the checksum of the text it was read from, the path it came from, and when it was made.
-/

namespace ShipManifest

/-- A manifest in memory. -/
structure Manifest where
  headers : List String
  records : List Record
  malformedRows : Nat
  source : Option String
  checksum : UInt32
  loadedAt : Instant
  deriving DecidableEq

namespace Manifest

/-- A manifest of rows that come from no text. Rows with too few or too many fields are kept and counted. -/
def ofRows (now : Instant) (headers : List String) (rows : List (List String)) : Manifest :=
  { headers := headers
    records := rows.map Record.ofRow
    malformedRows := rows.countP (·.length != columnCount)
    source := none
    checksum := 0
    loadedAt := now }

/-- The manifest without headers and records. -/
def empty (now : Instant) : Manifest :=
  ofRows now [] []

/-- Reads the text of a manifest. -/
def parse (now : Instant) (text : String) : Manifest :=
  let table := Table.parse text
  { ofRows now table.headers table.rows with checksum := Checksum.ofText text }

/-- The records at their positions. -/
def listed (m : Manifest) : List Listed :=
  Listed.ofRecords m.records

/-- The outcome of a query on every record. -/
def query (m : Manifest) (options : QueryOptions) (input : String) : Outcome :=
  Query.evaluate options m.listed input

/-- The outcome that finds every record. -/
def everyone (m : Manifest) : Outcome :=
  Outcome.ofFound m.listed

end Manifest

/-- What is known of a manifest without its contents. -/
structure ManifestInfo where
  source : Option String
  checksum : UInt32
  loadedAt : Instant
  recordCount : Nat
  malformedRows : Nat
  deriving DecidableEq

/-- The information on a manifest. -/
def Manifest.info (m : Manifest) : ManifestInfo :=
  { source := m.source
    checksum := m.checksum
    loadedAt := m.loadedAt
    recordCount := m.records.length
    malformedRows := m.malformedRows }

end ShipManifest
