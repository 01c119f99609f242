import ShipManifest.Text.Blank
import ShipManifest.Text.Lines

/-!
# Tables

The text of a manifest is a table: lines of fields between commas. One byte-order mark in front is not part of it, and
blank lines do not count. The first line that counts is the header; a text without one is the empty table. Fields are
not trimmed and there is no quoting.
-/

namespace ShipManifest

/-- A header line and the rows below it. -/
structure Table where
  headers : List String
  rows : List (List String)
  deriving DecidableEq

namespace Table

/-- The text without one byte-order mark in front. -/
def dropMark : List Char → List Char
  | '\ufeff' :: cs => cs
  | cs => cs

/-- The fields of a line. -/
def fields (line : List Char) : List String :=
  (line.splitOn ',').map String.ofList

/-- Reads a table. -/
def parse (text : String) : Table :=
  match (Text.lines (dropMark text.toList)).filter fun line => !Text.isBlank line with
  | [] => ⟨[], []⟩
  | header :: rows => ⟨fields header, rows.map fields⟩

end Table

end ShipManifest
