/-!
# Severities

The four severities of journal entries, in ascending order. A journal with a least severity holds the entries of that
severity and above.
-/

namespace ShipManifest

/-- How serious an entry is. -/
inductive Severity where
  | trace
  | info
  | warn
  | error
  deriving DecidableEq

namespace Severity

/-- The severity's place in the order. -/
def rank : Severity → Nat
  | trace => 0
  | info => 1
  | warn => 2
  | error => 3

/-- The severity as entries show it. -/
def label : Severity → String
  | trace => "TRACE"
  | info => "INFO"
  | warn => "WARN"
  | error => "ERROR"

/-- The severities under the names of the configuration. -/
def variants : List (String × Severity) :=
  [("trace", trace), ("info", info), ("warn", warn), ("error", error)]

/-- Whether a journal with the least severity `least` holds entries of this severity. -/
def passes (least severity : Severity) : Bool :=
  least.rank ≤ severity.rank

end Severity

end ShipManifest
