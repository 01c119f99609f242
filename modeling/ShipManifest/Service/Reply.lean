import ShipManifest.Json.Write
import ShipManifest.Manifest.Basic
import ShipManifest.Service.Error
import ShipManifest.Text.Bytes

/-!
# Replies

What the service answers, and its JSON. A response is an object with a status: the data of a reply, or the code and the
words of an error. Members of responses are in the order of their keys.
-/

namespace ShipManifest

/-- An age as JSON; one that is unknown or infinite has no number. -/
def Age.toJson (a : Age) : Json :=
  if a.years.isFinite then .real a.years else .null

/-- A text as JSON, or null. -/
def Json.ofText? : Option String → Json
  | some s => .text s
  | none => .null

/-- A natural number as JSON. -/
def Json.ofNat (n : Nat) : Json :=
  .integer n

/-- Texts as JSON. -/
def Json.ofTexts (texts : List String) : Json :=
  .list (texts.map .text)

/-- A record as JSON, in the order of its fields. -/
def Record.toJson (r : Record) : Json :=
  .object [("full_name", .text r.fullName), ("last_name", .text r.lastName), ("first_name", .ofText? r.firstName),
    ("age", r.age.toJson), ("class", .text r.travelClass), ("role", .text r.role), ("category", .text r.category),
    ("is_survivor", .boolean r.isSurvivor)]

/-- An outcome as JSON. -/
def Outcome.toJson (o : Outcome) : Json :=
  .object [("matches", .list (o.records.map (·.toJson))), ("survivors", .ofNat o.tally.survivors),
    ("not_survivors", .ofNat o.tally.notSurvivors)]

/-- The information on a manifest as JSON. -/
def ManifestInfo.toJson (i : ManifestInfo) : Json :=
  .object [("source", .ofText? i.source), ("checksum", .ofNat i.checksum.toNat), ("loaded_at", .text i.loadedAt.text),
    ("record_count", .ofNat i.recordCount), ("malformed_rows", .ofNat i.malformedRows)]

/-- What the service answers to a request. -/
inductive Reply where
  | found (input : String) (labels : List String) (outcome : Outcome)
  | headers (labels : List String)
  | info (known : ManifestInfo)
  | reloaded (outcome : ReloadOutcome)
  deriving DecidableEq

namespace Reply

/-- The data of a reply. -/
def toJson : Reply → Json
  | found input labels outcome =>
    .object [("query", .text input), ("headers", .ofTexts labels),
      ("records", .list (outcome.records.map (·.toJson))), ("survivors", .ofNat outcome.tally.survivors),
      ("not_survivors", .ofNat outcome.tally.notSurvivors)]
  | headers labels => .object [("headers", .ofTexts labels)]
  | info known => known.toJson
  | reloaded .unchanged => .object [("reloaded", .boolean false)]
  | reloaded (.swapped records) => .object [("reloaded", .boolean true), ("records", .ofNat records)]

end Reply

/-- The response to a request: a reply, or an error. -/
abbrev Response := Except ServiceError Reply

namespace Response

/-- The response as JSON. -/
def toJson : Response → Json
  | .ok reply => Json.settle (.object [("status", .text "ok"), ("data", reply.toJson)])
  | .error e =>
    Json.settle (.object [("status", .text "error"), ("code", .text e.code), ("message", .text e.message)])

/-- The bytes of a response without their line feed. -/
def line (response : Response) : Text.Bytes :=
  Text.encode (toJson response).compact

end Response

end ShipManifest
