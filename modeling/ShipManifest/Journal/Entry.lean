import ShipManifest.Instant
import ShipManifest.Journal.Severity
import ShipManifest.Text.Bytes

/-!
# Journal entries

An entry is written as one line: a JSON object whose members are the event, the severity, the time and then the fields,
sorted by key, where equal keys keep their order. Quotes, backslashes and control characters are escaped, so an entry
stays on its line and no text in it ends its member.
-/

namespace ShipManifest.Journal

/-- Something that happened, with named details. -/
structure Entry where
  time : Instant
  severity : Severity
  event : String
  fields : List (String × String)
  deriving DecidableEq

/-- Whether the character is a control: below the space, the delete character, or one of the 32 from U+0080 on. -/
def isControl (c : Char) : Bool :=
  c.toNat < 0x20 || (0x7F ≤ c.toNat && c.toNat < 0xA0)

/-- A character as it stands in a line. -/
def escapeChar (c : Char) : List Char :=
  match c with
  | '"' => ['\\', '"']
  | '\\' => ['\\', '\\']
  | '\n' => ['\\', 'n']
  | '\r' => ['\\', 'r']
  | '\t' => ['\\', 't']
  | c =>
    if isControl c then ['\\', 'u', '0', '0', (c.toNat / 16).digitChar, (c.toNat % 16).digitChar] else [c]

/-- A text between quotes. -/
def writeText (s : String) : List Char :=
  '"' :: s.toList.flatMap escapeChar ++ ['"']

/-- The fields in the order of their keys. -/
def sortFields (fields : List (String × String)) : List (String × String) :=
  fields.mergeSort fun a b => a.1 ≤ b.1

/-- A field as it follows another member. -/
def writeField (field : String × String) : List Char :=
  ',' :: writeText field.1 ++ ':' :: writeText field.2

/-- The line of an entry at a time given as text. The text of the time is written as it is. -/
def writeLine (severity : Severity) (event : String) (fields : List (String × String)) (time : String) : List Char :=
  '{' :: writeText "event" ++ ':' :: writeText event ++
    ',' :: writeText "severity" ++ ':' :: writeText severity.label ++
    ',' :: writeText "ts" ++ ':' :: '"' :: time.toList ++ '"' ::
    (sortFields fields).flatMap writeField ++ ['}', '\n']

/-- The line of an entry. -/
def Entry.line (e : Entry) : String :=
  String.ofList (writeLine e.severity e.event e.fields e.time.milliText)

/-- The entries that a journal with this least severity holds. -/
def kept (least : Severity) (entries : List Entry) : List Entry :=
  entries.filter fun e => least.passes e.severity

/-- The lines of the entries that a journal with this least severity holds. -/
def lines (least : Severity) (entries : List Entry) : List String :=
  (kept least entries).map (·.line)

end ShipManifest.Journal
