import ShipManifest.Json.Variant
import ShipManifest.Query.Engine
import ShipManifest.Service.Error

/-!
# Configuration

The configuration is a JSON object with the path of the manifest and, optionally, the stride, the match mode and the
least severity of the journal. Other keys and repeated keys are refused, and the path must not be blank. A list of the
four values in this order is accepted too, and may end early behind the path.

A key that is refused is reported at the blanks' end behind it, or behind a closing brace that stands there.
-/

namespace ShipManifest

/-- The strides under their names. -/
def Stride.variants : List (String × Stride) :=
  [("paired", paired), ("compact", compact)]

/-- The match modes under their names. -/
def MatchMode.variants : List (String × MatchMode) :=
  [("exact", exact), ("ignore_case", ignoreCase)]

/-- A configuration. -/
structure Config where
  manifestPath : String
  stride : Stride := .paired
  mode : MatchMode := .exact
  severity : Severity := .info
  deriving DecidableEq

namespace Config

/-- The options for queries. -/
def queryOptions (c : Config) : QueryOptions :=
  ⟨c.stride, c.mode⟩

/-- What has been read of a configuration. -/
structure Draft where
  manifestPath : Option String := none
  stride : Option Stride := none
  mode : Option MatchMode := none
  severity : Option Severity := none

/-- The configuration of a draft that has a path; what else it lacks is as by default. -/
def Draft.finish? (d : Draft) : Option Config :=
  d.manifestPath.map fun path =>
    { manifestPath := path
      stride := d.stride.getD .paired
      mode := d.mode.getD .exact
      severity := d.severity.getD .info }

/-- The keys of a configuration. -/
inductive Field where
  | manifestPath
  | stride
  | mode
  | severity
  deriving DecidableEq

/-- The keys under their names. -/
def Field.variants : List (String × Field) :=
  [("manifest_path", manifestPath), ("stride_policy", stride), ("match_mode", mode), ("log_level", severity)]

/-- Whether the draft has a value for the key. -/
def Draft.has (d : Draft) : Field → Bool
  | .manifestPath => d.manifestPath.isSome
  | .stride => d.stride.isSome
  | .mode => d.mode.isSome
  | .severity => d.severity.isSome

/-- Reads the value of a key into the draft. -/
def Draft.readField (d : Draft) (c : Json.Cursor) : Field → Json.Reading Draft
  | .manifestPath =>
    (Json.expectText "a string" c).map fun (path, c) => ({ d with manifestPath := some path }, c)
  | .stride => (Json.expectVariant Stride.variants c).map fun (s, c) => ({ d with stride := some s }, c)
  | .mode => (Json.expectVariant MatchMode.variants c).map fun (m, c) => ({ d with mode := some m }, c)
  | .severity => (Json.expectVariant Severity.variants c).map fun (s, c) => ({ d with severity := some s }, c)

/-- The fault of a key that is refused. -/
def keyFault (c : Json.Cursor) (mismatch : Json.Mismatch) : Json.Fault :=
  let c := Json.skipBlanks c
  match c.rest with
  | '}' :: _ => c.next.faultHere (.mismatch mismatch)
  | _ => c.faultHere (.mismatch mismatch)

/-- Reads members into the draft, up to the closing brace. The number of characters bounds the number of members. -/
def readMembers : Nat → Bool → Draft → Json.Cursor → Json.Reading Config
  | 0, _, _, c => .error (c.faultHere .endInObject)
  | n + 1, first, d, c =>
    (Json.seekKey first c).bind fun (more, c) =>
      if more then
        (Json.readText c).bind fun (name, c) =>
          match Field.variants.lookup name with
          | none => .error (keyFault c (.unknownField name (Field.variants.map (·.1))))
          | some field =>
            if d.has field then .error (keyFault c (.duplicateField name))
            else
              (Json.readColon c).bind fun (_, c) =>
                (d.readField c field).bind fun (d, c) => readMembers n false d c
      else match d.finish? with
        | some config => .ok (config, c.next)
        | none => .error (c.next.faultHere (.mismatch (.missingField "manifest_path")))

/-- Goes to the next item of a list, if there is one. The cursor is then at the item, or at the closing bracket. -/
def seekItem (first : Bool) (c : Json.Cursor) : Json.Reading Bool :=
  let c := Json.skipBlanks c
  match c.rest with
  | [] => .error (c.faultAhead .endInList)
  | ']' :: _ => .ok (false, c)
  | x :: _ =>
    if first then .ok (true, c)
    else if x = ',' then
      let c := Json.skipBlanks c.next
      match c.rest with
      | [] => .error (c.faultAhead .endInValue)
      | ']' :: _ => .error (c.faultAhead .trailingComma)
      | _ => .ok (true, c)
    else .error (c.faultAhead .expectedListEnd)

/-- Reads items into the draft, one for each field. -/
def readItems (first : Bool) (d : Draft) : List Field → Json.Cursor → Json.Reading Draft
  | [], c => .ok (d, c)
  | field :: fields, c =>
    (seekItem first c).bind fun (more, c) =>
      if more then (d.readField c field).bind fun (d, c) => readItems false d fields c else .ok (d, c)

/-- Reads the bracket behind the last item. -/
def closeList (c : Json.Cursor) : Json.Reading Unit :=
  let c := Json.skipBlanks c
  match c.rest with
  | [] => .error (c.faultAhead .endInList)
  | ']' :: _ => .ok ((), c.next)
  | ',' :: _ =>
    let c := Json.skipBlanks c.next
    match c.rest with
    | ']' :: _ => .error (c.faultAhead .trailingComma)
    | _ => .error (c.faultAhead .trailingCharacters)
  | _ => .error (c.faultAhead .trailingCharacters)

/-- Reads a list from behind its opening bracket. -/
def readList (c : Json.Cursor) : Json.Reading Config :=
  (readItems true {} (Field.variants.map (·.2)) c).bind fun (d, c) =>
    match d.finish? with
    | some config => (closeList c).map fun (_, c) => (config, c)
    | none => .error (c.next.faultHere (.mismatch (.length 0 "struct Config with 4 elements")))

/-- Reads a configuration. -/
def read (c : Json.Cursor) : Json.Reading Config :=
  let c := Json.skipBlanks c
  match c.rest with
  | [] => .error (c.faultAhead .endInValue)
  | '[' :: _ => readList c.next
  | '{' :: _ => readMembers c.rest.length true {} c.next
  | _ => .error (Json.kindFault "struct Config" c)

/-- Reads the text of a configuration. -/
def parse (text : String) : Except ServiceError Config :=
  match (read (.ofText text)).bind Json.finish with
  | .error fault => .error (.configInvalid fault)
  | .ok config => if Text.isBlank config.manifestPath.toList then .error .configPathBlank else .ok config

/-- Reads the file of a configuration. -/
def load (disk : Disk) (path : String) : Except ServiceError Config :=
  match disk path with
  | .error reason => .error (.configUnreadable reason)
  | .ok bytes =>
    match Text.decode? bytes with
    | none => .error .configNotText
    | some text => parse text

end Config

/-- Reads query options from a value: an object whose other keys do not count, or a list of stride and mode that may
end early. -/
def QueryOptions.ofJson : Json → Except Json.Mismatch QueryOptions
  | .object members => do
    let mode ← (Json.member? "match_mode" members).mapM (Json.variantOfJson MatchMode.variants)
    let stride ← (Json.member? "stride" members).mapM (Json.variantOfJson Stride.variants)
    return ⟨stride.getD .paired, mode.getD .exact⟩
  | .list [] => .ok {}
  | .list [stride] => do
    return ⟨← Json.variantOfJson Stride.variants stride, .exact⟩
  | .list (stride :: mode :: rest) => do
    let stride ← Json.variantOfJson Stride.variants stride
    let mode ← Json.variantOfJson MatchMode.variants mode
    if rest.isEmpty then return ⟨stride, mode⟩
    else .error (.length (rest.length + 2) "fewer elements in array")
  | value => .error (.kind value.found "struct QueryOptions")

end ShipManifest
