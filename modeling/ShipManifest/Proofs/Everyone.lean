import Mathlib.Data.List.TakeDrop
import Mathlib.Data.List.TakeWhile
import ShipManifest.Proofs.Evaluation
import ShipManifest.Proofs.Members
import ShipManifest.Proofs.Reloading
import ShipManifest.Proofs.TableText
import ShipManifest.Service.Handler

/-!
# A new handler tells its file

* Rows: what the JSON of a record tells of the row that the record was read from is `Record.Tells`
  (`Record.tells_ofRow`).
* Files: what the answers about everyone and about the manifest tell of the lines of a file is `Handler.TellsLines`.

Main statement: a handler can be opened on every text file, and its answers tell the file's lines
(`Handler.new_handler_tells_file`). No line is lost, told twice or told out of order.
-/

namespace ShipManifest

/-! ## Names -/

namespace Record

theorem splitName_of_not_mem {name : List Char} (h : '/' ∉ name) : splitName name = (name, none) := by
  have hall : ∀ c ∈ name, (c != '/') = true := by
    intro c hc
    rw [bne_iff_ne]
    rintro rfl
    exact h hc
  rw [splitName, List.span_eq_takeWhile_dropWhile, List.takeWhile_eq_self_iff.mpr hall,
    List.dropWhile_eq_nil_iff.mpr hall]

/-- A name with a slash is its two parts with the first slash between them. -/
theorem splitName_of_mem {name : List Char} (h : '/' ∈ name) :
    ∃ last first, splitName name = (last, some first) ∧ '/' ∉ last ∧ last ++ '/' :: first = name := by
  have hlast : '/' ∉ name.takeWhile (· != '/') := fun hmem => by simpa using List.mem_takeWhile_imp hmem
  have hname := List.takeWhile_append_dropWhile (p := (· != '/')) (l := name)
  cases hd : name.dropWhile (· != '/') with
  | nil =>
    rw [hd, List.append_nil] at hname
    rw [hname] at hlast
    exact absurd h hlast
  | cons c first =>
    have hc : c = '/' := by simpa [hd] using List.head?_dropWhile_not (· != '/') name
    subst hc
    refine ⟨_, first, ?_, hlast, hd ▸ hname⟩
    rw [splitName, List.span_eq_takeWhile_dropWhile, hd]

/-! ## Rows -/

/-- The field of a column, which is empty if the row has none. -/
def fieldAt (fields : List String) (column : Nat) : String :=
  fields[column]?.getD ""

/-- A record is what its fields are. -/
theorem ofRow_eq (row : List String) : ofRow row =
    { fullName := fieldAt row 0
      lastName := String.ofList (splitName (fieldAt row 0).toList).1
      firstName := (splitName (fieldAt row 0).toList).2.map String.ofList
      age := Age.parse (fieldAt row 1)
      travelClass := fieldAt row 2
      category := fieldAt row 3
      role := fieldAt row 4
      isSurvivor := fieldAt row 5 == "T" } := rfl

/-- The JSON of a record tells a row as it is. The name is told as a whole and in two parts, of which the first name is
null if there is no slash. -/
structure Tells (fields : List String) (entry : Json) : Prop where
  full_name : entry.get? "full_name" = some (.text (fieldAt fields 0))
  travel_class : entry.get? "class" = some (.text (fieldAt fields 2))
  category : entry.get? "category" = some (.text (fieldAt fields 3))
  role : entry.get? "role" = some (.text (fieldAt fields 4))
  first_name_null : entry.get? "first_name" = some .null ↔ '/' ∉ (fieldAt fields 0).toList
  names : '/' ∈ (fieldAt fields 0).toList → ∃ last first, entry.get? "last_name" = some (.text last) ∧
    entry.get? "first_name" = some (.text first) ∧ '/' ∉ last.toList ∧ last ++ "/" ++ first = fieldAt fields 0
  is_survivor : entry.get? "is_survivor" = some (.boolean (fields[5]? = some "T"))

theorem isSurvivor_ofRow (fields : List String) : (ofRow fields).isSurvivor = decide (fields[5]? = some "T") := by
  unfold ofRow
  dsimp only
  cases fields[5]? with
  | none => decide
  | some field => by_cases h : field = "T" <;> simp [h]

/-- The names of a record are the parts of its full name. -/
theorem names_ofRow (fields : List String) :
    ('/' ∉ (fieldAt fields 0).toList ∧ (ofRow fields).firstName = none) ∨
      ∃ first, '/' ∈ (fieldAt fields 0).toList ∧ (ofRow fields).firstName = some first ∧
        '/' ∉ (ofRow fields).lastName.toList ∧ (ofRow fields).lastName ++ "/" ++ first = fieldAt fields 0 := by
  have hofRow : (ofRow fields).lastName = String.ofList (splitName (fieldAt fields 0).toList).1 ∧
      (ofRow fields).firstName = (splitName (fieldAt fields 0).toList).2.map String.ofList := ⟨rfl, rfl⟩
  rw [hofRow.1, hofRow.2]
  by_cases h : '/' ∈ (fieldAt fields 0).toList
  · right
    obtain ⟨last, first, hsplit, hlast, hjoin⟩ := splitName_of_mem h
    refine ⟨String.ofList first, h, ?_, ?_, ?_⟩
    · rw [hsplit]
      rfl
    · rwa [hsplit, String.toList_ofList]
    · rw [hsplit, ← String.toList_inj]
      simpa using hjoin
  · left
    rw [splitName_of_not_mem h]
    exact ⟨h, rfl⟩

/-- The values under the keys of a record's JSON. -/
theorem get?_toJson (r : Record) (key : String) : r.toJson.settle.get? key =
    (Json.member? key [("is_survivor", .boolean r.isSurvivor), ("category", .text r.category), ("role", .text r.role),
      ("class", .text r.travelClass), ("age", r.age.toJson), ("first_name", .ofText? r.firstName),
      ("last_name", .text r.lastName), ("full_name", .text r.fullName)]).map Json.settle :=
  Json.get?_settle _

/-- The first name is told as a text or as null. -/
theorem get?_firstName (r : Record) : r.toJson.settle.get? "first_name" = some (.ofText? r.firstName) := by
  rw [get?_toJson]
  cases h : r.firstName <;> rfl

theorem tells_ofRow (fields : List String) : Tells fields (ofRow fields).toJson.settle where
  full_name := by rw [get?_toJson]; rfl
  travel_class := by rw [get?_toJson]; rfl
  category := by rw [get?_toJson]; rfl
  role := by rw [get?_toJson]; rfl
  first_name_null := by
    rw [get?_firstName]
    rcases names_ofRow fields with ⟨h, hfirst⟩ | ⟨first, h, hfirst, -, -⟩
    · simp [h, hfirst, Json.ofText?]
    · simp [h, hfirst, Json.ofText?]
  names := by
    intro h
    rcases names_ofRow fields with ⟨hno, -⟩ | ⟨first, -, hfirst, hlast, hjoin⟩
    · exact absurd h hno
    · refine ⟨(ofRow fields).lastName, first, ?_, ?_, hlast, hjoin⟩
      · rw [get?_toJson]
        rfl
      · rw [get?_firstName, hfirst]
        rfl
  is_survivor := by
    rw [get?_toJson, isSurvivor_ofRow]
    rfl

end Record

/-! ## Manifests of texts -/

namespace Manifest

variable (now : Instant) (text : String)

/-- The rows of a text are its lines behind the first one that counts. -/
theorem rows_parse : (Table.parse text).rows = (Table.fullLines text).tail.map Table.fields := by
  cases h : Table.fullLines text with
  | nil => rw [Table.parse, ← Table.fullLines, h]; rfl
  | cons header rows => rw [Table.parse_of_fullLines h]; rfl

theorem records_parse : (parse now text).records =
    (Table.fullLines text).tail.map fun line => Record.ofRow (Table.fields line) := by
  have h : (parse now text).records = (Table.parse text).rows.map Record.ofRow := rfl
  rw [h, rows_parse, List.map_map]
  rfl

/-- Rows are malformed if their lines do not have five commas. -/
theorem malformedRows_parse : (parse now text).malformedRows =
    (Table.fullLines text).tail.countP fun line => line.count ',' ≠ 5 := by
  have h : (parse now text).malformedRows = (Table.parse text).rows.countP (·.length != columnCount) := rfl
  rw [h, rows_parse, List.countP_map]
  refine List.countP_congr fun line _ => ?_
  have hlength := (Table.splits_fields line).length_eq
  simp [hlength, columnCount]

/-- Everyone is found, in order. -/
theorem records_everyone (m : Manifest) : m.everyone.records = m.records := by
  simp [everyone, listed, Outcome.ofFound, Outcome.records, Listed.ofRecords, Function.comp_def]

theorem tally_everyone (m : Manifest) : m.everyone.tally = Tally.ofRecords m.records := by
  rw [← records_everyone]
  rfl

end Manifest

/-! ## Answers -/

namespace Handler

/-- The answers tell the lines of a file: `all` is the data of the answer about everyone, `info` that of the answer
about the manifest. -/
structure TellsLines (lines : List (List Char)) (all info : Json) : Prop where
  headers : ∃ labels, all.get? "headers" = some (.ofTexts labels) ∧
    match lines with
    | [] => labels = []
    | header :: _ => Table.Splits header labels
  records : ∃ entries, all.get? "records" = some (.list entries) ∧
    List.Forall₂ (fun line entry => ∃ fields, Table.Splits line fields ∧ Record.Tells fields entry) lines.tail entries
  counts : ∃ survivors others : Nat, all.get? "survivors" = some (.integer survivors) ∧
    all.get? "not_survivors" = some (.integer others) ∧
    survivors = lines.tail.countP (fun line => (Table.fields line)[5]? = some "T") ∧
    survivors + others = lines.tail.length
  record_count : info.get? "record_count" = some (.integer lines.tail.length)
  malformed_rows : info.get? "malformed_rows" = some (.integer (lines.tail.countP fun line => line.count ',' ≠ 5))

/-- The data of a reply stands under its key. -/
theorem get?_data (reply : Reply) :
    (Response.toJson (.ok reply)).get? "data" = some reply.toJson.settle := by
  rw [Response.toJson, Json.get?_settle]
  rfl

theorem settle_ofTexts (texts : List String) : (Json.ofTexts texts).settle = Json.ofTexts texts := by
  rw [Json.ofTexts, Json.settle, Json.settleItems_eq_map, List.map_map]
  rfl

/-- The values under the keys of an answer that found records. -/
theorem get?_found (labels : List String) (outcome : Outcome) (input key : String) :
    (Reply.toJson (.found input labels outcome)).settle.get? key =
      (Json.member? key [("not_survivors", .ofNat outcome.tally.notSurvivors),
        ("survivors", .ofNat outcome.tally.survivors), ("records", .list (outcome.records.map (·.toJson))),
        ("headers", .ofTexts labels), ("query", .text input)]).map Json.settle :=
  Json.get?_settle _

/-- The records of an answer that found records. -/
theorem get?_records (labels : List String) (outcome : Outcome) (input : String) :
    (Reply.toJson (.found input labels outcome)).settle.get? "records" =
      some (.list (outcome.records.map fun r => r.toJson.settle)) := by
  have hlist : (Json.list (outcome.records.map (·.toJson))).settle =
      .list (outcome.records.map fun r => r.toJson.settle) := by
    rw [Json.settle, Json.settleItems_eq_map, List.map_map]
    rfl
  rw [get?_found]
  exact congrArg some hlist

/-- The values under the keys of the information on a manifest. -/
theorem get?_info (i : ManifestInfo) (key : String) : (Reply.toJson (.info i)).settle.get? key =
    (Json.member? key [("malformed_rows", .ofNat i.malformedRows), ("record_count", .ofNat i.recordCount),
      ("loaded_at", .text i.loadedAt.text), ("checksum", .ofNat i.checksum.toNat),
      ("source", .ofText? i.source)]).map Json.settle :=
  Json.get?_settle _

/-- What is answered about a manifest of a text tells the text's lines. -/
theorem tellsLines_parse (now : Instant) (text : String) {m : Manifest}
    (hheaders : m.headers = (Manifest.parse now text).headers)
    (hrecords : m.records = (Manifest.parse now text).records)
    (hrows : m.malformedRows = (Manifest.parse now text).malformedRows) :
    TellsLines (Table.fullLines text) (Reply.toJson (.found "" m.headers m.everyone)).settle
      (Reply.toJson (.info m.info)).settle := by
  rw [Manifest.records_parse] at hrecords
  rw [Manifest.malformedRows_parse] at hrows
  constructor
  · refine ⟨m.headers, ?_, ?_⟩
    · rw [get?_found]
      exact congrArg some (settle_ofTexts m.headers)
    · have hshows := Table.shows_parse text
      rw [hheaders]
      cases h : Table.fullLines text with
      | nil =>
        rw [h] at hshows
        exact congrArg Table.headers hshows
      | cons header rows =>
        rw [h] at hshows
        exact hshows.1
  · refine ⟨m.records.map fun r => r.toJson.settle, ?_, ?_⟩
    · rw [get?_records, Manifest.records_everyone]
    · rw [hrecords, List.map_map, List.forall₂_map_right_iff, List.forall₂_same]
      exact fun line _ => ⟨Table.fields line, Table.splits_fields line, Record.tells_ofRow _⟩
  · refine ⟨m.everyone.tally.survivors, m.everyone.tally.notSurvivors, ?_, ?_, ?_, ?_⟩
    · rw [get?_found]
      rfl
    · rw [get?_found]
      rfl
    · rw [Manifest.tally_everyone, Tally.ofRecords_eq, hrecords, List.countP_map]
      refine List.countP_congr fun line _ => ?_
      rw [Function.comp_apply, Record.isSurvivor_ofRow]
    · have h := Tally.total_ofRecords m.records
      rw [← Manifest.tally_everyone, Tally.total, hrecords, List.length_map] at h
      exact h
  · rw [get?_info, Manifest.info, hrecords, List.length_map]
    rfl
  · rw [get?_info, Manifest.info, hrows]
    rfl

/-- **A new handler tells its file.** Every file of text opens, and the answers about everyone and about the manifest
tell its lines, whatever the options of queries, the disk and the time are when they are asked. -/
theorem new_handler_tells_file {disk : Disk} {config : Config} {bytes : Text.Bytes} {text : String} (now : Instant)
    (hfile : disk config.manifestPath = .ok bytes) (htext : Text.decode? bytes = some text) :
    ∃ h, (ofConfig disk now config).result = .ok h ∧ h.options = config.queryOptions ∧
      ∀ disk' tick, ∃ all info,
        (Response.toJson (h.handle disk' tick .all).response).get? "data" = some all ∧
        (Response.toJson (h.handle disk' tick .info).response).get? "data" = some info ∧
        TellsLines (Table.fullLines text) all info := by
  let m := Manifest.ofFile now config.manifestPath text
  have hopen : (ofConfig disk now config).result = .ok ⟨.ofManifest m, config.queryOptions, config.manifestPath⟩ := by
    rw [ofConfig, Store.openAt, Manifest.load_of_text hfile htext]
    rfl
  refine ⟨_, hopen, rfl, fun disk' tick => ⟨_, _, get?_data _, get?_data _, ?_⟩⟩
  exact tellsLines_parse now text (m := m) rfl rfl rfl

/-- A file with a mark, blank lines, mixed endings, and rows that are too short and too long. -/
theorem new_handler_tells_file_when_ragged :
    let text := "\ufeff \r\nName,Age\n\nA/ One/,1,Deck,Crew,Cook,T\r\nB\n,,,,,T,\n\t"
    let disk : Disk := fun _ => .ok (Text.encode text)
    let config : Config := { manifestPath := "m.csv", stride := .compact, mode := .ignoreCase }
    Table.fullLines text = ["Name,Age", "A/ One/,1,Deck,Crew,Cook,T", "B", ",,,,,T,"].map String.toList ∧
      ∃ h, (ofConfig disk ⟨0⟩ config).result = .ok h ∧ h.options = ⟨.compact, .ignoreCase⟩ ∧
        ∀ disk' tick, ∃ all info,
          (Response.toJson (h.handle disk' tick .all).response).get? "data" = some all ∧
          (Response.toJson (h.handle disk' tick .info).response).get? "data" = some info ∧
          TellsLines (Table.fullLines text) all info := by
  intro text disk config
  exact ⟨by decide +kernel, new_handler_tells_file ⟨0⟩ rfl (Text.decode?_encode text)⟩

end Handler

end ShipManifest
