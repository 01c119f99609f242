import ShipManifest.Proofs.Everyone
import ShipManifest.Proofs.Places

/-!
# ASCII letters in other case

Where case is ignored, the case of ASCII letters is not looked at: neither in a line, its keys included, nor in the
fields that are searched. To see this, texts are compared with what they are once the capitals of ASCII are made small
(`Text.lowerAscii`).

* Characters: what is asked of a character does not tell an ASCII letter from its small one (`Text.toLower_same`), so
  the small form and the capital form of a text are those of the text with small ASCII letters (`Text.lower_lowerAscii`,
  `Text.upper_lowerAscii`).
* Lines: the directives of a line with small ASCII letters are those of the line, with such values
  (`Query.parse_lowerAscii`).
* Rows: the record of a row with small ASCII letters is that of the row, with such texts (`Record.ofRow_lowerAscii`).
* A directive and a record pass the same tests with small ASCII letters (`Predicate.test_lowerAscii`).

Main statement: lines and rows that differ in the case of ASCII letters at most are answered with the same positions and
the same counts (`ignoring_case_ignores_ascii_case`).
-/

namespace ShipManifest

/-! ## Texts -/

namespace Text

/-- The text with small letters for the capitals of ASCII, and with every other character as it is. -/
def lowerAscii (cs : List Char) : List Char :=
  cs.map Char.toLower

/-- The string with small letters for the capitals of ASCII. -/
def lowerAsciiString (s : String) : String :=
  String.ofList (lowerAscii s.toList)

@[simp] theorem toList_lowerAsciiString (s : String) : (lowerAsciiString s).toList = lowerAscii s.toList :=
  String.toList_ofList

theorem lowerAsciiString_ofList (cs : List Char) :
    lowerAsciiString (String.ofList cs) = String.ofList (lowerAscii cs) := by
  rw [lowerAsciiString, String.toList_ofList]

/-- What does not tell the letters of ASCII from their small ones tells no character from its small one. -/
theorem toLower_same {α : Type} {f : Char → α} (h : ∀ n < 0x80, f (Char.ofNat n).toLower = f (Char.ofNat n))
    (c : Char) : f c.toLower = f c := by
  rcases Nat.lt_or_ge c.toNat 0x80 with hlt | hge
  · have hc := h c.toNat hlt
    rwa [Char.ofNat_toNat] at hc
  · have hnone : ¬ (c.val ≥ 'A'.val ∧ c.val ≤ 'Z'.val) := by
      rintro ⟨-, hz⟩
      have hle : c.toNat ≤ 'Z'.toNat := UInt32.le_iff_toNat_le.mp hz
      have hsmall : 'Z'.toNat < 0x80 := by decide
      omega
    have hself : c.toLower = c := dif_neg hnone
    rw [hself]

theorem isCaseIgnorable_toLower (c : Char) : isCaseIgnorable c.toLower = isCaseIgnorable c :=
  toLower_same (by decide) c

theorem isCased_toLower (c : Char) : isCased c.toLower = isCased c :=
  toLower_same (by decide) c

theorem lowerChar_toLower (c : Char) : lowerChar c.toLower = lowerChar c :=
  toLower_same (by decide) c

theorem upperChar_toLower (c : Char) : upperChar c.toLower = upperChar c :=
  toLower_same (by decide) c

/-- Only a capital sigma becomes one. -/
theorem toLower_eq_sigma (c : Char) : decide (c.toLower = 'Σ') = decide (c = 'Σ') :=
  toLower_same (f := fun c => decide (c = 'Σ')) (by decide) c

theorem startsCased_lowerAscii (cs : List Char) : startsCased (lowerAscii cs) = startsCased cs := by
  induction cs with
  | nil => rfl
  | cons c cs ih =>
    have hcs : startsCased (cs.map Char.toLower) = startsCased cs := ih
    rw [lowerAscii, List.map_cons, startsCased, startsCased, hcs, isCaseIgnorable_toLower, isCased_toLower]

theorem lowerAfter_lowerAscii (before : Bool) (cs : List Char) :
    lowerAfter before (lowerAscii cs) = lowerAfter before cs := by
  induction cs generalizing before with
  | nil => rfl
  | cons c cs ih =>
    have hstart : startsCased (cs.map Char.toLower) = startsCased cs := startsCased_lowerAscii cs
    have hends : endsCased before c.toLower = endsCased before c := by
      rw [endsCased, endsCased, isCaseIgnorable_toLower, isCased_toLower]
    have hsigma : c.toLower = 'Σ' ↔ c = 'Σ' := decide_eq_decide.mp (toLower_eq_sigma c)
    have hcs : lowerAfter (endsCased before c) (cs.map Char.toLower) = lowerAfter (endsCased before c) cs := ih _
    simp only [lowerAscii, List.map_cons, lowerAfter, hstart, hends, hsigma, hcs, lowerChar_toLower]

/-- The small form of a text does not depend on the case of its ASCII letters. -/
theorem lower_lowerAscii (cs : List Char) : lower (lowerAscii cs) = lower cs :=
  lowerAfter_lowerAscii false cs

/-- Neither does its capital form. -/
theorem upper_lowerAscii (cs : List Char) : upper (lowerAscii cs) = upper cs := by
  rw [upper, lowerAscii, List.flatMap_map]
  exact List.flatMap_congr fun c _ => upperChar_toLower c

/-- A separator that is no letter of ASCII stays where it is. -/
theorem splitOn_lowerAscii {sep : Char} (h : ∀ n < 0x80, ((Char.ofNat n).toLower == sep) = (Char.ofNat n == sep))
    (cs : List Char) : (lowerAscii cs).splitOn sep = (cs.splitOn sep).map lowerAscii := by
  induction cs with
  | nil => rfl
  | cons c cs ih =>
    have hc : (c.toLower == sep) = (c == sep) := toLower_same (f := (· == sep)) h c
    have hcs : (cs.map Char.toLower).splitOn sep = (cs.splitOn sep).map lowerAscii := ih
    rw [lowerAscii, List.map_cons, List.splitOn_cons_eq_if_modifyHead, List.splitOn_cons_eq_if_modifyHead, hc, hcs]
    split
    · rfl
    · cases cs.splitOn sep <;> rfl

end Text

open Text (lowerAscii lowerAsciiString)

/-! ## Lines -/

/-- The token names the key that it named. -/
theorem Key.ofToken?_lowerAscii (token : List Char) : ofToken? (lowerAscii token) = ofToken? token := by
  rw [ofToken?, ofToken?, Text.upper_lowerAscii]

/-- The directive with small ASCII letters in its value. -/
def Directive.lowerAscii (d : Directive) : Directive :=
  { d with value := d.value.map lowerAsciiString }

namespace Query

theorem takesNext_lowerAscii (stride : Stride) (token : List Char) :
    takesNext stride (lowerAscii token) = takesNext stride token := by
  cases stride with
  | paired => rfl
  | compact => rw [takesNext, takesNext, Key.ofToken?_lowerAscii]

theorem directive?_lowerAscii (token : List Char) (next : Option (List Char)) :
    directive? (lowerAscii token) (next.map lowerAscii) = (directive? token next).map Directive.lowerAscii := by
  rw [directive?, directive?, Key.ofToken?_lowerAscii]
  cases Key.ofToken? token with
  | none => rfl
  | some key =>
    cases h : key.takesValue <;> cases next <;> simp [Directive.lowerAscii, Text.lowerAsciiString_ofList, h]

theorem ofTokens_lowerAscii (stride : Stride) (tokens : List (List Char)) :
    ofTokens stride (tokens.map lowerAscii) = (ofTokens stride tokens).map Directive.lowerAscii := by
  induction tokens using reading_induction stride with
  | nil => rw [List.map_nil, ofTokens, List.map_nil]
  | alone token rest htakes ih =>
    have htakes' : takesNext stride (lowerAscii token) = false := by rw [takesNext_lowerAscii, htakes]
    rw [List.map_cons, ofTokens_alone htakes', ofTokens_alone htakes, List.head?_map, directive?_lowerAscii,
      Option.toList_map, ih, List.map_append]
  | last token htakes =>
    rw [List.map_singleton, ofTokens_last, ofTokens_last, ← Option.toList_map, ← directive?_lowerAscii]
    rfl
  | pair token next rest htakes ih =>
    have htakes' : takesNext stride (lowerAscii token) = true := by rw [takesNext_lowerAscii, htakes]
    rw [List.map_cons, List.map_cons, ofTokens_pair htakes', ofTokens_pair htakes, ih, List.map_append,
      ← Option.toList_map, ← directive?_lowerAscii]
    rfl

/-- A line with small ASCII letters has the same directives, with small ASCII letters in their values. -/
theorem parse_lowerAscii (stride : Stride) (input : String) :
    parse stride (lowerAsciiString input) = (parse stride input).map Directive.lowerAscii := by
  rw [parse_eq_ofTokens, parse_eq_ofTokens, ← ofTokens_lowerAscii, tokens, Text.toList_lowerAsciiString,
    Text.splitOn_lowerAscii (by decide)]
  rfl

end Query

/-! ## Rows and records -/

namespace Record

/-- The columns of the name, the class and the role. -/
def wordColumns : List Nat := [0, 2, 4]

/-- The row with small ASCII letters in its name, its class and its role. -/
def lowerAsciiRow (row : List String) : List String :=
  row.mapIdx fun column field => if column ∈ wordColumns then lowerAsciiString field else field

/-- The record with small ASCII letters in its names, its class and its role. -/
def lowerAscii (r : Record) : Record :=
  { r with
    fullName := lowerAsciiString r.fullName
    lastName := lowerAsciiString r.lastName
    firstName := r.firstName.map lowerAsciiString
    travelClass := lowerAsciiString r.travelClass
    role := lowerAsciiString r.role }

theorem getElem?_lowerAsciiRow (row : List String) (column : Nat) : (lowerAsciiRow row)[column]? =
    row[column]?.map fun field => if column ∈ wordColumns then lowerAsciiString field else field :=
  List.getElem?_mapIdx

theorem fieldAt_lowerAsciiRow_of_mem (column : Nat) (h : column ∈ wordColumns) (row : List String) :
    fieldAt (lowerAsciiRow row) column = lowerAsciiString (fieldAt row column) := by
  rw [fieldAt, fieldAt, getElem?_lowerAsciiRow]
  cases row[column]? with
  | none => rfl
  | some field => simp [h]

theorem fieldAt_lowerAsciiRow_of_not_mem (column : Nat) (h : column ∉ wordColumns) (row : List String) :
    fieldAt (lowerAsciiRow row) column = fieldAt row column := by
  rw [fieldAt, fieldAt, getElem?_lowerAsciiRow]
  cases row[column]? with
  | none => rfl
  | some field => simp [h]

/-- The first slash stays where it is. -/
theorem splitName_lowerAscii (name : List Char) : splitName (Text.lowerAscii name) =
    (Text.lowerAscii (splitName name).1, (splitName name).2.map Text.lowerAscii) := by
  have hslash : (fun c : Char => c != '/') ∘ Char.toLower = fun c => c != '/' :=
    funext fun c => Text.toLower_same (f := (· != '/')) (by decide) c
  rw [splitName, splitName, List.span_eq_takeWhile_dropWhile, List.span_eq_takeWhile_dropWhile, Text.lowerAscii,
    List.takeWhile_map, List.dropWhile_map, hslash]
  cases name.dropWhile (· != '/') <;> rfl

/-- The record of a row with small ASCII letters. -/
theorem ofRow_lowerAscii (row : List String) : ofRow (lowerAsciiRow row) = (ofRow row).lowerAscii := by
  have hfirst (first : Option (List Char)) :
      (first.map Text.lowerAscii).map String.ofList = (first.map String.ofList).map lowerAsciiString := by
    cases first with
    | none => rfl
    | some first => simp [Text.lowerAsciiString_ofList]
  have hname := fieldAt_lowerAsciiRow_of_mem 0 (by decide) row
  have hage := fieldAt_lowerAsciiRow_of_not_mem 1 (by decide) row
  have hclass := fieldAt_lowerAsciiRow_of_mem 2 (by decide) row
  have hcategory := fieldAt_lowerAsciiRow_of_not_mem 3 (by decide) row
  have hrole := fieldAt_lowerAsciiRow_of_mem 4 (by decide) row
  have hsurvivor := fieldAt_lowerAsciiRow_of_not_mem 5 (by decide) row
  simp only [ofRow_eq, lowerAscii, hname, hage, hclass, hcategory, hrole, hsurvivor, Text.toList_lowerAsciiString,
    splitName_lowerAscii, Text.lowerAsciiString_ofList, hfirst]

end Record

/-! ## Answers -/

namespace MatchMode

theorem normalize_lowerAscii (text : String) :
    ignoreCase.normalize (lowerAsciiString text).toList = ignoreCase.normalize text.toList := by
  rw [Text.toList_lowerAsciiString]
  exact Text.lower_lowerAscii text.toList

theorem contains_lowerAscii (text : String) (needle : List Char) :
    ignoreCase.contains (lowerAsciiString text) needle = ignoreCase.contains text needle := by
  rw [contains, contains, normalize_lowerAscii]

end MatchMode

/-- A record with small ASCII letters passes the tests that it passed. -/
theorem Predicate.test_lowerAscii (d : Directive) (r : Record) :
    (ofDirective .ignoreCase d.lowerAscii).test r.lowerAscii = (ofDirective .ignoreCase d).test r := by
  obtain ⟨key, value⟩ := d
  cases key with
  | text key =>
    cases value with
    | none => rfl
    | some value =>
      have hfield : key.field? r.lowerAscii = (key.field? r).map lowerAsciiString := by cases key <;> rfl
      simp only [Directive.lowerAscii, Option.map_some, ofDirective, test, MatchMode.normalize_lowerAscii,
        hfield]
      cases key.field? r with
      | none => rfl
      | some text => exact MatchMode.contains_lowerAscii text _
  | flag key => cases key <;> rfl

/-- The entry with small ASCII letters in its record. -/
def Listed.lowerAscii (entry : Listed) : Listed :=
  { entry with record := entry.record.lowerAscii }

theorem Listed.ofRecords_lowerAscii (rows : List (List String)) :
    ofRecords (rows.map fun row => Record.ofRow (Record.lowerAsciiRow row)) =
      (ofRecords (rows.map Record.ofRow)).map lowerAscii := by
  have hrows : (rows.map fun row => Record.ofRow (Record.lowerAsciiRow row)) =
      (rows.map Record.ofRow).map Record.lowerAscii := by
    rw [List.map_map]
    exact List.map_congr_left fun row _ => Record.ofRow_lowerAscii row
  rw [hrows, ofRecords, ofRecords, List.zipIdx_map, List.map_map, List.map_map]
  rfl

namespace Query

theorem narrow_lowerAscii (query : Query) (listed : List Listed) :
    narrow .ignoreCase (query.map Directive.lowerAscii) (listed.map Listed.lowerAscii) =
      (narrow .ignoreCase query listed).map Listed.lowerAscii := by
  rw [narrow_eq_narrowFully, narrow_eq_narrowFully]
  induction query generalizing listed with
  | nil => rfl
  | cons d rest ih =>
    have hfilter : (listed.map Listed.lowerAscii).filter
        (fun entry => (Predicate.ofDirective .ignoreCase d.lowerAscii).test entry.record) =
          (listed.filter fun entry => (Predicate.ofDirective .ignoreCase d).test entry.record).map
            Listed.lowerAscii := by
      rw [List.filter_map]
      exact congrArg _ (List.filter_congr fun entry _ => Predicate.test_lowerAscii d entry.record)
    rw [narrowFully, List.map_cons, List.foldl_cons, hfilter]
    exact ih _

end Query

/-- What is to be seen of an outcome without its records: the positions found, and the counts. -/
def Outcome.places (o : Outcome) : List Nat × Tally :=
  (o.found.map (·.position), o.tally)

theorem Outcome.places_lowerAscii (found : List Listed) :
    (ofFound (found.map Listed.lowerAscii)).places = (ofFound found).places := by
  rw [places, places, ofFound, ofFound, Tally.ofRecords_eq, Tally.ofRecords_eq, List.map_map, List.map_map,
    List.countP_map, List.countP_map, List.countP_map, List.countP_map]
  rfl

section Answers

variable (rows : List (List String)) (text : String)

/-- A line and rows with small ASCII letters are answered as they were. -/
theorem Query.places_evaluate_lowerAscii (stride : Stride) :
    (evaluate ⟨stride, .ignoreCase⟩ (Listed.ofRecords (rows.map Record.ofRow)) text).places =
      (evaluate ⟨stride, .ignoreCase⟩ (Listed.ofRecords ((rows.map Record.lowerAsciiRow).map Record.ofRow))
        (lowerAsciiString text)).places := by
  rw [List.map_map, evaluate, evaluate, apply, apply, parse_lowerAscii]
  simp only [Function.comp_def]
  rw [Listed.ofRecords_lowerAscii, narrow_lowerAscii, Outcome.places_lowerAscii]

/-- So is a search by name. -/
theorem places_searchName_lowerAscii :
    (searchName .ignoreCase (Listed.ofRecords (rows.map Record.ofRow)) text).places =
      (searchName .ignoreCase (Listed.ofRecords ((rows.map Record.lowerAsciiRow).map Record.ofRow))
        (lowerAsciiString text)).places := by
  rw [List.map_map, searchName, searchName, MatchMode.normalize_lowerAscii]
  simp only [Function.comp_def]
  rw [Listed.ofRecords_lowerAscii, List.filter_map, Outcome.places_lowerAscii]
  refine congrArg (fun found => (Outcome.ofFound found).places) (List.filter_congr fun entry _ => ?_)
  exact (MatchMode.contains_lowerAscii entry.record.fullName _).symm

end Answers

/-- **Where case is ignored, the case of ASCII letters does not matter**, neither in the text that is asked for, its
keys included, nor in the names, the classes and the roles of the rows. The positions found and the counts are the
same. -/
theorem ignoring_case_ignores_ascii_case {rows rows' : List (List String)} {text text' : String}
    (hrows : rows.map Record.lowerAsciiRow = rows'.map Record.lowerAsciiRow)
    (htext : lowerAsciiString text = lowerAsciiString text') :
    let listed := Listed.ofRecords (rows.map Record.ofRow)
    let listed' := Listed.ofRecords (rows'.map Record.ofRow)
    (∀ stride, (Query.evaluate ⟨stride, .ignoreCase⟩ listed text).places =
      (Query.evaluate ⟨stride, .ignoreCase⟩ listed' text').places) ∧
    (searchName .ignoreCase listed text).places = (searchName .ignoreCase listed' text').places := by
  intro listed listed'
  constructor
  · intro stride
    rw [Query.places_evaluate_lowerAscii rows, Query.places_evaluate_lowerAscii rows', hrows, htext]
  · rw [places_searchName_lowerAscii rows, places_searchName_lowerAscii rows', hrows, htext]

/-- Keys and values in other case, next to letters that are not of ASCII and to a sigma that ends a word. -/
theorem ignoring_case_ignores_ascii_case_around_sigma :
    let rows := [["Büσs/ Mr OΣ", "44", "1st Class", "Crew", "Cook", "T"], ["Smith", "", "deck", "Passenger", "Σ", "F"]]
    let rows' := [["büσS/ mR oΣ", "44", "1ST class", "Crew", "cOOK", "T"], ["sMITH", "", "DECK", "Passenger", "Σ", "F"]]
    let listed := Listed.ofRecords (rows.map Record.ofRow)
    let listed' := Listed.ofRecords (rows'.map Record.ofRow)
    let line := "last:üσS:clas:1st"
    let line' := "LasT:üσs:CLAS:1ST"
    rows.map Record.lowerAsciiRow = rows'.map Record.lowerAsciiRow ∧ lowerAsciiString line = lowerAsciiString line' ∧
      lowerAsciiString "r OΣ" = lowerAsciiString "R oΣ" ∧
      (Query.evaluate ⟨.compact, .ignoreCase⟩ listed line).places =
        (Query.evaluate ⟨.compact, .ignoreCase⟩ listed' line').places ∧
      (Query.evaluate ⟨.compact, .ignoreCase⟩ listed line).places = ([0], ⟨1, 0⟩) ∧
      (searchName .ignoreCase listed "r OΣ").places = (searchName .ignoreCase listed' "R oΣ").places ∧
      (searchName .ignoreCase listed "r OΣ").places = ([0], ⟨1, 0⟩) := by
  intro rows rows' listed listed' line line'
  have hrows : rows.map Record.lowerAsciiRow = rows'.map Record.lowerAsciiRow := by decide
  have hline : lowerAsciiString line = lowerAsciiString line' := by decide
  have hname : lowerAsciiString "r OΣ" = lowerAsciiString "R oΣ" := by decide
  exact ⟨hrows, hline, hname, (ignoring_case_ignores_ascii_case hrows hline).1 .compact, by decide,
    (ignoring_case_ignores_ascii_case hrows hname).2, by decide⟩

end ShipManifest
