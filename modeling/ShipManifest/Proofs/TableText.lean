import Mathlib.Data.List.Forall2
import ShipManifest.Manifest.Table
import ShipManifest.Proofs.Lines

/-!
# Texts of tables

* Fields: the fields of a line are its parts between commas (`Table.Splits`), and there is one more of them than commas
  (`Table.Splits.length_eq`).
* Lines: a text shows the table of its lines that are not blank (`Table.shows_parse`).
* Layouts: the same lines can be set out in many texts. A layout (`Table.Layout`) has a mark in front or none, an ending
  of its own for each line, and perhaps a last line without one.

Main statement: the text of every layout is read as the table of its lines, so texts whose lines differ only in blank
ones are read as the same table (`Table.parse_layout`).
-/

namespace ShipManifest

namespace Table

/-! ## Fields -/

/-- The fields are the parts of the line between its commas, as they stand there. -/
structure Splits (line : List Char) (fields : List String) : Prop where
  nonempty : fields ≠ []
  no_comma : ∀ field ∈ fields, ',' ∉ field.toList
  joined : [','].intercalate (fields.map String.toList) = line

theorem map_toList_fields (line : List Char) : (fields line).map String.toList = line.splitOn ',' := by
  simp [fields, Function.comp_def]

theorem splits_fields (line : List Char) : Splits line (fields line) where
  nonempty := by simp [fields]
  no_comma := by
    intro field hfield
    obtain ⟨part, hpart, rfl⟩ := List.mem_map.mp hfield
    rw [String.toList_ofList]
    exact Text.not_mem_of_mem_splitOn hpart
  joined := by rw [map_toList_fields, List.intercalate_splitOn]

namespace Splits

variable {line : List Char} {fs : List String}

/-- A line has no other fields. -/
theorem eq_fields (h : Splits line fs) : fs = fields line := by
  have hparts : line.splitOn ',' = fs.map String.toList := by
    rw [← h.joined]
    exact List.splitOn_intercalate ',' (List.forall_mem_map.mpr h.no_comma) (by simpa using h.nonempty)
  rw [fields, hparts, List.map_map]
  simp [Function.comp_def]

/-- There is one more field than commas. -/
theorem length_eq (h : Splits line fs) : fs.length = line.count ',' + 1 := by
  rw [h.eq_fields, fields, List.length_map, Text.length_splitOn]

end Splits

/-! ## Lines -/

/-- The table shows the lines: the fields of the first one are its headers, those of the others its rows. -/
def Shows (table : Table) : List (List Char) → Prop
  | [] => table = ⟨[], []⟩
  | header :: rows => Splits header table.headers ∧ List.Forall₂ Splits rows table.rows

/-- The lines that count: those that are not blank, without a mark in front of the first line. -/
def fullLines (text : String) : List (List Char) :=
  (Text.lines (dropMark text.toList)).filter fun line => !Text.isBlank line

theorem parse_of_fullLines {text : String} {header : List Char} {rows : List (List Char)}
    (h : fullLines text = header :: rows) : parse text = ⟨fields header, rows.map fields⟩ := by
  rw [parse, ← fullLines, h]

/-- A text shows the table of its lines. -/
theorem shows_parse (text : String) : (parse text).Shows (fullLines text) := by
  cases h : fullLines text with
  | nil => rw [Shows, parse, ← fullLines, h]
  | cons header rows =>
    rw [parse_of_fullLines h]
    exact ⟨splits_fields header, List.forall₂_map_right_iff.mpr (List.forall₂_same.mpr fun row _ => splits_fields row)⟩

theorem parse_congr {text text' : String} (h : fullLines text = fullLines text') : parse text = parse text' := by
  rw [parse, parse, ← fullLines, ← fullLines, h]

/-! ## Layouts -/

/-- A line as it can stand in a text: it holds no line feed, and a carriage return at its end belongs to its ending. -/
structure Line where
  chars : List Char
  no_feed : '\n' ∉ chars
  no_return : chars.getLast? ≠ some '\r'

/-- What may end a line: a line feed, with or without a carriage return before it. -/
inductive Ending where
  | feed
  | returnFeed
  deriving DecidableEq

/-- The characters of an ending. -/
def Ending.chars : Ending → List Char
  | feed => ['\n']
  | returnFeed => ['\r', '\n']

/-- How lines are set out in a text. Without a mark in front, the first line must not look as if it had one. -/
structure Layout where
  marked : Bool
  ended : List (Line × Ending)
  last : Option Line
  first_plain : marked = false → ∀ line ∈ (ended.map (·.1) ++ last.toList).head?, line.chars.head? ≠ some '\ufeff'

namespace Layout

/-- The lines of the layout. -/
def lines (l : Layout) : List Line :=
  l.ended.map (·.1) ++ l.last.toList

/-- The lines that count, which are those that are not blank. -/
def full (l : Layout) : List (List Char) :=
  (l.lines.map Line.chars).filter fun cs => !Text.isBlank cs

/-- The characters behind the mark. -/
def body (l : Layout) : List Char :=
  l.ended.flatMap (fun e => e.1.chars ++ e.2.chars) ++ l.last.elim [] Line.chars

/-- The text of the layout. -/
def text (l : Layout) : String :=
  String.ofList (if l.marked then '\ufeff' :: l.body else l.body)

end Layout

/-- Before a carriage return and a line feed, any line is found as it is. -/
theorem lines_returnFeed {line : List Char} (h : '\n' ∉ line) (rest : List Char) :
    Text.lines (line ++ ['\r', '\n'] ++ rest) = line :: Text.lines rest := by
  have hfeed : '\n' ∉ line ++ ['\r'] := by simpa using h
  have hcons : Text.linesBy '\n' '\r' (line ++ ['\r'] ++ '\n' :: rest) = _ := Text.linesBy_cons hfeed rest
  simpa [Text.lines, Text.dropReturn] using hcons

/-- Whatever ends it, a line is found as it is. -/
theorem lines_ended (line : Line) (ending : Ending) (rest : List Char) :
    Text.lines (line.chars ++ ending.chars ++ rest) = line.chars :: Text.lines rest := by
  cases ending with
  | feed =>
    have hdrop : Text.dropReturn '\r' line.chars = line.chars := by
      rw [Text.dropReturn, if_neg (by simpa using line.no_return)]
    have h : Text.linesBy '\n' '\r' (line.chars ++ '\n' :: rest) = _ := Text.linesBy_cons line.no_feed rest
    simpa [Text.lines, Ending.chars, hdrop] using h
  | returnFeed => exact lines_returnFeed line.no_feed rest

theorem lines_last (line : Line) : (Text.lines line.chars).filter (fun cs => !Text.isBlank cs) =
    [line.chars].filter fun cs => !Text.isBlank cs := by
  by_cases hempty : line.chars = []
  · rw [hempty]
    rfl
  · rw [Text.lines, Text.linesBy_rest line.no_feed hempty]

/-- Lines one behind the other are found as they are, but for a last line that is empty. -/
theorem lines_set_out (ended : List (Line × Ending)) (last : Option Line) :
    (Text.lines (ended.flatMap (fun e => e.1.chars ++ e.2.chars) ++ last.elim [] Line.chars)).filter
        (fun cs => !Text.isBlank cs) =
      ((ended.map (·.1) ++ last.toList).map Line.chars).filter fun cs => !Text.isBlank cs := by
  induction ended with
  | nil =>
    cases last with
    | none => simp [Text.lines]
    | some line => simpa using lines_last line
  | cons e ended ih =>
    rw [List.flatMap_cons, List.append_assoc, lines_ended, List.filter_cons, ih]
    simp [List.filter_cons]

theorem dropMark_of_head? {cs : List Char} (h : cs.head? ≠ some '\ufeff') : dropMark cs = cs := by
  unfold dropMark
  split
  · exact absurd rfl h
  · rfl

namespace Layout

variable (l : Layout)

/-- Without a mark, the text does not begin with the character of one. -/
theorem head?_body (h : l.marked = false) : l.body.head? ≠ some '\ufeff' := by
  obtain ⟨marked, ended, last, hfirst⟩ := l
  have hfirst := hfirst h
  cases ended with
  | nil =>
    cases last with
    | none => simp [body]
    | some line => simpa [body] using hfirst line
  | cons e ended =>
    obtain ⟨line, ending⟩ := e
    have hline : line.chars.head? ≠ some '\ufeff' := hfirst line (by simp)
    cases hc : line.chars with
    | nil => cases ending <;> simp [body, hc, Ending.chars]
    | cons c cs => simpa [body, hc] using hline

theorem dropMark_text : dropMark l.text.toList = l.body := by
  rw [text, String.toList_ofList]
  cases h : l.marked with
  | true => rfl
  | false => exact dropMark_of_head? (l.head?_body h)

/-- The lines that count in the text are those of the layout. -/
theorem fullLines_text : fullLines l.text = l.full := by
  rw [fullLines, dropMark_text]
  exact lines_set_out l.ended l.last

end Layout

/-- **Every layout of lines is read as their table.** Whatever the endings and the mark, the table shows the lines that
count; so every other layout of lines that differ in blank ones only is read as the same table. -/
theorem parse_layout (l : Layout) :
    (parse l.text).Shows l.full ∧ ∀ l' : Layout, l'.full = l.full → parse l'.text = parse l.text := by
  constructor
  · rw [← l.fullLines_text]
    exact shows_parse l.text
  · intro l' h
    refine parse_congr ?_
    rw [l.fullLines_text, l'.fullLines_text, h]

/-- A layout with a mark, mixed endings and blank lines, and another one of the same lines without them. -/
theorem parse_layout_when_mixed :
    let blank : Line := ⟨[' ', '\t'], by decide, by decide⟩
    let header : Line := ⟨['N', ',', 'A'], by decide, by decide⟩
    let row : Line := ⟨['\r', ' ', 'x', ',', ',', 'y', ' '], by decide, by decide⟩
    let mixed : Layout :=
      ⟨true, [(blank, .feed), (header, .returnFeed), (blank, .returnFeed), (row, .feed)], some blank, by decide⟩
    let bare : Layout := ⟨false, [(header, .feed)], some row, by decide⟩
    bare.full = mixed.full ∧ parse bare.text = parse mixed.text ∧ mixed.text ≠ bare.text ∧
      (parse mixed.text).Shows [['N', ',', 'A'], ['\r', ' ', 'x', ',', ',', 'y', ' ']] := by
  intro blank header row mixed bare
  have hfull : bare.full = mixed.full := by decide +kernel
  exact ⟨hfull, (parse_layout mixed).2 bare hfull, by decide +kernel, (parse_layout mixed).1⟩

end Table

end ShipManifest
