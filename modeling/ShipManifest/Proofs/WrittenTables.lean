import ShipManifest.Proofs.TableText

/-!
# Written tables

A table is written as a mark and, for the header and each row, the fields between commas with a carriage return and a
line feed behind them (`Table.written`).

* Fields are full if they are those of a line that counts (`Table.Full`): in their line they hold no line feed and are
  not blank, and they are read from it again (`Table.fields_line`).
* What is read of a text has full fields only (`Table.readable_parse`), and a table with full fields only is read from
  what is written of it (`Table.parse_written`).

Main statement: a table can be read of a text exactly if it is read from what is written of it, and a condition on the
fields says which tables these are (`Table.readable_iff_written`).
-/

namespace ShipManifest

namespace Table

/-! ## Full fields -/

/-- Fields that a line can have that counts: there is one, none holds a comma or a line feed, and white space is not all
that there is. -/
structure Full (fields : List String) : Prop where
  nonempty : fields ≠ []
  no_comma : ∀ field ∈ fields, ',' ∉ field.toList
  no_feed : ∀ field ∈ fields, '\n' ∉ field.toList
  not_blank : ∀ field, fields = [field] → Text.isBlank field.toList = false

/-- The line of fields. -/
def line (fields : List String) : List Char :=
  [','].intercalate (fields.map String.toList)

namespace Full

variable {fs : List String}

theorem splits (h : Full fs) : Splits (line fs) fs :=
  ⟨h.nonempty, h.no_comma, rfl⟩

/-- Full fields are read from their line. -/
theorem fields_line (h : Full fs) : fields (line fs) = fs :=
  h.splits.eq_fields.symm

theorem no_feed_line (h : Full fs) : '\n' ∉ line fs := by
  rw [line, Text.mem_intercalate_iff (by decide)]
  rintro ⟨part, hpart, hmem⟩
  obtain ⟨field, hfield, rfl⟩ := List.mem_map.mp hpart
  exact h.no_feed field hfield hmem

/-- The line counts: a single field is not blank, and between two of them there is a comma. -/
theorem not_blank_line (h : Full fs) : Text.isBlank (line fs) = false := by
  match fs, h with
  | [], h => exact absurd rfl h.nonempty
  | [field], h => simpa [line] using h.not_blank field rfl
  | first :: second :: rest, h =>
    have hcount : (first :: second :: rest).length = (line (first :: second :: rest)).count ',' + 1 :=
      h.splits.length_eq
    have hcomma : ',' ∈ line (first :: second :: rest) := by
      rw [← List.count_pos_iff]
      simp only [List.length_cons] at hcount
      omega
    rw [Text.isBlank, List.all_eq_false]
    exact ⟨',', hcomma, by decide⟩

end Full

/-- A line that counts has full fields. -/
theorem full_fields {line : List Char} (hfeed : '\n' ∉ line) (hblank : Text.isBlank line = false) :
    Full (fields line) := by
  have hsplits := splits_fields line
  refine ⟨hsplits.nonempty, hsplits.no_comma, fun field hfield hmem => hfeed ?_, fun field hone => ?_⟩
  · rw [← hsplits.joined, Text.mem_intercalate_iff (by decide)]
    exact ⟨field.toList, List.mem_map_of_mem hfield, hmem⟩
  · have hline : field.toList = line := by
      have hjoined := hsplits.joined
      rwa [hone, List.map_singleton, List.intercalate_singleton] at hjoined
    rw [hline, hblank]

/-! ## Writing tables -/

/-- The fields of each line of the table. Without headers there is no header line. -/
def lines : Table → List (List String)
  | ⟨[], rows⟩ => rows
  | ⟨headers, rows⟩ => headers :: rows

/-- The table as a text. -/
def written (t : Table) : String :=
  String.ofList ('\ufeff' :: t.lines.flatMap fun fields => line fields ++ ['\r', '\n'])

/-- A table as it can be read: either it has neither headers nor rows, or headers and rows are full. -/
def Readable (t : Table) : Prop :=
  t = ⟨[], []⟩ ∨ ∀ fields ∈ t.headers :: t.rows, Full fields

theorem lines_flatMap {ls : List (List Char)} (h : ∀ line ∈ ls, '\n' ∉ line) :
    Text.lines (ls.flatMap (· ++ ['\r', '\n'])) = ls := by
  induction ls with
  | nil => simp [Text.lines]
  | cons line ls ih =>
    rw [List.flatMap_cons, lines_returnFeed (h line List.mem_cons_self),
      ih fun line hline => h line (List.mem_cons_of_mem _ hline)]

/-- The lines that count in what is written are those of the table. -/
theorem fullLines_written {t : Table} (h : ∀ fields ∈ t.lines, Full fields) :
    fullLines t.written = t.lines.map line := by
  have hchars : dropMark t.written.toList = (t.lines.map line).flatMap (· ++ ['\r', '\n']) := by
    rw [written, String.toList_ofList, List.flatMap_map]
    rfl
  rw [fullLines, hchars, lines_flatMap, List.filter_eq_self]
  · intro cs hcs
    obtain ⟨fields, hfields, rfl⟩ := List.mem_map.mp hcs
    rw [(h fields hfields).not_blank_line]
    rfl
  · intro cs hcs
    obtain ⟨fields, hfields, rfl⟩ := List.mem_map.mp hcs
    exact (h fields hfields).no_feed_line

/-- A readable table is read from what is written of it. -/
theorem parse_written {t : Table} (h : t.Readable) : parse t.written = t := by
  obtain ⟨headers, rows⟩ := t
  rcases h with h | h
  · rw [h]
    rfl
  · have hheaders : Full headers := h headers List.mem_cons_self
    have hlines : lines ⟨headers, rows⟩ = headers :: rows := by
      cases headers with
      | nil => exact absurd rfl hheaders.nonempty
      | cons field fields => rfl
    have hfull := fullLines_written (hlines.symm ▸ h)
    rw [hlines] at hfull
    have hrows : (rows.map line).map fields = rows := by
      have hsame : ∀ fs ∈ rows, (fields ∘ line) fs = id fs :=
        fun fs hfs => (h fs (List.mem_cons_of_mem _ hfs)).fields_line
      rw [List.map_map, List.map_congr_left hsame, List.map_id]
    rw [parse_of_fullLines hfull, hheaders.fields_line, hrows]

/-- What is read of a text is readable. -/
theorem readable_parse (text : String) : (parse text).Readable := by
  have hfull : ∀ line ∈ fullLines text, Full (fields line) := by
    intro line hline
    obtain ⟨hmem, hblank⟩ := List.mem_filter.mp hline
    exact full_fields (Text.not_mem_of_mem_linesBy hmem) (by simpa using hblank)
  cases h : fullLines text with
  | nil =>
    left
    rw [parse, ← fullLines, h]
  | cons header rows =>
    right
    rw [parse_of_fullLines h]
    rw [h] at hfull
    intro fs (hfs : fs ∈ (header :: rows).map fields)
    obtain ⟨line, hline, rfl⟩ := List.mem_map.mp hfs
    exact hfull line hline

/-- **A table can be read exactly if it is readable, and then writing it loses nothing.** -/
theorem readable_iff_written :
    (∀ t : Table, t.Readable ↔ ∃ text, parse text = t) ∧ (∀ t : Table, t.Readable ↔ parse t.written = t) ∧
      ∀ text, parse (parse text).written = parse text := by
  refine ⟨fun t => ⟨fun h => ⟨t.written, parse_written h⟩, ?_⟩, fun t => ⟨parse_written, fun h => ?_⟩, fun text => ?_⟩
  · rintro ⟨text, rfl⟩
    exact readable_parse text
  · rw [← h]
    exact readable_parse t.written
  · exact parse_written (readable_parse text)

/-- Fields that look like marks and endings stay what they are. -/
example : parse (written ⟨["\ufeffN", "\r"], [["\r", ""], ["a\r"]]⟩) = ⟨["\ufeffN", "\r"], [["\r", ""], ["a\r"]]⟩ := by
  decide

end Table

end ShipManifest
