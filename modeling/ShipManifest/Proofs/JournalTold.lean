import ShipManifest.Proofs.JournalLine
import ShipManifest.Proofs.Members

/-!
# What journal lines tell

A reader of the journal has its lines only. Under a key, a line tells the text of the member that it has there
(`Journal.told`), which is what was entered: the event, the severity, or the field of this key (`Journal.told_event`,
`Journal.told_severity`, `Journal.told_field`). So a reader can tell the lines of a least severity from the others, and
a journal with a higher least severity has just these lines (`Journal.lines_eq_filter`).
-/

namespace ShipManifest

/-- The text of a value that is a text. -/
def Json.text? : Json → Option String
  | .text s => some s
  | _ => none

/-- The severity with this label. -/
def Severity.ofLabel? : String → Option Severity
  | "TRACE" => some trace
  | "INFO" => some info
  | "WARN" => some warn
  | "ERROR" => some error
  | _ => none

theorem Severity.ofLabel?_label (severity : Severity) : ofLabel? severity.label = some severity := by
  cases severity <;> rfl

namespace Journal

/-- What a line tells under a key. -/
def told (key line : String) : Option String :=
  match Json.read line with
  | .ok value => (value.get? key).bind Json.text?
  | .error _ => none

/-- The severity that a line tells. -/
def toldSeverity (line : String) : Option Severity :=
  (told "severity" line).bind Severity.ofLabel?

/-- Whether a line tells at least this severity. -/
def isAtLeast (least : Severity) (line : String) : Bool :=
  (toldSeverity line).any least.passes

/-! ## Fields -/

variable {key : String}

theorem lookup_cons (k value : String) (fields : List (String × String)) :
    ((k, value) :: fields).lookup key = if key = k then some value else fields.lookup key := by
  rw [List.lookup_cons]
  by_cases h : key = k
  · rw [if_pos h, beq_iff_eq.mpr h]
  · rw [if_neg h, beq_eq_false_iff_ne.mpr h]

/-- Only the fields of the key count. -/
theorem lookup_filter (key : String) (fields : List (String × String)) :
    (fields.filter (·.1 = key)).lookup key = fields.lookup key := by
  induction fields with
  | nil => rfl
  | cons field fields ih =>
    obtain ⟨k, value⟩ := field
    rw [List.filter_cons, lookup_cons]
    by_cases h : key = k
    · rw [if_pos h, if_pos (by simp [h]), lookup_cons, if_pos h]
    · rw [if_neg h, if_neg (by simpa using Ne.symm h), ih]

/-- Sorting changes no field. -/
theorem lookup_sortFields (key : String) (fields : List (String × String)) :
    (sortFields fields).lookup key = fields.lookup key := by
  rw [← lookup_filter, (sortedStably_sortFields fields).stable, lookup_filter]

theorem member?_textMember (fields : List (String × String)) :
    Json.member? key (fields.map Json.textMember) = (fields.lookup key).map .text := by
  induction fields with
  | nil => rfl
  | cons field fields ih =>
    rw [List.map_cons, Json.textMember, Json.member?_cons, lookup_cons, ih]
    split <;> rfl

/-! ## Lines -/

variable (e : Entry)

/-- A line tells the members that were entered. -/
theorem told_line (key : String) :
    told key e.line = (members e.severity e.event e.fields e.time.milliText).lookup key := by
  rw [told, e.read_line]
  simp only [Json.get?, member?_textMember, Option.bind_map]
  exact Option.bind_fun_some _

@[simp] theorem told_event : told "event" e.line = some e.event := by
  rw [told_line, members, lookup_cons, if_pos rfl]

@[simp] theorem told_severity : told "severity" e.line = some e.severity.label := by
  rw [told_line, members, lookup_cons, if_neg (by decide), lookup_cons, if_pos rfl]

/-- The keys that every line has. -/
def commonKeys : List String :=
  ["event", "severity", "ts"]

theorem told_field (hkey : key ∉ commonKeys) : told key e.line = e.fields.lookup key := by
  simp only [commonKeys, List.mem_cons, List.not_mem_nil, or_false, not_or] at hkey
  obtain ⟨hevent, hseverity, hts⟩ := hkey
  rw [told_line, members, lookup_cons, if_neg hevent, lookup_cons, if_neg hseverity, lookup_cons, if_neg hts,
    lookup_sortFields]

@[simp] theorem toldSeverity_line : toldSeverity e.line = some e.severity := by
  rw [toldSeverity, told_severity]
  exact e.severity.ofLabel?_label

theorem isAtLeast_line (least : Severity) : isAtLeast least e.line = least.passes e.severity := by
  rw [isAtLeast, toldSeverity_line, Option.any_some]

/-! ## Journals -/

theorem lines_append (least : Severity) (xs ys : List Entry) :
    lines least (xs ++ ys) = lines least xs ++ lines least ys := by
  rw [lines, lines, lines, kept, List.filter_append, List.map_append, kept, kept]

/-- The lowest severity drops nothing. -/
theorem lines_trace (entries : List Entry) : lines .trace entries = entries.map (·.line) := by
  have hkept : kept .trace entries = entries := List.filter_eq_self.mpr fun _ _ => decide_eq_true (Nat.zero_le _)
  rw [lines, hkept]

variable {low high : Severity}

/-- What a journal with a higher least severity holds is also held by one with a lower one. -/
theorem passes_of_le (hle : low.rank ≤ high.rank) {severity : Severity} (h : high.passes severity = true) :
    low.passes severity = true := by
  simp only [Severity.passes, decide_eq_true_eq] at h ⊢
  omega

/-- **A journal with a higher least severity has the lines that tell at least this severity**, in their order. -/
theorem lines_eq_filter (hle : low.rank ≤ high.rank) (entries : List Entry) :
    lines high entries = (lines low entries).filter (isAtLeast high) := by
  rw [lines, lines, List.filter_map, kept, kept, List.filter_filter]
  congr 1
  refine List.filter_congr fun e _ => ?_
  rw [Function.comp_apply, isAtLeast_line]
  cases h : high.passes e.severity with
  | false => rw [Bool.false_and]
  | true => rw [Bool.true_and, passes_of_le hle h]

/-- Every line of a journal tells at least its least severity. -/
theorem isAtLeast_of_mem_lines {least : Severity} {entries : List Entry} {line : String}
    (h : line ∈ lines least entries) : isAtLeast least line = true :=
  List.filter_eq_self.mp (lines_eq_filter (Nat.le_refl _) entries).symm line h

end Journal

end ShipManifest
