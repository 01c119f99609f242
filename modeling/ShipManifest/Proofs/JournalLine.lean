import Mathlib.Data.List.Nodup
import ShipManifest.Journal.Entry
import ShipManifest.Proofs.ByteOrder
import ShipManifest.Proofs.JsonReading

/-!
# Journal lines read back

* Escaping: what stands for a character is read as that character (`Journal.spells_escapeChar`), and no control is left
  (`Journal.clean_escapeChar`). Behind the first member the line is an object of texts like any other
  (`Journal.writeLine_eq`).
* Sorting: the fields are sorted by the bytes of their keys, and fields of one key keep their order
  (`Journal.sortedStably_sortFields`).

Main statement: the line of an entry has its only control, a line feed, at its end, and is read as the object of what
was entered, with the fields in order; where no key is repeated, the order in which they were given does not matter
(`Journal.writeLine_reads_back`).
-/

namespace ShipManifest.Journal

/-! ## Escaping -/

/-- No character of the text is a control. -/
def Clean (cs : List Char) : Prop :=
  ∀ c ∈ cs, isControl c = false

namespace Clean

variable {c : Char} {cs ds : List Char}

@[simp] theorem nil : Clean [] := fun _ h => absurd h List.not_mem_nil

@[simp] theorem cons_iff : Clean (c :: cs) ↔ isControl c = false ∧ Clean cs :=
  List.forall_mem_cons

@[simp] theorem append_iff : Clean (cs ++ ds) ↔ Clean cs ∧ Clean ds :=
  List.forall_mem_append

end Clean

theorem lt_of_isControl {c : Char} (h : isControl c = true) : c.toNat < 0xA0 := by
  simp only [isControl, Bool.or_eq_true, Bool.and_eq_true, decide_eq_true_eq] at h
  omega

theorem le_of_not_isControl {c : Char} (h : isControl c = false) : 0x20 ≤ c.toNat := by
  simp only [isControl, Bool.or_eq_false_iff, decide_eq_false_iff_not] at h
  omega

theorem isControl_digitChar : ∀ d < 16, isControl d.digitChar = false := by
  decide

/-- What stands for a character is read as that character. -/
theorem spells_escapeChar (c : Char) : Json.Spells (escapeChar c) c := by
  unfold escapeChar
  split
  · exact Json.spells_letter (by decide) rfl
  · exact Json.spells_letter (by decide) rfl
  · exact Json.spells_letter (by decide) rfl
  · exact Json.spells_letter (by decide) rfl
  · exact Json.spells_letter (by decide) rfl
  · rename_i hq hb _ _ _
    cases h : isControl c with
    | true =>
      have hlt := lt_of_isControl h
      exact Json.spells_code (by omega)
    | false => exact Json.spells_self hq hb (le_of_not_isControl h)

/-- Nothing that stands for a character is a control. -/
theorem clean_escapeChar (c : Char) : Clean (escapeChar c) := by
  unfold escapeChar
  split
  any_goals (simp only [Clean.cons_iff, Clean.nil]; decide)
  cases h : isControl c with
  | true =>
    have hlt := lt_of_isControl h
    have hhigh := isControl_digitChar (c.toNat / 16) (by omega)
    have hlow := isControl_digitChar (c.toNat % 16) (by omega)
    simp only [↓reduceIte, Clean.cons_iff, hhigh, hlow, Clean.nil]
    decide
  | false => simpa using h

theorem quotes_writeText (s : String) : Json.Quotes (writeText s) s :=
  Json.quotes_spelled spells_escapeChar s

theorem clean_writeText (s : String) : Clean (writeText s) := by
  have htext : Clean (s.toList.flatMap escapeChar) := List.forall_mem_flatMap.mpr fun c _ => clean_escapeChar c
  rw [writeText, Clean.append_iff, Clean.cons_iff]
  exact ⟨⟨by decide, htext⟩, by simp only [Clean.cons_iff, Clean.nil]; decide⟩

theorem clean_memberChars (m : String × String) : Clean (Json.memberChars writeText m) := by
  rw [Json.memberChars, Clean.append_iff, Clean.cons_iff]
  exact ⟨clean_writeText m.1, by decide, clean_writeText m.2⟩

theorem clean_furtherChars : ∀ members : List (String × String), Clean (Json.furtherChars writeText members)
  | [] => by simp only [Json.furtherChars, Clean.cons_iff, Clean.nil]; decide
  | m :: members => by
    rw [Json.furtherChars, Clean.append_iff, Clean.cons_iff]
    exact ⟨⟨by decide, clean_memberChars m⟩, clean_furtherChars members⟩

/-! ## The line as an object -/

/-- The text may stand between quotes as it is. -/
def Unescaped (s : String) : Prop :=
  ∀ c ∈ s.toList, c ≠ '"' ∧ c ≠ '\\' ∧ isControl c = false

instance (s : String) : Decidable (Unescaped s) :=
  List.decidableBAll (fun c => c ≠ '"' ∧ c ≠ '\\' ∧ isControl c = false) s.toList

theorem escapeChar_eq_self {c : Char} (hq : c ≠ '"') (hb : c ≠ '\\') (hc : isControl c = false) :
    escapeChar c = [c] := by
  unfold escapeChar
  split
  · exact absurd rfl hq
  · exact absurd rfl hb
  · exact absurd hc (by decide)
  · exact absurd hc (by decide)
  · exact absurd hc (by decide)
  · rw [hc]
    rfl

theorem writeText_of_unescaped {s : String} (h : Unescaped s) : writeText s = '"' :: s.toList ++ ['"'] := by
  have hself : s.toList.flatMap escapeChar = s.toList.flatMap fun c => [c] := by
    refine List.flatMap_congr fun c hc => ?_
    obtain ⟨hq, hb, hcontrol⟩ := h c hc
    exact escapeChar_eq_self hq hb hcontrol
  rw [writeText, hself, List.flatMap_singleton']

theorem furtherChars_eq_flatMap (fields : List (String × String)) :
    Json.furtherChars writeText fields = fields.flatMap writeField ++ ['}'] := by
  induction fields with
  | nil => rfl
  | cons field fields ih => simp [Json.furtherChars, ih, Json.memberChars, writeField]

/-- The members of a line: what was entered beside the fields, and the fields in order. -/
def members (severity : Severity) (event : String) (fields : List (String × String)) (time : String) :
    List (String × String) :=
  ("event", event) :: ("severity", severity.label) :: ("ts", time) :: sortFields fields

section Line

variable (severity : Severity) (event : String) (fields : List (String × String)) {time : String}
  (htime : Unescaped time)

include htime

/-- The line is an object of texts. -/
theorem writeLine_eq : writeLine severity event fields time =
    '{' :: Json.memberChars writeText ("event", event) ++
      Json.furtherChars writeText (members severity event fields time).tail ++ ['\n'] := by
  simp [writeLine, members, furtherChars_eq_flatMap, Json.memberChars, writeField, writeText_of_unescaped htime]

/-- The line is read as the object of its members. -/
theorem read_writeLine : Json.read (String.ofList (writeLine severity event fields time)) =
    .ok (.object ((members severity event fields time).map Json.textMember)) := by
  rw [writeLine_eq severity event fields htime]
  exact Json.read_object quotes_writeText ("event", event) _

/-- The only control of a line is its last character. -/
theorem writeLine_clean : ∃ body, writeLine severity event fields time = body ++ ['\n'] ∧ Clean body := by
  refine ⟨_, writeLine_eq severity event fields htime, ?_⟩
  rw [Clean.append_iff, Clean.cons_iff]
  exact ⟨⟨by decide, clean_memberChars _⟩, clean_furtherChars _⟩

end Line

/-! ## Sorting -/

/-- The second list is the first one in the order of the bytes of the keys, where fields of one key keep their order. -/
structure SortedStably (fields sorted : List (String × String)) : Prop where
  perm : sorted.Perm fields
  ordered : sorted.Pairwise fun a b => Text.encode a.1 ≤ Text.encode b.1
  stable : ∀ key, sorted.filter (·.1 = key) = fields.filter (·.1 = key)

section Sorting

variable (fields : List (String × String))

theorem key_le_trans (a b c : String × String) (hab : decide (a.1 ≤ b.1) = true) (hbc : decide (b.1 ≤ c.1) = true) :
    decide (a.1 ≤ c.1) = true := by
  rw [decide_eq_true_eq] at *
  exact hab.trans hbc

theorem key_le_total (a b : String × String) : (decide (a.1 ≤ b.1) || decide (b.1 ≤ a.1)) = true := by
  rw [Bool.or_eq_true, decide_eq_true_eq, decide_eq_true_eq]
  exact le_total a.1 b.1

theorem sortFields_ordered : (sortFields fields).Pairwise fun a b => a.1 ≤ b.1 := by
  have h := List.pairwise_mergeSort key_le_trans key_le_total fields
  simpa only [sortFields, decide_eq_true_eq] using h

/-- Fields of one key are in order already, so sorting leaves them as they are. -/
theorem sublist_sortFields (key : String) : (fields.filter (·.1 = key)).Sublist (sortFields fields) := by
  refine List.sublist_mergeSort key_le_trans key_le_total ?_ List.filter_sublist
  refine List.Pairwise.imp_of_mem (fun {a b} ha hb _ => ?_) (List.pairwise_of_forall fun _ _ => trivial)
  have hkey : a.1 = key ∧ b.1 = key := by simpa using And.intro (List.mem_filter.mp ha).2 (List.mem_filter.mp hb).2
  simp [hkey.1, hkey.2]

theorem sortedStably_sortFields : SortedStably fields (sortFields fields) where
  perm := List.mergeSort_perm fields _
  ordered := (sortFields_ordered fields).imp Text.encode_le_encode_iff.mpr
  stable key := by
    have hsub : (fields.filter (·.1 = key)).Sublist ((sortFields fields).filter (·.1 = key)) := by
      have h := (sublist_sortFields fields key).filter (·.1 = key)
      rwa [List.filter_filter, List.filter_congr (fun x _ => Bool.and_self _)] at h
    exact (hsub.eq_of_length (((List.mergeSort_perm fields _).filter _).length_eq).symm).symm

/-- Without repeated keys, the order in which fields were given is lost. -/
theorem sortFields_eq_of_perm {fields fields' : List (String × String)} (h : fields.Perm fields')
    (hkeys : (fields.map (·.1)).Nodup) : sortFields fields' = sortFields fields := by
  have hperm : (sortFields fields').Perm (sortFields fields) :=
    ((List.mergeSort_perm fields' _).trans h.symm).trans (List.mergeSort_perm fields _).symm
  refine hperm.eq_of_pairwise (fun a b ha hb hab hba => ?_) (sortFields_ordered fields') (sortFields_ordered fields)
  have hmem : ∀ {x}, x ∈ sortFields fields → x ∈ fields := fun hx => (List.mergeSort_perm fields _).mem_iff.mp hx
  exact List.inj_on_of_nodup_map hkeys (hmem (hperm.mem_iff.mp ha)) (hmem hb) (hab.antisymm hba)

end Sorting

/-! ## Lines -/

/-- **A line tells what was entered, and nothing else.** Its only control is the line feed at its end; it is read as one
object of the event, the severity, the time and the fields, each text as it was entered, where the fields are sorted by
the bytes of their keys. Without repeated keys, the order in which the fields were given does not matter. -/
theorem writeLine_reads_back (severity : Severity) (event : String) (fields : List (String × String)) (time : String)
    (htime : Unescaped time) :
    (∃ body, writeLine severity event fields time = body ++ ['\n'] ∧ Clean body) ∧
    (∃ sorted, SortedStably fields sorted ∧
      Json.read (String.ofList (writeLine severity event fields time)) =
        .ok (.object (("event", .text event) :: ("severity", .text severity.label) :: ("ts", .text time) ::
          sorted.map fun field => (field.1, .text field.2)))) ∧
    ∀ fields', fields.Perm fields' → (fields.map (·.1)).Nodup →
      writeLine severity event fields' time = writeLine severity event fields time := by
  refine ⟨writeLine_clean severity event fields htime, ⟨sortFields fields, sortedStably_sortFields fields, ?_⟩, ?_⟩
  · exact read_writeLine severity event fields htime
  · intro fields' hperm hkeys
    rw [writeLine, writeLine, sortFields_eq_of_perm hperm hkeys]

/-- A line whose texts try to end it and to forge members, with a repeated key and a control of each kind. -/
theorem writeLine_reads_back_when_forged :
    let forged := "\"\x7d\n\x7b\"event\":\"FORGED\\"
    let fields := [("zebra", forged), ("apple", "\u0000\t\u007f\u0085é")]
    let time := "2026-01-01T00:00:00.000Z"
    Unescaped time ∧ fields.Perm fields.reverse ∧ (fields.map (·.1)).Nodup ∧
      writeLine .warn forged fields.reverse time = writeLine .warn forged fields time ∧
      ∃ sorted, SortedStably (("zebra", "last") :: fields) sorted ∧
        Json.read (String.ofList (writeLine .warn forged (("zebra", "last") :: fields) time)) =
          .ok (.object (("event", .text forged) :: ("severity", .text "WARN") :: ("ts", .text time) ::
            sorted.map fun field => (field.1, .text field.2))) := by
  intro forged fields time
  have htime : Unescaped time := by decide +kernel
  have hperm : fields.Perm fields.reverse := (List.reverse_perm fields).symm
  have hkeys : (fields.map (·.1)).Nodup := by decide
  exact ⟨htime, hperm, hkeys, (writeLine_reads_back .warn forged fields time htime).2.2 _ hperm hkeys,
    (writeLine_reads_back .warn forged (("zebra", "last") :: fields) time htime).2.1⟩

/-! ## Times of entries -/

theorem isDigit_of_mem_pad {width n : Nat} {c : Char} (h : c ∈ Instant.pad width n) : c.isDigit = true := by
  rcases List.mem_append.mp h with h | h
  · rw [List.eq_of_mem_replicate h]
    decide
  · exact Nat.isDigit_of_mem_toDigits (by decide) (by decide) h

theorem mem_yearText {year : Nat} {c : Char} (h : c ∈ Instant.yearText year) : c.isDigit = true ∨ c = '+' := by
  rcases List.mem_append.mp h with h | h
  · split at h
    · exact .inr (List.mem_singleton.mp h)
    · exact absurd h List.not_mem_nil
  · exact .inl (isDigit_of_mem_pad h)

/-- The characters of an instant's text are digits and six marks. -/
theorem mem_milliText {t : Instant} {c : Char} (h : c ∈ t.milliText.toList) :
    c.isDigit = true ∨ c ∈ ['+', '-', 'T', ':', '.', 'Z'] := by
  simp only [Instant.milliText, Instant.seconds, String.toList_ofList, List.mem_append, List.mem_cons,
    List.not_mem_nil, or_false] at h ⊢
  have hpad : ∀ {width n : Nat}, c ∈ Instant.pad width n → c.isDigit = true := isDigit_of_mem_pad
  have hyear : ∀ {year : Nat}, c ∈ Instant.yearText year → c.isDigit = true ∨ c = '+' := mem_yearText
  grind

theorem unescaped_milliText (t : Instant) : Unescaped t.milliText := by
  intro c hc
  rcases mem_milliText hc with h | h
  · simp only [Char.isDigit, Bool.and_eq_true, decide_eq_true_eq, ge_iff_le, UInt32.le_iff_toNat_le] at h
    have hlow : 48 ≤ c.toNat := h.1
    have hhigh : c.toNat ≤ 57 := h.2
    refine ⟨?_, ?_, ?_⟩
    · rintro rfl
      exact absurd hlow (by decide)
    · rintro rfl
      exact absurd hhigh (by decide)
    · simp only [isControl, Bool.or_eq_false_iff, Bool.and_eq_false_iff, decide_eq_false_iff_not]
      omega
  · simp only [List.mem_cons, List.not_mem_nil, or_false] at h
    rcases h with rfl | rfl | rfl | rfl | rfl | rfl <;> decide

/-- Every entry of the journal is read back, whatever its time. -/
theorem Entry.read_line (e : Entry) :
    Json.read e.line = .ok (.object ((members e.severity e.event e.fields e.time.milliText).map Json.textMember)) :=
  read_writeLine e.severity e.event e.fields (unescaped_milliText e.time)

end ShipManifest.Journal
