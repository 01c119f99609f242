import ShipManifest.Text.Bytes
import ShipManifest.Text.Lines

/-!
# Lines and their bytes

* Parts: no part between separators holds one (`not_mem_of_mem_splitOn`), and there is one more of them than separators
  (`length_splitOn`). Joining parts adds nothing but separators (`mem_intercalate_iff`).
* Splitting: what comes before a line feed and what comes behind it are split apart (`linesBy_append`), the text up to
  the first line feed is a line (`linesBy_cons`), a rest without line feed is one line (`linesBy_rest`), and no line
  holds a line feed (`not_mem_of_mem_linesBy`).
* Joining: lines that are each ended with a line feed are split again into the same lines (`linesBy_flatMap`).
* Encoding: a byte of ASCII in a UTF-8 form is a character of the text (`mem_of_mem_encode`), so a text without line
  feeds has none among its bytes.
-/

namespace ShipManifest.Text

/-! ## Parts between separators -/

section Parts

variable {α : Type} [BEq α] [LawfulBEq α] {sep : α}

theorem not_mem_of_mem_splitOn {xs part : List α} (h : part ∈ xs.splitOn sep) : sep ∉ part := by
  induction xs generalizing part with
  | nil => simp_all
  | cons x xs ih =>
    rw [List.splitOn_cons_eq_if_modifyHead] at h
    obtain ⟨first, rest, hparts⟩ := List.exists_cons_of_ne_nil (List.splitOn_ne_nil sep xs)
    rw [hparts, List.modifyHead_cons] at h
    have hfirst : sep ∉ first := ih (hparts ▸ List.mem_cons_self)
    have hrest : ∀ part ∈ rest, sep ∉ part := fun part hp => ih (hparts ▸ List.mem_cons_of_mem _ hp)
    by_cases hx : x = sep
    · simp only [hx, BEq.rfl, ↓reduceIte, List.mem_cons] at h
      rcases h with rfl | rfl | h
      · exact List.not_mem_nil
      · exact hfirst
      · exact hrest part h
    · simp only [beq_eq_false_iff_ne.mpr hx, Bool.false_eq_true, ↓reduceIte, List.mem_cons] at h
      rcases h with rfl | h
      · simp [Ne.symm hx, hfirst]
      · exact hrest part h

omit [LawfulBEq α] in
theorem length_splitOn (xs : List α) : (xs.splitOn sep).length = xs.count sep + 1 := by
  induction xs with
  | nil => simp
  | cons x xs ih =>
    rw [List.splitOn_cons_eq_if_modifyHead, List.count_cons]
    split <;> simp_all

omit [BEq α] [LawfulBEq α] in
/-- Joining adds separators only. -/
theorem mem_intercalate_iff {x : α} (h : x ≠ sep) (parts : List (List α)) :
    x ∈ [sep].intercalate parts ↔ ∃ part ∈ parts, x ∈ part := by
  induction parts with
  | nil => simp
  | cons part parts ih =>
    cases parts with
    | nil => simp
    | cons next rest =>
      rw [List.intercalate_cons_cons, List.mem_append, List.mem_append, ih, List.mem_singleton]
      simp [h]

end Parts

/-! ## Splitting and joining -/

section Lines

variable {α : Type} [BEq α] {lf cr : α}

@[simp] theorem linesBy_nil : linesBy lf cr ([] : List α) = [] := by
  simp [linesBy]

variable [LawfulBEq α]

/-- Lines that all have their line feed. -/
theorem linesBy_closed (xs : List α) : linesBy lf cr (xs ++ [lf]) = (xs.splitOn lf).map (dropReturn cr) := by
  simp [linesBy, List.splitOn_append_cons_self]

/-- A line feed separates the lines before it from the lines behind it. -/
theorem linesBy_append (xs ys : List α) :
    linesBy lf cr (xs ++ lf :: ys) = linesBy lf cr (xs ++ [lf]) ++ linesBy lf cr ys := by
  obtain ⟨piece, pieces, h⟩ := List.exists_cons_of_ne_nil (List.splitOn_ne_nil lf ys)
  rw [linesBy_closed]
  simp only [linesBy, List.splitOn_append_cons_self, h]
  rw [List.dropLast_append_of_ne_nil (List.cons_ne_nil _ _), List.map_append, List.append_assoc]
  simp [List.getLast?_append, List.getLast?_cons]

/-- The text before the first line feed is the first line, without one carriage return at its end. -/
theorem linesBy_cons {line : List α} (h : lf ∉ line) (rest : List α) :
    linesBy lf cr (line ++ lf :: rest) = dropReturn cr line :: linesBy lf cr rest := by
  rw [linesBy_append, linesBy_closed, List.splitOn_eq_singleton h]
  rfl

/-- A rest without line feed is one line, and keeps its carriage return. -/
theorem linesBy_rest {line : List α} (h : lf ∉ line) (hne : line ≠ []) : linesBy lf cr line = [line] := by
  simp [linesBy, List.splitOn_eq_singleton h, hne]

omit [LawfulBEq α] in
theorem mem_of_mem_dropReturn {x : α} {line : List α} (h : x ∈ dropReturn cr line) : x ∈ line := by
  rw [dropReturn] at h
  split at h
  · exact List.dropLast_subset line h
  · exact h

/-- No line holds a line feed. -/
theorem not_mem_of_mem_linesBy {xs line : List α} (h : line ∈ linesBy lf cr xs) : lf ∉ line := by
  rcases List.mem_append.mp h with h | h
  · obtain ⟨piece, hpiece, rfl⟩ := List.mem_map.mp h
    exact fun hmem => not_mem_of_mem_splitOn (List.dropLast_subset _ hpiece) (mem_of_mem_dropReturn hmem)
  · have hlast : line ∈ (xs.splitOn lf).getLast? := by simpa using (List.mem_filter.mp h).1
    exact not_mem_of_mem_splitOn (List.mem_of_getLast? hlast)

/-- Lines ended with line feeds are split into the same lines. -/
theorem linesBy_flatMap {lines : List (List α)} (h : ∀ line ∈ lines, lf ∉ line ∧ line.getLast? ≠ some cr) :
    linesBy lf cr (lines.flatMap (· ++ [lf])) = lines := by
  induction lines with
  | nil => simp
  | cons line lines ih =>
    obtain ⟨hlf, hcr⟩ := h line List.mem_cons_self
    rw [List.flatMap_cons, List.append_assoc, List.singleton_append, linesBy_cons hlf,
      ih fun l hl => h l (List.mem_cons_of_mem _ hl), dropReturn, if_neg (by simpa using hcr)]

end Lines

/-! ## Bytes -/

/-- The input ends at a line's end, so whatever follows begins a new line. -/
def AtLineStart (bytes : Bytes) : Prop :=
  bytes = [] ∨ bytes.getLast? = some 10

theorem byteLines_append {a : Bytes} (ha : AtLineStart a) (b : Bytes) :
    byteLines (a ++ b) = byteLines a ++ byteLines b := by
  rcases ha with rfl | ha
  · simp [byteLines]
  · obtain ⟨xs, rfl⟩ := List.getLast?_eq_some_iff.mp ha
    rw [List.append_assoc]
    exact linesBy_append xs b

/-- The UTF-8 form is that of one character after the other. -/
theorem encode_eq_flatMap (s : String) : encode s = s.toList.flatMap String.utf8EncodeChar := by
  rw [encode, String.toUTF8_eq_toByteArray, ← String.utf8Encode_toList]
  simp [List.utf8Encode]

theorem encode_append (s t : String) : encode (s ++ t) = encode s ++ encode t := by
  simp [encode_eq_flatMap]

theorem encode_injective : Function.Injective encode := fun s t h =>
  Option.some.inj (by rw [← decode?_encode s, h, decode?_encode])

theorem utf8EncodeChar_ascii {c : Char} (hc : c.toNat < 0x80) :
    String.utf8EncodeChar c = [UInt8.ofNat c.toNat] := by
  have h : c.val.toNat ≤ 0x7f := by
    have : c.val.toNat = c.toNat := rfl
    omega
  simp only [String.utf8EncodeChar, h, ↓reduceIte]
  rfl

/-- The bytes of a character beyond ASCII are all beyond ASCII. -/
theorem le_of_mem_utf8EncodeChar {c : Char} (hc : 0x80 ≤ c.toNat) {b : UInt8} (h : b ∈ String.utf8EncodeChar c) :
    0x80 ≤ b.toNat := by
  have hv : ¬ c.val.toNat ≤ 0x7f := by
    have : c.val.toNat = c.toNat := rfl
    omega
  simp only [String.utf8EncodeChar, hv, ↓reduceIte] at h
  split at h
  · simp only [List.mem_cons, List.not_mem_nil, or_false] at h
    rcases h with rfl | rfl <;> simp only [UInt8.toNat_ofNat'] <;> omega
  · split at h
    · simp only [List.mem_cons, List.not_mem_nil, or_false] at h
      rcases h with rfl | rfl | rfl <;> simp only [UInt8.toNat_ofNat'] <;> omega
    · simp only [List.mem_cons, List.not_mem_nil, or_false] at h
      rcases h with rfl | rfl | rfl | rfl <;> simp only [UInt8.toNat_ofNat'] <;> omega

/-- A byte of ASCII in a UTF-8 form is a character of the text. -/
theorem mem_of_mem_encode {s : String} {b : UInt8} (hb : b.toNat < 0x80) (h : b ∈ encode s) :
    ∃ c ∈ s.toList, c.toNat = b.toNat := by
  rw [encode_eq_flatMap, List.mem_flatMap] at h
  obtain ⟨c, hc, h⟩ := h
  have hlt : c.toNat < 0x80 := by
    rcases Nat.lt_or_ge c.toNat 0x80 with hlt | hge
    · exact hlt
    · have := le_of_mem_utf8EncodeChar hge h
      omega
  rw [utf8EncodeChar_ascii hlt, List.mem_singleton] at h
  refine ⟨c, hc, ?_⟩
  rw [h, UInt8.toNat_ofNat']
  omega

end ShipManifest.Text
