import ShipManifest.Proofs.Everyone
import ShipManifest.Proofs.SmallLetters

/-!
# Searching names as a whole and in parts

* A text without a slash occurs in a name exactly if it occurs in one of the parts between which a slash stands
  (`Text.infix_cut_iff`).
* No other character than the slash has a small form with a slash (`Text.slash_mem_lower`), and a slash belongs to no
  word. So a name in compared form is the first slash between its parts in that form (`MatchMode.normalize_slash`).
* What occurs in the last name or in the first name of a record occurs in its full name; without a slash, it occurs
  nowhere else (`Record.occurs_fullName`).

Main statement: a search by name finds the records that pass the tests for the last name or for the first name
(`searchName_finds_parts`).
-/

namespace ShipManifest

namespace Text

/-! ## A character between two parts -/

theorem eq_nil_of_prefix_cut {α : Type} {c : α} {v xs : List α} (h : c ∉ v) (hstart : v <+: c :: xs) : v = [] := by
  cases v with
  | nil => rfl
  | cons d v =>
    have hd : d = c := (List.cons_prefix_cons.mp hstart).1
    exact absurd (hd ▸ List.mem_cons_self) h

/-- Where a character stands that the text lacks, the text does not reach from one side to the other. -/
theorem infix_cut_iff {α : Type} {c : α} {v : List α} (h : c ∉ v) (xs ys : List α) :
    v <:+: xs ++ c :: ys ↔ v <:+: xs ∨ v <:+: ys := by
  constructor
  · intro hinfix
    rcases List.infix_append_iff.mp hinfix with hxs | hys | ⟨l, l', rfl, hl, hl'⟩
    · exact Or.inl hxs
    · rcases List.infix_cons_iff.mp hys with hstart | hys
      · rw [eq_nil_of_prefix_cut h hstart]
        exact Or.inl List.nil_infix
      · exact Or.inr hys
    · have hnil : l' = [] := eq_nil_of_prefix_cut (fun hc => h (List.mem_append_right l hc)) hl'
      rw [hnil, List.append_nil]
      exact Or.inl hl.isInfix
  · rintro (hxs | hys)
    · exact List.infix_append_of_infix_left hxs
    · exact List.infix_append_of_infix_right (List.infix_cons hys)

/-! ## Slashes in small letters -/

/-- A number is the code of its character, unless it is no code at all. -/
theorem toNat_ofNat_or (code : Nat) : (Char.ofNat code).toNat = code ∨ (Char.ofNat code).toNat = 0 := by
  by_cases hvalid : code.isValidChar
  · have hchar : Char.ofNat code = Char.ofNatAux code hvalid := dif_pos hvalid
    rw [hchar]
    exact Or.inl rfl
  · have hchar : Char.ofNat code = '\x00' := dif_neg hvalid
    rw [hchar]
    exact Or.inr rfl

/-- Runs whose images lie above a character reach it from nowhere else. -/
theorem eq_of_mapRuns_eq {runs : List CodeRun} {c d : Char} (hd : d.toNat ≠ 0)
    (hruns : ∀ run ∈ runs, d.toNat < run.2.2.2) (h : mapRuns runs c = d) : c = d := by
  unfold mapRuns at h
  split at h
  · rename_i code hcode
    obtain ⟨run, hrun, himage⟩ := List.exists_of_findSome?_eq_some hcode
    have habove : d.toNat < code := by
      have himage' : run.2.2.2 + (c.toNat - run.1) = code := by
        simp only [CodeRun.image?] at himage
        split at himage
        · exact Option.some.inj himage
        · cases himage
      have hlow := hruns run hrun
      omega
    have hvalue := toNat_ofNat_or code
    rw [h] at hvalue
    omega
  · exact h

theorem slash_mem_lowerChar {c : Char} (h : '/' ∈ lowerChar c) : c = '/' := by
  unfold lowerChar at h
  split at h
  · rename_i hascii
    have hall : ∀ n < 0x80, (Char.ofNat n).toLower = '/' → Char.ofNat n = '/' := by decide
    have hc := hall c.toNat (by simpa [isAscii] using hascii)
    rw [Char.ofNat_toNat] at hc
    exact hc (List.mem_singleton.mp h).symm
  · split at h
    · exact absurd h (by decide)
    · have hruns : ∀ run ∈ lowerRuns, '/'.toNat < run.2.2.2 := by decide +kernel
      exact eq_of_mapRuns_eq (by decide) hruns (List.mem_singleton.mp h).symm

theorem slash_mem_lowerAfter {before : Bool} {cs : List Char} (h : '/' ∈ lowerAfter before cs) : '/' ∈ cs := by
  induction cs generalizing before with
  | nil => exact h
  | cons c cs ih =>
    rw [lowerAfter] at h
    rcases List.mem_append.mp h with hc | hcs
    · split at hc
      · split at hc <;> exact absurd hc (by decide)
      · rw [slash_mem_lowerChar hc]
        exact List.mem_cons_self
    · exact List.mem_cons_of_mem c (ih hcs)

theorem slash_mem_lower {cs : List Char} (h : '/' ∈ lower cs) : '/' ∈ cs :=
  slash_mem_lowerAfter h

end Text

/-! ## Compared forms -/

namespace MatchMode

theorem occurs_iff (mode : MatchMode) (value text : String) :
    mode.Occurs value text ↔ mode.normalize value.toList <:+: mode.normalize text.toList := by
  cases mode <;> rfl

theorem slash_mem_normalize {mode : MatchMode} {cs : List Char} (h : '/' ∈ mode.normalize cs) : '/' ∈ cs := by
  cases mode with
  | exact => exact h
  | ignoreCase => exact Text.slash_mem_lower h

theorem normalize_slash (mode : MatchMode) (xs ys : List Char) :
    mode.normalize (xs ++ '/' :: ys) = mode.normalize xs ++ '/' :: mode.normalize ys := by
  cases mode with
  | exact => rfl
  | ignoreCase =>
    have hcut := Text.lower_cut (c := '/') (by decide) (by decide) xs ys
    rw [normalize, hcut, List.append_assoc]
    rfl

end MatchMode

/-! ## Names -/

namespace Record

/-- The text occurs in the last name, or in the first name if there is one. -/
def OccursInPart (mode : MatchMode) (text : String) (r : Record) : Prop :=
  mode.Occurs text r.lastName ∨ ∃ first, r.firstName = some first ∧ mode.Occurs text first

theorem lastName_of_not_mem {fields : List String} (h : '/' ∉ (fieldAt fields 0).toList) :
    (ofRow fields).lastName = (ofRow fields).fullName := by
  have hlast : (ofRow fields).lastName = String.ofList (splitName (fieldAt fields 0).toList).1 := rfl
  rw [hlast, splitName_of_not_mem h, String.ofList_toList]
  rfl

/-- What occurs in a part of a name occurs in the name, and a text without slash occurs nowhere else. -/
theorem occurs_fullName (mode : MatchMode) (text : String) (fields : List String) :
    (OccursInPart mode text (ofRow fields) → mode.Occurs text (ofRow fields).fullName) ∧
    ('/' ∉ text.toList → mode.Occurs text (ofRow fields).fullName → OccursInPart mode text (ofRow fields)) := by
  rcases names_ofRow fields with ⟨hslash, hfirst⟩ | ⟨first, -, hfirst, -, hjoin⟩
  · rw [OccursInPart, hfirst, lastName_of_not_mem hslash]
    simp
  · have hfull : (ofRow fields).fullName.toList = (ofRow fields).lastName.toList ++ '/' :: first.toList := by
      have hjoin : (ofRow fields).lastName ++ "/" ++ first = (ofRow fields).fullName := hjoin
      rw [← hjoin]
      simp
    simp only [OccursInPart, hfirst, Option.some.injEq, exists_eq_left', MatchMode.occurs_iff, hfull,
      MatchMode.normalize_slash]
    constructor
    · rintro (hlast | hfirst)
      · exact List.infix_append_of_infix_left hlast
      · exact List.infix_append_of_infix_right (List.infix_cons hfirst)
    · intro htext
      exact (Text.infix_cut_iff (fun h => htext (MatchMode.slash_mem_normalize h)) _ _).mp

end Record

/-- A record passes one of the two tests exactly if the text occurs in a part of its name. -/
theorem Predicate.test_names (mode : MatchMode) (text : String) (r : Record) :
    ((ofDirective mode ⟨.text .lastName, some text⟩).test r = true ∨
      (ofDirective mode ⟨.text .firstName, some text⟩).test r = true) ↔ r.OccursInPart mode text := by
  rw [test_ofDirective, test_ofDirective, Directive.Holds, Directive.Holds, Record.OccursInPart]
  simp [TextKey.field?]

/-- **A search by name searches the parts of names.** For a text without slash it finds exactly the records that pass
the test for the last name or the one for the first name, in order; for any text it finds all of them. -/
theorem searchName_finds_parts (mode : MatchMode) (rows : List (List String)) (text : String) :
    let listed := Listed.ofRecords (rows.map Record.ofRow)
    let passes (key : TextKey) (entry : Listed) := (Predicate.ofDirective mode ⟨.text key, some text⟩).test entry.record
    ('/' ∉ text.toList → (searchName mode listed text).found =
      listed.filter fun entry => passes .lastName entry || passes .firstName entry) ∧
    ∀ entry ∈ listed, passes .lastName entry = true ∨ passes .firstName entry = true →
      entry ∈ (searchName mode listed text).found := by
  intro listed passes
  have hrow : ∀ entry ∈ listed, ∃ fields, entry.record = Record.ofRow fields := by
    intro entry hentry
    have hmem := List.mem_of_getElem? (Listed.mem_ofRecords.mp hentry)
    obtain ⟨fields, -, hfields⟩ := List.mem_map.mp hmem
    exact ⟨fields, hfields.symm⟩
  constructor
  · intro htext
    refine List.filter_congr fun entry hentry => ?_
    obtain ⟨fields, hfields⟩ := hrow entry hentry
    obtain ⟨hfull, hpart⟩ := Record.occurs_fullName mode text fields
    rw [Bool.eq_iff_iff, MatchMode.contains_normalize, Bool.or_eq_true, Predicate.test_names, hfields]
    exact ⟨hpart htext, hfull⟩
  · intro entry hentry hpasses
    obtain ⟨fields, hfields⟩ := hrow entry hentry
    rw [Predicate.test_names, hfields] at hpasses
    rw [mem_searchName, hfields]
    exact ⟨hentry, (Record.occurs_fullName mode text fields).1 hpasses⟩

/-- Sigmas on both sides of the first slash, and a text with a slash in a first name. -/
theorem searchName_finds_parts_around_slash :
    let rows := [["ΑΣ/ΣΑ"], ["ΒΑΣ"], ["Α/ΑΣ/Γ"], ["ΑΣΑ"]]
    let listed := Listed.ofRecords (rows.map Record.ofRow)
    let passes (mode : MatchMode) (text : String) (key : TextKey) (entry : Listed) :=
      (Predicate.ofDirective mode ⟨.text key, some text⟩).test entry.record
    let third : Listed := ⟨2, Record.ofRow ["Α/ΑΣ/Γ"]⟩
    '/' ∉ "ας".toList ∧
      (searchName .ignoreCase listed "ας").found = listed.filter (fun entry =>
        passes .ignoreCase "ας" .lastName entry || passes .ignoreCase "ας" .firstName entry) ∧
      (searchName .ignoreCase listed "ας").found.map (·.position) = [0, 1, 2] ∧
      passes .exact "ΑΣ/Γ" .firstName third = true ∧ third ∈ (searchName .exact listed "ΑΣ/Γ").found := by
  intro rows listed passes third
  have htext : '/' ∉ "ας".toList := by decide +kernel
  have hpasses : passes .exact "ΑΣ/Γ" .firstName third = true := by decide +kernel
  exact ⟨htext, (searchName_finds_parts .ignoreCase rows "ας").1 htext, by decide +kernel, hpasses,
    (searchName_finds_parts .exact rows "ΑΣ/Γ").2 third (by decide +kernel) (Or.inr hpasses)⟩

end ShipManifest
