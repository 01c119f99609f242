import ShipManifest.Proofs.Everyone

/-!
# Rows of the same record

A record holds less than its row: fields beyond the sixth column are not read, what is missing reads as empty, and of
the age and the survival only what they mean is kept.

* Ages are equal if neither is known or both have the same word, because a number is read back from its word
  (`Binary64.ofWord_toWord`, `Age.eq_iff`).
* Fields: empty fields behind a row change none of its fields (`Record.fieldAt_padded`), and what stands beyond the
  sixth column is no field of the record.

Main statement: rows have the same record exactly if they say the same (`Record.records_eq_iff`).
-/

namespace ShipManifest

/-! ## Ages -/

/-- A number is read back from its word. -/
theorem Binary64.ofWord_toWord (x : Binary64) : ofWord x.toWord = x := by
  cases x with
  | nan => decide
  | infinite negative => cases negative <;> decide
  | finite negative rank =>
    have hrank : rank.val < rankLimit := rank.isLt
    have hlimit : rankLimit < 2 ^ 63 := by decide
    have hword : (toWord (finite negative rank)).toNat = negative.toNat * 2 ^ 63 + rank := by
      have hsign : negative.toNat ≤ 1 := Bool.toNat_le negative
      rw [toWord, UInt64.toNat_ofNat', Nat.pow_eq, Nat.mod_eq_of_lt]
      omega
    have hrest : (negative.toNat * 2 ^ 63 + rank.val) % 2 ^ 63 = rank := by
      rw [Nat.add_comm, Nat.add_mul_mod_self_right, Nat.mod_eq_of_lt (Nat.lt_trans hrank hlimit)]
    have hsign : decide (2 ^ 63 ≤ negative.toNat * 2 ^ 63 + rank.val) = negative := by
      cases negative <;> simp
      omega
    simp only [ofWord, hword, Nat.pow_eq, hrest, hsign, if_pos (Nat.le_of_lt hrank), ofRank, dif_pos hrank]

namespace Age

/-- Ages are equal if neither is known, or if their words are equal. -/
theorem eq_iff {a b : Age} :
    a = b ↔ (a.isKnown = false ∧ b.isKnown = false) ∨ a.years.toWord = b.years.toWord := by
  constructor
  · rintro rfl
    exact .inr rfl
  · rintro (⟨ha, hb⟩ | hword)
    · have hnan : ∀ c : Age, c.isKnown = false → c = unknown := by
        rintro ⟨years⟩ h
        simpa [isKnown, unknown] using h
      rw [hnan a ha, hnan b hb]
    · have hyears := congrArg Binary64.ofWord hword
      rw [Binary64.ofWord_toWord, Binary64.ofWord_toWord] at hyears
      obtain ⟨years⟩ := a
      exact congrArg mk hyears

end Age

namespace Record

/-! ## Fields -/

/-- Empty fields behind a row are what it reads as without them. -/
theorem fieldAt_padded (row : List String) (n column : Nat) :
    fieldAt (row ++ List.replicate n "") column = fieldAt row column := by
  rw [fieldAt, fieldAt]
  rcases Nat.lt_or_ge column row.length with hlt | hge
  · rw [List.getElem?_append_left hlt]
  · rw [List.getElem?_append_right hge, List.getElem?_eq_none hge, List.getElem?_replicate]
    split <;> rfl

/-- What stands behind the fields of a row does not change them. -/
theorem fieldAt_append {row : List String} {column : Nat} (h : column < row.length) (behind : List String) :
    fieldAt (row ++ behind) column = fieldAt row column := by
  rw [fieldAt, fieldAt, List.getElem?_append_left h]

/-- The columns whose text is kept as it is. -/
def textColumns : List Nat := [0, 2, 3, 4]

/-- The row with the fields of two columns in each other's place. -/
def exchanged (i j : Nat) (row : List String) : List String :=
  let padded := row ++ List.replicate (columnCount - row.length) ""
  (padded.set i (fieldAt row j)).set j (fieldAt row i)

/-- The first of the two columns has the field of the second one. -/
theorem fieldAt_exchanged {i j : Nat} (hi : i < columnCount) (hne : i ≠ j) (row : List String) :
    fieldAt (exchanged i j row) i = fieldAt row j := by
  have hlength : i < (row ++ List.replicate (columnCount - row.length) "").length := by
    rw [List.length_append, List.length_replicate]
    omega
  rw [exchanged, fieldAt, List.getElem?_set_ne hne.symm, List.getElem?_set_self hlength]
  rfl

/-! ## Records -/

/-- The rows say the same: the same texts, the same of the survival, and the same number of years, or none. -/
structure SaysSame (row row' : List String) : Prop where
  name : fieldAt row 0 = fieldAt row' 0
  travelClass : fieldAt row 2 = fieldAt row' 2
  category : fieldAt row 3 = fieldAt row' 3
  role : fieldAt row 4 = fieldAt row' 4
  survival : fieldAt row 5 = "T" ↔ fieldAt row' 5 = "T"
  age : ((Age.parse (fieldAt row 1)).isKnown = false ∧ (Age.parse (fieldAt row' 1)).isKnown = false) ∨
    (Age.parse (fieldAt row 1)).years.toWord = (Age.parse (fieldAt row' 1)).years.toWord

/-- Rows have the same record exactly if they say the same. -/
theorem ofRow_eq_ofRow_iff {row row' : List String} : ofRow row = ofRow row' ↔ SaysSame row row' := by
  constructor
  · intro h
    rw [ofRow_eq, ofRow_eq, mk.injEq] at h
    obtain ⟨hname, -, -, hage, hclass, hrole, hcategory, hsurvivor⟩ := h
    exact ⟨hname, hclass, hcategory, hrole, by simpa using hsurvivor, Age.eq_iff.mp hage⟩
  · intro h
    have hsurvivor : (fieldAt row 5 == "T") = (fieldAt row' 5 == "T") := by simpa using h.survival
    rw [ofRow_eq, ofRow_eq, h.name, h.travelClass, h.category, h.role, hsurvivor, Age.eq_iff.mpr h.age]

/-- Rows with the same fields in the six columns have the same record. -/
theorem ofRow_congr {row row' : List String} (h : ∀ column < columnCount, fieldAt row column = fieldAt row' column) :
    ofRow row = ofRow row' := by
  rw [ofRow_eq, ofRow_eq, h 0 (by decide), h 1 (by decide), h 2 (by decide), h 3 (by decide), h 4 (by decide),
    h 5 (by decide)]

/-- The texts of a record are told apart column by column. -/
theorem fieldAt_eq_of_ofRow_eq {row row' : List String} (h : ofRow row = ofRow row') :
    ∀ column ∈ textColumns, fieldAt row column = fieldAt row' column := by
  have same := ofRow_eq_ofRow_iff.mp h
  simp only [textColumns, List.forall_mem_cons, List.not_mem_nil, false_imp_iff, implies_true, and_true]
  exact ⟨same.name, same.travelClass, same.category, same.role⟩

/-- **Rows have the same record exactly if they say the same.** So empty fields behind a row and fields beyond the sixth
column do not count, and two different texts cannot change places unnoticed. -/
theorem records_eq_iff (row : List String) :
    (∀ row', ofRow row = ofRow row' ↔ SaysSame row row') ∧
    (∀ n, ofRow (row ++ List.replicate n "") = ofRow row) ∧
    (columnCount ≤ row.length → ∀ behind, ofRow (row ++ behind) = ofRow row) ∧
    ∀ i ∈ textColumns, ∀ j ∈ textColumns, fieldAt row i ≠ fieldAt row j → ofRow (exchanged i j row) ≠ ofRow row := by
  refine ⟨fun row' => ofRow_eq_ofRow_iff, fun n => ?_, fun hlength behind => ?_, fun i hi j hj hne h => ?_⟩
  · exact ofRow_congr fun column _ => fieldAt_padded row n column
  · exact ofRow_congr fun column hcolumn => fieldAt_append (Nat.lt_of_lt_of_le hcolumn hlength) behind
  · have hcolumn : ∀ i ∈ textColumns, i < columnCount := by decide
    have hij : i ≠ j := fun hij => hne (congrArg (fieldAt row) hij)
    have hsame := fieldAt_eq_of_ofRow_eq h i hi
    rw [fieldAt_exchanged (hcolumn i hi) hij] at hsame
    exact hne hsame.symm

/-- A short row and a long one with another spelling of the age and another word for not having survived. -/
theorem records_eq_iff_for_long_row :
    let row := ["HUME/ Mr John", " +21.0e0 ", "", "Crew", "", "t", "violin"]
    let row' := ["HUME/ Mr John", "21", "", "Crew"]
    SaysSame row row' ∧ ofRow row = ofRow row' ∧
      columnCount ≤ row.length ∧ ofRow (row ++ ["T"]) = ofRow row ∧
      2 ∈ textColumns ∧ 3 ∈ textColumns ∧ fieldAt row' 2 ≠ fieldAt row' 3 ∧
      ofRow (exchanged 2 3 row') ≠ ofRow row' := by
  intro row row'
  have hage : (Age.parse " +21.0e0 ").years.toWord = (Age.parse "21").years.toWord := by decide +kernel
  have same : SaysSame row row' := ⟨rfl, rfl, rfl, rfl, by decide, .inr hage⟩
  have hlength : columnCount ≤ row.length := by decide
  have hne : fieldAt row' 2 ≠ fieldAt row' 3 := by decide
  exact ⟨same, ((records_eq_iff row).1 row').mpr same, hlength, (records_eq_iff row).2.2.1 hlength ["T"], by decide,
    by decide, hne, (records_eq_iff row').2.2.2 2 (by decide) 3 (by decide) hne⟩

end Record

end ShipManifest
