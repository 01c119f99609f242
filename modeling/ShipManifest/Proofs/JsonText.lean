import ShipManifest.Json.Write
import ShipManifest.Proofs.Lines

/-!
# Written JSON stays on its line

No character below U+0020 stands in written JSON (`Json.plain_write`): texts escape them, and numbers, words and
punctuation have none. So the bytes of a written value hold no line feed, and values written one on a line are read as
one line each (`Json.byteLines_compact`).
-/

namespace ShipManifest

/-! ## Plain texts -/

/-- No character of the text is a control below U+0020. -/
def Plain (cs : List Char) : Prop :=
  ∀ c ∈ cs, 0x20 ≤ c.toNat

namespace Plain

variable {c : Char} {cs ds : List Char}

@[simp] theorem nil : Plain [] := fun _ h => absurd h List.not_mem_nil

@[simp] theorem cons_iff : Plain (c :: cs) ↔ 0x20 ≤ c.toNat ∧ Plain cs :=
  List.forall_mem_cons

@[simp] theorem append_iff : Plain (cs ++ ds) ↔ Plain cs ∧ Plain ds :=
  List.forall_mem_append

theorem replicate (n : Nat) (h : 0x20 ≤ c.toNat) : Plain (List.replicate n c) :=
  List.forall_mem_replicate.mpr (.inr h)

/-- Parts of plain texts are plain. -/
theorem of_subset (h : Plain ds) (hs : cs ⊆ ds) : Plain cs :=
  fun c hc => h c (hs hc)

theorem digitChar (n : Nat) : 0x20 ≤ n.digitChar.toNat := by
  have hsmall : ∀ m < 16, 0x20 ≤ (Nat.digitChar m).toNat := by decide
  rcases Nat.lt_or_ge n 16 with hlt | hge
  · exact hsmall n hlt
  · rw [Nat.digitChar_eq_star.mpr hge]
    decide

theorem toDigits (n : Nat) : Plain (Nat.toDigits 10 n) := by
  intro c hc
  have h := Nat.isDigit_of_mem_toDigits (by decide) (by decide) hc
  simp only [Char.isDigit, Bool.and_eq_true, decide_eq_true_eq] at h
  exact Nat.le_trans (by decide) (UInt32.le_iff_toNat_le.mp h.1)

end Plain

/-! ## Decimals -/

namespace Decimal

theorem plain_positional (d : Decimal) : Plain d.positional := by
  have hdigits := Plain.toDigits d.digits
  unfold positional
  cases d.exponent with
  | ofNat e =>
    dsimp only
    split
    · exact hdigits
    · exact Plain.append_iff.mpr ⟨hdigits, Plain.replicate e (by decide)⟩
  | negSucc e =>
    have hpadded : ∀ n, Plain (List.replicate n '0' ++ Nat.toDigits 10 d.digits) :=
      fun n => Plain.append_iff.mpr ⟨Plain.replicate n (by decide), hdigits⟩
    dsimp only
    rw [Plain.append_iff, Plain.cons_iff]
    exact ⟨(hpadded _).of_subset (List.take_subset _ _), by decide, (hpadded _).of_subset (List.drop_subset _ _)⟩

theorem plain_scientific (d : Decimal) : Plain d.scientific := by
  have hdigits := Plain.toDigits d.digits
  have hsign : ∀ p : Prop, [Decidable p] → 0x20 ≤ (if p then '-' else '+').toNat := by
    intro p _
    split <;> decide
  unfold scientific
  dsimp only
  rw [Plain.append_iff, Plain.cons_iff, Plain.cons_iff]
  refine ⟨?_, by decide, hsign _, Plain.toDigits _⟩
  split
  · rename_i first second rest h
    rw [h] at hdigits
    simpa using hdigits
  · exact hdigits

end Decimal

/-! ## Values -/

namespace Json

theorem plain_escapeChar (c : Char) : Plain (escapeChar c) := by
  unfold escapeChar
  split
  any_goals (simp only [Plain.cons_iff, Plain.nil]; decide)
  split
  · simp [Plain.digitChar]
  · simpa using Nat.le_of_not_lt ‹_›

theorem plain_writeText (s : String) : Plain (writeText s) := by
  have htext : Plain (s.toList.flatMap escapeChar) := List.forall_mem_flatMap.mpr fun c _ => plain_escapeChar c
  rw [writeText, Plain.append_iff, Plain.cons_iff]
  exact ⟨⟨by decide, htext⟩, by simp⟩

theorem plain_sign {p : Prop} [Decidable p] : Plain (if p then ['-'] else []) := by
  split <;> simp

theorem plain_writeInteger (i : Int) : Plain (writeInteger i) :=
  Plain.append_iff.mpr ⟨plain_sign, Plain.toDigits _⟩

theorem plain_writeReal (x : Binary64) : Plain (writeReal x) := by
  cases x with
  | nan => simp [writeReal]
  | infinite negative => simp [writeReal]
  | finite negative rank =>
    refine Plain.append_iff.mpr ⟨plain_sign, ?_⟩
    unfold writeMagnitude
    dsimp only
    split
    · refine Plain.append_iff.mpr ⟨Decimal.plain_positional _, ?_⟩
      split <;> simp
    · exact Decimal.plain_scientific _

mutual

/-- Written values are plain. -/
theorem plain_write : ∀ value : Json, Plain value.write
  | null | boolean true | boolean false | list [] | object [] => by simp [write]
  | integer i => by simpa [write] using plain_writeInteger i
  | real x => by simpa [write] using plain_writeReal x
  | text s => by simpa [write] using plain_writeText s
  | list (item :: rest) => by simp [write, plain_write item, plain_writeItems rest]
  | object ((key, value) :: rest) => by
    simp [write, plain_writeText key, plain_write value, plain_writeMembers rest]

theorem plain_writeItems : ∀ items : List Json, Plain (writeItems items)
  | [] => by simp [writeItems]
  | item :: rest => by simp [writeItems, plain_write item, plain_writeItems rest]

theorem plain_writeMembers : ∀ members : List (String × Json), Plain (writeMembers members)
  | [] => by simp [writeMembers]
  | (key, value) :: rest => by
    simp [writeMembers, plain_writeText key, plain_write value, plain_writeMembers rest]

end

/-- The bytes of a written value hold no control below U+0020. -/
theorem le_of_mem_compact {value : Json} {b : UInt8} (h : b ∈ Text.encode value.compact) : 0x20 ≤ b.toNat := by
  rcases Nat.lt_or_ge b.toNat 0x80 with hlt | hge
  · obtain ⟨c, hc, hcb⟩ := Text.mem_of_mem_encode hlt h
    rw [compact, String.toList_ofList] at hc
    rw [← hcb]
    exact plain_write value c hc
  · omega

/-- Lines of written values are split again into the values' texts. -/
theorem byteLines_compact (values : List Json) :
    Text.byteLines (values.flatMap fun value => Text.encode value.compact ++ [10]) =
      values.map fun value => Text.encode value.compact := by
  have h : ∀ line ∈ values.map fun value => Text.encode value.compact,
      (10 : UInt8) ∉ line ∧ line.getLast? ≠ some 13 := by
    intro line hl
    obtain ⟨value, -, rfl⟩ := List.mem_map.mp hl
    exact ⟨fun h => absurd (le_of_mem_compact h) (by decide),
      fun h => absurd (le_of_mem_compact (List.mem_of_getLast? h)) (by decide)⟩
  have := Text.linesBy_flatMap h
  rwa [List.flatMap_map] at this

end Json

end ShipManifest
