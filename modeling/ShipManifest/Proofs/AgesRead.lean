import ShipManifest.Proofs.Everyone
import ShipManifest.Proofs.Numerals
import ShipManifest.Proofs.Places

/-!
# Ages are read from numerals

White space around a numeral does not belong to it, and none stands within (`Age.Writes`). A column that writes a number
has the nearest finite number for its age (`Age.parse_of_writes_lt`). The age is not known where the number lies too far
behind the last finite one (`Age.parse_of_writes_le`), and where the column writes no number
(`Age.parse_of_not_writes`).

Main statement: `Age.parse_reads_numerals`.
-/

namespace ShipManifest

/-! ## White space around -/

namespace Text

open Numeral (NotAhead)

/-- White space on both sides is trimmed. -/
theorem trim_surrounded {before cs after : List Char} (hbefore : isBlank before = true) (hafter : isBlank after = true)
    (hne : cs ≠ []) (hcs : ∀ c ∈ cs, isSpace c = false) : trim (before ++ (cs ++ after)) = cs := by
  have hahead : NotAhead isSpace (cs ++ after) := fun c hc => by
    rw [List.head?_append_of_ne_nil _ hne] at hc
    exact hcs c (List.mem_of_mem_head? hc)
  have hbehind : NotAhead isSpace cs.reverse := fun c hc => hcs c (List.mem_reverse.mp (List.mem_of_mem_head? hc))
  have hblank : ∀ c ∈ after.reverse, isSpace c = true := fun c hc =>
    List.all_eq_true.mp hafter c (List.mem_reverse.mp hc)
  rw [trim, List.dropWhile_append_of_pos (List.all_eq_true.mp hbefore), hahead.dropWhile, List.reverse_append,
    List.dropWhile_append_of_pos hblank, hbehind.dropWhile, List.reverse_reverse]

/-- What is trimmed is white space. -/
theorem exists_surrounded (cs : List Char) :
    ∃ before after, cs = before ++ (trim cs ++ after) ∧ isBlank before = true ∧ isBlank after = true := by
  have hblank : ∀ ds : List Char, isBlank (ds.takeWhile isSpace) = true := fun ds =>
    List.all_eq_true.mpr fun _ hc => List.mem_takeWhile_imp hc
  refine ⟨cs.takeWhile isSpace, ((cs.dropWhile isSpace).reverse.takeWhile isSpace).reverse, ?_, hblank cs, ?_⟩
  · rw [trim, ← List.reverse_append, List.takeWhile_append_dropWhile, List.reverse_reverse,
      List.takeWhile_append_dropWhile]
  · rw [isBlank, List.all_reverse]
    exact hblank _

/-- No digit is white space. -/
theorem isSpace_of_isDigit {c : Char} (h : c.isDigit = true) : isSpace c = false := by
  have hall : ∀ i ≤ 9, isSpace (Char.ofNat (48 + i)) = false := by decide
  obtain ⟨hlow, hhigh⟩ : '0'.val ≤ c.val ∧ c.val ≤ '9'.val := by simpa [Char.isDigit] using h
  obtain ⟨i, hi, rfl⟩ := exists_add_of_between (Char.le_def.mpr hlow) (Char.le_def.mpr hhigh)
  exact hall i hi

end Text

namespace Numeral

theorem Sign.not_space {sign : List Char} {negative : Bool} (h : Sign sign negative) :
    ∀ c ∈ sign, Text.isSpace c = false := by
  cases h <;> simp <;> decide

/-- No white space stands within a numeral. -/
theorem Writes.not_space {cs : List Char} {negative : Bool} {x : ℚ} (h : Writes cs negative x) :
    ∀ c ∈ cs, Text.isSpace c = false := by
  have hdigits : ∀ {ds : List Char}, Digits ds → ∀ c ∈ ds, Text.isSpace c = false := fun hds c hc =>
    Text.isSpace_of_isDigit (hds c hc)
  obtain ⟨hsign, hplaces, -, hpower⟩ := h
  refine List.forall_mem_append.mpr ⟨hsign.not_space, List.forall_mem_append.mpr ⟨?_, ?_⟩⟩
  · cases hplaces with
    | whole hds => exact hdigits hds
    | pointed hds hfs =>
      exact List.forall_mem_append.mpr ⟨hdigits hds, List.forall_mem_cons.mpr ⟨by decide, hdigits hfs⟩⟩
  · cases hpower with
    | absent => exact fun c hc => absurd hc List.not_mem_nil
    | given he hsign _ hds =>
      refine List.forall_mem_cons.mpr ⟨?_, List.forall_mem_append.mpr ⟨hsign.not_space, hdigits hds⟩⟩
      rcases he with rfl | rfl <;> decide

theorem Writes.ne_nil {cs : List Char} {negative : Bool} {x : ℚ} (h : Writes cs negative x) : cs ≠ [] := by
  obtain ⟨n, hread, -⟩ := read?_of_writes h
  rintro rfl
  cases hread

end Numeral

/-! ## Ages -/

namespace Age

open Binary64 (NearestFinite signed)

/-- The column writes the number with this sign and this magnitude, between white space. -/
def Writes (raw : String) (negative : Bool) (x : ℚ) : Prop :=
  ∃ before cs after, raw.toList = before ++ (cs ++ after) ∧ Text.isBlank before = true ∧ Text.isBlank after = true ∧
    Numeral.Writes cs negative x

/-- What is left without white space is the numeral, if there is one. -/
theorem writes_iff {raw : String} {negative : Bool} {x : ℚ} :
    Writes raw negative x ↔ Numeral.Writes (Text.trim raw.toList) negative x := by
  constructor
  · rintro ⟨before, cs, after, hraw, hbefore, hafter, hcs⟩
    rwa [hraw, Text.trim_surrounded hbefore hafter hcs.ne_nil hcs.not_space]
  · intro h
    obtain ⟨before, after, hraw, hbefore, hafter⟩ := Text.exists_surrounded raw.toList
    exact ⟨before, _, after, hraw, hbefore, hafter, h⟩

theorem ofRank_of_lt {negative : Bool} {rank : Nat} (h : rank < rankLimit) :
    Binary64.ofRank negative rank = .finite negative ⟨rank, h⟩ := dif_pos h

theorem ofRank_of_le {negative : Bool} {rank : Nat} (h : rankLimit ≤ rank) :
    Binary64.ofRank negative rank = .infinite negative := dif_neg (Nat.not_lt.mpr h)

section Parse

variable {raw : String} {negative : Bool} {x : ℚ}

/-- What writes a number has the finite number of its sign and of the nearest magnitude for its age. -/
theorem parse_of_writes {rank : Fin rankLimit} (h : Writes raw negative x) (hnearest : Binary64.Nearest x rank) :
    parse raw = ⟨.finite negative rank⟩ := by
  obtain ⟨⟨sign, magnitude⟩, hread, rfl, rfl⟩ := Numeral.read?_of_writes (writes_iff.mp h)
  have hrank : magnitude.nearestRank = rank := (Decimal.nearestRank_eq_iff rank.isLt).mpr hnearest
  rw [parse, hread]
  simp only [Numeral.toBinary64, Decimal.toBinary64, hrank, ofRank_of_lt rank.isLt, Binary64.isFinite, if_true]

/-- A number before the end of the finite ones is rounded to the nearest of them, with its sign. -/
theorem parse_of_writes_lt (h : Writes raw negative x) (hlt : x < 2 ^ 1024 - 2 ^ 970) :
    ∃ rank, parse raw = ⟨.finite negative rank⟩ ∧ NearestFinite (signed negative x) negative rank := by
  obtain ⟨⟨sign, magnitude⟩, -, rfl, rfl⟩ := Numeral.read?_of_writes (writes_iff.mp h)
  have hrank : magnitude.nearestRank < rankLimit := magnitude.nearestRank_lt_iff.mpr hlt
  have hnearest : Binary64.Nearest magnitude.value (⟨magnitude.nearestRank, hrank⟩ : Fin rankLimit) :=
    Decimal.nearest_of_lt hrank
  exact ⟨⟨magnitude.nearestRank, hrank⟩, parse_of_writes h hnearest, hnearest.nearestFinite magnitude.value_nonneg sign⟩

/-- A number from there on is not known. -/
theorem parse_of_writes_le (h : Writes raw negative x) (hle : 2 ^ 1024 - 2 ^ 970 ≤ x) : parse raw = unknown := by
  obtain ⟨⟨sign, magnitude⟩, hread, rfl, rfl⟩ := Numeral.read?_of_writes (writes_iff.mp h)
  have hrank : rankLimit ≤ magnitude.nearestRank := by
    rw [← Nat.not_lt, magnitude.nearestRank_lt_iff, not_lt]
    exact hle
  rw [parse, hread]
  simp only [Numeral.toBinary64, Decimal.toBinary64, ofRank_of_le hrank, Binary64.isFinite]
  rfl

/-- What is no numeral is not known. -/
theorem parse_of_not_writes (h : ∀ negative x, ¬Writes raw negative x) : parse raw = unknown := by
  cases hread : Numeral.read? (Text.trim raw.toList) with
  | none => rw [parse, hread]
  | some n => exact absurd (writes_iff.mpr (Numeral.writes_of_read? hread)) (h _ _)

end Parse

/-- A column writes a finite number, or its age is not known. -/
theorem parse_cases (raw : String) :
    (∃ negative x rank, Writes raw negative x ∧ x < 2 ^ 1024 - 2 ^ 970 ∧ parse raw = ⟨.finite negative rank⟩) ∨
      parse raw = unknown ∧ ∀ negative x, Writes raw negative x → 2 ^ 1024 - 2 ^ 970 ≤ x := by
  by_cases hwrites : ∃ negative x, Writes raw negative x
  · obtain ⟨negative, x, h⟩ := hwrites
    rcases lt_or_ge x (2 ^ 1024 - 2 ^ 970) with hlt | hge
    · obtain ⟨rank, hparse, -⟩ := parse_of_writes_lt h hlt
      exact .inl ⟨negative, x, rank, h, hlt, hparse⟩
    · refine .inr ⟨parse_of_writes_le h hge, fun negative' x' h' => ?_⟩
      by_contra hlt
      obtain ⟨rank, hparse, -⟩ := parse_of_writes_lt h' (not_le.mp hlt)
      rw [parse_of_writes_le h hge] at hparse
      cases hparse
  · have hnone : ∀ negative x, ¬Writes raw negative x := fun negative x h => hwrites ⟨negative, x, h⟩
    exact .inr ⟨parse_of_not_writes hnone, fun negative x h => absurd h (hnone negative x)⟩

/-- No age that is read is infinite. -/
theorem years_parse_ne_infinite (raw : String) (negative : Bool) : (parse raw).years ≠ .infinite negative := by
  rcases parse_cases raw with ⟨_, _, _, -, -, hparse⟩ | ⟨hparse, -⟩ <;> rw [hparse] <;> nofun

theorem settle_toJson (a : Age) : a.toJson.settle = a.toJson := by
  rw [toJson]
  split <;> rfl

/-- The age in the JSON of a record. -/
theorem get?_age (r : Record) : r.toJson.settle.get? "age" = some r.age.toJson := by
  rw [Record.get?_toJson]
  exact congrArg some (settle_toJson r.age)

/-- **Ages are read from numerals.** A column whose number lies before the end of the finite numbers has the nearest one
for its age, the even one of two, and keeps the sign also on zero. The age of every other column is not known. So the
age of a record is never infinite, and it is null in JSON exactly if it is not known. -/
theorem parse_reads_numerals (raw : String) :
    (∀ negative x, Writes raw negative x → x < 2 ^ 1024 - 2 ^ 970 →
      ∃ rank, parse raw = ⟨.finite negative rank⟩ ∧ NearestFinite (signed negative x) negative rank) ∧
    ((parse raw).isKnown = true ↔ ∃ negative x, Writes raw negative x ∧ x < 2 ^ 1024 - 2 ^ 970) ∧
    ((¬∃ negative x, Writes raw negative x ∧ x < 2 ^ 1024 - 2 ^ 970) → parse raw = unknown) ∧
    ∀ row, (∀ negative, (Record.ofRow row).age.years ≠ .infinite negative) ∧
      ((Record.ofRow row).toJson.settle.get? "age" = some .null ↔ (Record.ofRow row).age = unknown) := by
  refine ⟨fun negative x h hlt => parse_of_writes_lt h hlt, ?_, fun hnone => ?_, fun row => ?_⟩
  · rcases parse_cases raw with ⟨negative, x, rank, h, hlt, hparse⟩ | ⟨hparse, hle⟩
    · exact iff_of_true (by rw [hparse]; rfl) ⟨negative, x, h, hlt⟩
    · refine iff_of_false (by rw [hparse]; decide) ?_
      rintro ⟨negative, x, h, hlt⟩
      exact absurd hlt (not_lt.mpr (hle negative x h))
  · rcases parse_cases raw with ⟨negative, x, rank, h, hlt, -⟩ | ⟨hparse, -⟩
    · exact absurd ⟨negative, x, h, hlt⟩ hnone
    · exact hparse
  · obtain ⟨raw, hage⟩ : ∃ raw, (Record.ofRow row).age = parse raw := ⟨_, rfl⟩
    rw [get?_age, hage]
    refine ⟨years_parse_ne_infinite raw, ?_⟩
    rcases parse_cases raw with ⟨negative, x, rank, -, -, hparse⟩ | ⟨hparse, -⟩ <;> rw [hparse]
    · simp [toJson, unknown, Binary64.isFinite]
    · exact iff_of_true rfl rfl

/-- Below half the least number, minus zero is nearest; white space of two kinds stands around. -/
theorem parse_reads_numerals_to_minus_zero :
    let raw := "\u2003-.2e-323 "
    let x : ℚ := 2 / 10 * 10 ^ (-323 : Int)
    Writes raw true x ∧ x < 2 ^ 1024 - 2 ^ 970 ∧
      (∃ rank, parse raw = ⟨.finite true rank⟩ ∧ NearestFinite (signed true x) true rank) ∧
      parse raw = ⟨.finite true ⟨0, by decide⟩⟩ := by
  intro raw x
  have hwrites : Writes raw true x := by
    refine ⟨['\u2003'], "-.2e-323".toList, [' '], by decide, rfl, rfl, ?_⟩
    have hplaces : Numeral.Places ['.', '2'] [] ['2'] := .pointed (by decide : Numeral.Digits []) (by decide)
    have hpower : Numeral.Power ['e', '-', '3', '2', '3'] (-323) :=
      .given (.inl rfl) .minus (List.cons_ne_nil '3' ['2', '3']) (by decide)
    have hparts := Numeral.Writes.parts .minus hplaces (by decide) hpower
    have hwhole : Numeral.ofDigits [] = 0 := by decide
    have hfraction : Numeral.ofDigits ['2'] = 2 := by decide
    rw [hwhole, hfraction] at hparts
    simpa [x] using hparts
  have hlt : x < 2 ^ 1024 - 2 ^ 970 := by
    have hx : x ≤ 2 / 10 * 1 :=
      mul_le_mul_of_nonneg_left (zpow_le_one_of_nonpos₀ (by norm_num) (by decide)) (by norm_num)
    have hsplit : (2 : ℚ) ^ 1024 = 2 ^ 54 * 2 ^ 970 := by rw [← pow_add]
    have hone : (1 : ℚ) ≤ 2 ^ 970 := one_le_pow₀ (by norm_num)
    rw [hsplit]
    generalize (2 : ℚ) ^ 970 = half at hone
    linarith
  exact ⟨hwrites, hlt, (parse_reads_numerals raw).1 true x hwrites hlt, by decide +kernel⟩

end Age

end ShipManifest
