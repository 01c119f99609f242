import Mathlib.Data.List.TakeWhile
import ShipManifest.Decimal.Numeral
import ShipManifest.Proofs.NearestDecimals

/-!
# The grammar of numerals

A numeral is a sign, places and a power, of which the sign and the power may be absent (`Numeral.Writes`). The reader
takes one after the other and looks one character ahead: a sign does not begin places, and no digit and no point begins
a power.

Main statement: a text is read exactly if it is a numeral, and as the number that it writes (`Numeral.writes_of_read?`,
`Numeral.read?_of_writes`).
-/

namespace ShipManifest.Numeral

open Decimal (value)

/-! ## The grammar -/

/-- Digits of ASCII, and nothing else. -/
def Digits (cs : List Char) : Prop :=
  ∀ c ∈ cs, c.isDigit = true

instance (cs : List Char) : Decidable (Digits cs) :=
  decidable_of_iff (cs.all Char.isDigit = true) List.all_eq_true

/-- A sign, and whether it is a minus. -/
inductive Sign : List Char → Bool → Prop
  | absent : Sign [] false
  | plus : Sign ['+'] false
  | minus : Sign ['-'] true

/-- Digits with at most one point among them, and those before and behind the point. -/
inductive Places : List Char → List Char → List Char → Prop
  | whole {ds : List Char} : Digits ds → Places ds ds []
  | pointed {ds fs : List Char} : Digits ds → Digits fs → Places (ds ++ '.' :: fs) ds fs

/-- An exponent, and the power of ten that it stands for. -/
inductive Power : List Char → Int → Prop
  | absent : Power [] 0
  | given {e : Char} {sign ds : List Char} {negative : Bool} : e = 'e' ∨ e = 'E' → Sign sign negative → ds ≠ [] →
      Digits ds → Power (e :: (sign ++ ds)) (if negative then -(ofDigits ds : Int) else ofDigits ds)

/-- The text writes the number with this sign and this magnitude. -/
inductive Writes : List Char → Bool → ℚ → Prop
  | parts {sign places power whole fraction : List Char} {negative : Bool} {exponent : Int} : Sign sign negative →
      Places places whole fraction → whole ++ fraction ≠ [] → Power power exponent →
      Writes (sign ++ (places ++ power)) negative
        ((ofDigits whole + ofDigits fraction / 10 ^ fraction.length) * 10 ^ exponent)

/-! ## One part -/

section Parts

variable {c : Char} {cs ds fs rest sign places power whole fraction : List Char} {negative : Bool} {exponent : Int}

/-- The text does not begin with such a character. -/
def NotAhead (p : Char → Bool) (cs : List Char) : Prop :=
  ∀ c ∈ cs.head?, p c = false

theorem NotAhead.takeWhile {p : Char → Bool} (h : NotAhead p cs) : cs.takeWhile p = [] := by
  cases cs with
  | nil => rfl
  | cons c cs => rw [List.takeWhile_cons, h c rfl, if_neg Bool.false_ne_true]

theorem NotAhead.dropWhile {p : Char → Bool} (h : NotAhead p cs) : cs.dropWhile p = cs := by
  cases cs with
  | nil => rfl
  | cons c cs => rw [List.dropWhile_cons, h c rfl, if_neg Bool.false_ne_true]

theorem span_digits (h : Digits ds) (hrest : NotAhead Char.isDigit rest) :
    (ds ++ rest).span Char.isDigit = (ds, rest) := by
  rw [List.span_eq_takeWhile_dropWhile, List.takeWhile_append_of_pos h, List.dropWhile_append_of_pos h,
    hrest.takeWhile, hrest.dropWhile, List.append_nil]

/-- Whether the character is a sign. -/
def isSign (c : Char) : Bool :=
  c == '+' || c == '-'

theorem takeSign_append (h : Sign sign negative) (hrest : NotAhead isSign rest) :
    takeSign (sign ++ rest) = (negative, rest) := by
  cases h with
  | plus => rfl
  | minus => rfl
  | absent =>
    cases rest with
    | nil => rfl
    | cons c rest =>
      have hc := hrest c rfl
      simp only [isSign, Bool.or_eq_false_iff, beq_eq_false_iff_ne] at hc
      simp [takeSign, hc]

theorem sign_takeSign (cs : List Char) : ∃ sign, Sign sign (takeSign cs).1 ∧ cs = sign ++ (takeSign cs).2 := by
  unfold takeSign
  split
  · exact ⟨_, .plus, rfl⟩
  · exact ⟨_, .minus, rfl⟩
  · exact ⟨_, .absent, rfl⟩

/-- Whether the character may stand among places. -/
def isPlace (c : Char) : Bool :=
  c.isDigit || c == '.'

theorem isSign_of_isPlace (h : isPlace c = true) : isSign c = false := by
  cases hsign : isSign c with
  | false => rfl
  | true =>
    rcases (by simpa [isSign] using hsign : c = '+' ∨ c = '-') with rfl | rfl <;> exact absurd h (by decide)

theorem notAhead_isSign (h : Digits ds) : NotAhead isSign ds := fun c hc => by
  have hdigit := h c (List.mem_of_mem_head? hc)
  exact isSign_of_isPlace (by rw [isPlace, hdigit, Bool.true_or])

theorem notAhead_isDigit (h : NotAhead isPlace rest) : NotAhead Char.isDigit rest := fun c hc =>
  (Bool.or_eq_false_iff.mp (h c hc)).1

theorem takePlaces_append (h : Places places whole fraction) (hrest : NotAhead isPlace rest) :
    ∃ behind, (places ++ rest).span Char.isDigit = (whole, behind) ∧ takeFraction behind = (fraction, rest) := by
  cases h with
  | whole hds =>
    refine ⟨rest, span_digits hds (notAhead_isDigit hrest), ?_⟩
    cases rest with
    | nil => rfl
    | cons c rest =>
      have hpoint : c ≠ '.' := by
        rintro rfl
        exact absurd (hrest '.' rfl) (by decide)
      simp [takeFraction, hpoint]
  | pointed hds hfs =>
    refine ⟨'.' :: (fraction ++ rest), ?_, span_digits hfs (notAhead_isDigit hrest)⟩
    rw [List.append_assoc]
    refine span_digits hds fun c hc => ?_
    obtain rfl : '.' = c := by simpa using hc
    rfl

/-- Places begin with a digit or a point, and so with no sign. -/
theorem notAhead_isSign_places (h : Places places whole fraction) (hne : whole ++ fraction ≠ []) :
    NotAhead isSign (places ++ rest) := by
  have hall : ∀ c ∈ places, isPlace c = true := by
    intro c hc
    cases h with
    | whole hds => rw [isPlace, hds c hc, Bool.true_or]
    | pointed hds hfs =>
      rcases List.mem_append.mp hc with hc | hc
      · rw [isPlace, hds c hc, Bool.true_or]
      · rcases List.mem_cons.mp hc with rfl | hc
        · rfl
        · rw [isPlace, hfs c hc, Bool.true_or]
  have hplaces : places ≠ [] := by
    cases h with
    | whole hds => simpa using hne
    | pointed hds hfs => simp
  obtain ⟨first, others, rfl⟩ := List.exists_cons_of_ne_nil hplaces
  intro c hc
  obtain rfl : first = c := by simpa using hc
  exact isSign_of_isPlace (hall first List.mem_cons_self)

theorem notAhead_isPlace_power (h : Power power exponent) : NotAhead isPlace power := by
  intro c hc
  cases h with
  | absent => cases hc
  | given he _ _ _ =>
    obtain rfl := Option.some.inj hc
    rcases he with rfl | rfl <;> decide

theorem digits_takeWhile (cs : List Char) : Digits (cs.takeWhile Char.isDigit) := fun _ hc =>
  List.mem_takeWhile_imp hc

theorem places_takePlaces (cs : List Char) :
    ∃ places, Places places (cs.span Char.isDigit).1 (takeFraction (cs.span Char.isDigit).2).1 ∧
      cs = places ++ (takeFraction (cs.span Char.isDigit).2).2 := by
  rw [List.span_eq_takeWhile_dropWhile]
  have hcs := List.takeWhile_append_dropWhile (p := Char.isDigit) (l := cs)
  cases hbehind : cs.dropWhile Char.isDigit with
  | nil =>
    rw [hbehind] at hcs
    exact ⟨_, .whole (digits_takeWhile cs), hcs.symm⟩
  | cons c behind =>
    rw [hbehind] at hcs
    by_cases hpoint : c = '.'
    · subst hpoint
      have hfraction : takeFraction ('.' :: behind) = behind.span Char.isDigit := rfl
      rw [hfraction, List.span_eq_takeWhile_dropWhile]
      refine ⟨_, .pointed (digits_takeWhile cs) (digits_takeWhile behind), ?_⟩
      rw [List.append_assoc, List.cons_append, List.takeWhile_append_dropWhile, hcs]
    · have hnone : takeFraction (c :: behind) = ([], c :: behind) := by simp [takeFraction, hpoint]
      rw [hnone]
      exact ⟨_, .whole (digits_takeWhile cs), hcs.symm⟩

theorem readExponent?_of_power (h : Power power exponent) : readExponent? power = some exponent := by
  cases h with
  | absent => rfl
  | @given e sign ds negative he hsign hne hds =>
    have hall : ds.all Char.isDigit = true := List.all_eq_true.mpr hds
    simp only [readExponent?, takeSign_append hsign (notAhead_isSign hds)]
    rw [if_pos ⟨he, hne, hall⟩]

theorem power_of_readExponent? (h : readExponent? cs = some exponent) : Power cs exponent := by
  cases cs with
  | nil =>
    obtain rfl : 0 = exponent := Option.some.inj h
    exact .absent
  | cons e cs =>
    obtain ⟨sign, hsign, hcs⟩ := sign_takeSign cs
    simp only [readExponent?] at h
    split at h
    · rename_i hgiven
      obtain ⟨he, hne, hall⟩ := hgiven
      obtain rfl := Option.some.inj h
      have hpower := Power.given he hsign hne (List.all_eq_true.mp hall)
      rwa [← hcs] at hpower
    · cases h

end Parts

/-! ## Whole numerals -/

/-- Digits before and behind the point are the digits of one number, with as many places as there are behind it. -/
theorem value_places (whole fraction : List Char) (exponent : Int) :
    value ⟨ofDigits (whole ++ fraction), exponent - fraction.length⟩ =
      (ofDigits whole + ofDigits fraction / 10 ^ fraction.length) * 10 ^ exponent := by
  have hten : (10 : ℚ) ≠ 0 := by norm_num
  have hdigits : ofDigits (whole ++ fraction) = 10 ^ fraction.length * ofDigits whole + ofDigits fraction := by
    rw [ofDigits, Nat.ofDigitChars_append, Nat.ofDigitChars_eq_ofDigitChars_zero]
    rfl
  rw [value, hdigits, zpow_sub₀ hten, zpow_natCast]
  push_cast
  field_simp

variable {cs : List Char} {n : Numeral} {negative : Bool} {x : ℚ}

/-- What is read is a numeral, and the number is the one that it writes. -/
theorem writes_of_read? (h : read? cs = some n) : Writes cs n.negative n.magnitude.value := by
  obtain ⟨sign, hsign, hcs⟩ := sign_takeSign cs
  obtain ⟨places, hplaces, hbehind⟩ := places_takePlaces (takeSign cs).2
  simp only [read?] at h
  split at h
  · cases h
  · rename_i hne
    obtain ⟨exponent, hexponent, rfl⟩ := Option.map_eq_some_iff.mp h
    have hwrites := Writes.parts hsign hplaces (by simpa [List.append_eq_nil_iff] using hne)
      (power_of_readExponent? hexponent)
    rw [← hbehind, ← hcs] at hwrites
    rw [value_places]
    exact hwrites

/-- Every numeral is read. -/
theorem read?_of_writes (h : Writes cs negative x) :
    ∃ n, read? cs = some n ∧ n.negative = negative ∧ n.magnitude.value = x := by
  cases h with
  | @parts sign places power whole fraction _ exponent hsign hplaces hne hpower =>
    have hsigned : takeSign (sign ++ (places ++ power)) = (negative, places ++ power) :=
      takeSign_append hsign (notAhead_isSign_places hplaces hne)
    obtain ⟨behind, hspan, hfraction⟩ := takePlaces_append hplaces (notAhead_isPlace_power hpower)
    have hparts : ¬(whole = [] ∧ fraction = []) := by simpa [List.append_eq_nil_iff] using hne
    refine ⟨⟨negative, ⟨ofDigits (whole ++ fraction), exponent - fraction.length⟩⟩, ?_, rfl, value_places _ _ _⟩
    simp only [read?, hsigned, hspan, hfraction, if_neg hparts, readExponent?_of_power hpower, Option.map_some]

end ShipManifest.Numeral
