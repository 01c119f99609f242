import Mathlib.Algebra.Order.Field.Basic
import Mathlib.Algebra.Order.Ring.Rat
import Mathlib.Order.Monotone.Basic
import Mathlib.Tactic.FieldSimp
import Mathlib.Tactic.Linarith
import Mathlib.Tactic.Positivity
import Mathlib.Tactic.Ring
import ShipManifest.Binary64.Rounding

/-!
# The nearest magnitude

Between two powers of two the magnitudes are the multiples of one step (`Binary64.units_add`), and the next step is
twice as long. A quotient is rounded to a multiple of the step that fits its size. Its neighbours are one step away,
except below a power of two, where the quotient itself does not lie; so the multiple is the nearest magnitude
(`Binary64.nearest_of_multiple`).

Main statements: a quotient is rounded to the nearest magnitude, of two to the one of even rank
(`Binary64.nearest_nearestRank`). It stays finite exactly below the middle between the last magnitude and the next power
of two (`Binary64.Nearest.lt_rankLimit_iff`).
-/

namespace ShipManifest.Binary64

/-! ## Magnitudes -/

/-- Where `shift` does not change, the magnitudes are the multiples of one power of two. -/
theorem units_add {shift multiple : Nat} (hle : multiple ≤ 2 ^ 53) (h : shift = 0 ∨ 2 ^ 52 ≤ multiple) :
    units (shift * 2 ^ 52 + multiple) = multiple * 2 ^ shift := by
  simp only [units, Nat.pow_eq]
  rcases Nat.lt_or_ge multiple (2 ^ 52) with hsmall | hlarge
  · obtain rfl : shift = 0 := by omega
    rw [Nat.zero_mul, Nat.zero_add, if_pos hsmall, Nat.pow_zero, Nat.mul_one]
  rcases Nat.lt_or_ge multiple (2 ^ 53) with hlt | hge
  · have hdiv : (shift * 2 ^ 52 + multiple) / 2 ^ 52 = shift + 1 := by omega
    have hmod : (shift * 2 ^ 52 + multiple) % 2 ^ 52 = multiple - 2 ^ 52 := by omega
    rw [if_neg (by omega), hdiv, hmod, Nat.add_sub_cancel' hlarge, Nat.add_sub_cancel]
  · obtain rfl : multiple = 2 ^ 53 := by omega
    have hdiv : (shift * 2 ^ 52 + 2 ^ 53) / 2 ^ 52 = shift + 2 := by omega
    have hmod : (shift * 2 ^ 52 + 2 ^ 53) % 2 ^ 52 = 0 := by omega
    have hpow : 2 ^ (shift + 2 - 1) = 2 ^ shift * 2 := Nat.pow_succ 2 shift
    rw [if_neg (by omega), hdiv, hmod, hpow]
    omega

/-- Every rank stands among such multiples, and so does the next one. -/
theorem exists_eq_add (rank : Nat) :
    ∃ shift multiple, rank = shift * 2 ^ 52 + multiple ∧ multiple < 2 ^ 53 ∧ (shift = 0 ∨ 2 ^ 52 ≤ multiple) := by
  rcases Nat.lt_or_ge rank (2 ^ 52) with hsmall | hlarge
  · exact ⟨0, rank, by omega, by omega, .inl rfl⟩
  · exact ⟨rank / 2 ^ 52 - 1, 2 ^ 52 + rank % 2 ^ 52, by omega, by omega, .inr (by omega)⟩

theorem units_strictMono : StrictMono units := by
  refine strictMono_nat_of_lt_succ fun rank => ?_
  obtain ⟨shift, multiple, rfl, hlt, h⟩ := exists_eq_add rank
  rw [Nat.add_assoc, units_add (Nat.le_of_lt hlt) h, units_add hlt (by omega)]
  exact Nat.mul_lt_mul_of_pos_right (Nat.lt_succ_self _) (Nat.two_pow_pos _)

/-! ## Rounding to integers -/

section Halves

variable {num den rest : Nat}

theorem div_eq_quotient_add_rest (num : Nat) (h : 0 < den) :
    (num : ℚ) / den = (num / den : ℕ) + (num % den : ℕ) / den := by
  have hden : (den : ℚ) ≠ 0 := Nat.cast_ne_zero.mpr h.ne'
  rw [div_eq_iff hden, add_mul, div_mul_cancel₀ _ hden]
  exact_mod_cast (Nat.div_add_mod' num den).symm

theorem div_lt_half_iff (h : 0 < den) : (rest : ℚ) / den < 1 / 2 ↔ 2 * rest < den := by
  rw [div_lt_div_iff₀ (Nat.cast_pos.mpr h) two_pos, one_mul, mul_comm]
  exact_mod_cast Iff.rfl

theorem half_lt_div_iff (h : 0 < den) : 1 / 2 < (rest : ℚ) / den ↔ den < 2 * rest := by
  rw [div_lt_div_iff₀ two_pos (Nat.cast_pos.mpr h), one_mul, mul_comm (rest : ℚ)]
  exact_mod_cast Iff.rfl

/-- The rounded quotient is at most one half away from the quotient, and at that distance it is even. -/
theorem roundHalfEven_near (num : Nat) (h : 0 < den) :
    |(num : ℚ) / den - roundHalfEven num den| ≤ 1 / 2 ∧
      (|(num : ℚ) / den - roundHalfEven num den| = 1 / 2 → roundHalfEven num den % 2 = 0) := by
  have hrest : num % den < den := Nat.mod_lt num h
  rw [div_eq_quotient_add_rest num h, roundHalfEven]
  generalize num / den = quotient
  generalize num % den = rest at *
  have hnonneg : (0 : ℚ) ≤ (rest : ℚ) / den := div_nonneg (Nat.cast_nonneg _) (Nat.cast_nonneg _)
  split
  · rename_i hlt
    have hhalf := (div_lt_half_iff h).mpr hlt
    rw [add_sub_cancel_left, abs_of_nonneg hnonneg]
    exact ⟨hhalf.le, fun heq => absurd heq hhalf.ne⟩
  split
  · rename_i hgt
    have hhalf := (half_lt_div_iff h).mpr hgt
    have hone : (rest : ℚ) / den < 1 := (div_lt_one (Nat.cast_pos.mpr h)).mpr (Nat.cast_lt.mpr hrest)
    have hdist : (quotient : ℚ) + rest / den - (quotient + 1 : ℕ) = -(1 - rest / den) := by
      push_cast
      ring
    rw [hdist, abs_neg, abs_of_nonneg (by linarith)]
    exact ⟨by linarith, fun heq => by linarith⟩
  · rename_i hlt hgt
    have hle : (rest : ℚ) / den ≤ 1 / 2 := not_lt.mp fun h' => hgt ((half_lt_div_iff h).mp h')
    have hge : 1 / 2 ≤ (rest : ℚ) / den := not_lt.mp fun h' => hlt ((div_lt_half_iff h).mp h')
    have hhalf : (rest : ℚ) / den = 1 / 2 := le_antisymm hle hge
    rw [hhalf]
    refine ⟨?_, fun _ => by omega⟩
    rcases Nat.mod_two_eq_zero_or_one quotient with heven | hodd
    · rw [heven]
      norm_num
    · rw [hodd]
      push_cast
      rw [add_sub_add_left_eq_sub]
      norm_num [abs_le]

end Halves

section Near

variable {x : ℚ} {rounded bound : Nat}

/-- Rounding to an integer does not go over an integer. -/
theorem le_of_near (hnear : |x - rounded| ≤ 1 / 2) (hlt : x < bound) : rounded ≤ bound := by
  have hcast : (rounded : ℚ) < (bound + 1 : ℕ) := by
    push_cast
    linarith [(abs_le.mp hnear).1]
  exact Nat.le_of_lt_succ (Nat.cast_lt.mp hcast)

theorem le_rounded_of_near (hnear : |x - rounded| ≤ 1 / 2) (hge : (bound : ℚ) ≤ x) : bound ≤ rounded := by
  have hcast : (bound : ℚ) < (rounded + 1 : ℕ) := by
    push_cast
    linarith [(abs_le.mp hnear).2]
  exact Nat.le_of_lt_succ (Nat.cast_lt.mp hcast)

end Near

/-! ## The nearest magnitude -/

/-- The least positive magnitude. -/
def unit : ℚ := (2 ^ 1074)⁻¹

/-- The value of a magnitude. -/
def magnitude (rank : Nat) : ℚ :=
  units rank * unit

theorem unit_pos : 0 < unit :=
  inv_pos.mpr (pow_pos two_pos _)

theorem cast_pow_mul_inv (n : Nat) : ((Nat.pow 2 n : ℕ) : ℚ) * (2 ^ n)⁻¹ = 1 := by
  rw [Nat.pow_eq, Nat.cast_pow, Nat.cast_ofNat]
  exact mul_inv_cancel₀ (pow_pos two_pos n).ne'

theorem cast_pow_mul_unit : ((Nat.pow 2 1074 : ℕ) : ℚ) * unit = 1 := by
  unfold unit
  generalize 1074 = n
  exact cast_pow_mul_inv n

/-- The magnitude of this rank is nearest to `x`, and if another one is as near, this rank is even. -/
structure Nearest (x : ℚ) (rank : Nat) : Prop where
  le : ∀ other, |x - magnitude rank| ≤ |x - magnitude other|
  even : ∀ other, other ≠ rank → |x - magnitude rank| = |x - magnitude other| → rank % 2 = 0

theorem magnitude_strictMono : StrictMono magnitude := fun _ _ h =>
  mul_lt_mul_of_pos_right (Nat.cast_lt.mpr (units_strictMono h)) unit_pos

/-- A magnitude is its own nearest one. -/
theorem nearest_magnitude (rank : Nat) : Nearest (magnitude rank) rank where
  le other := by
    rw [sub_self, abs_zero]
    exact abs_nonneg _
  even other hne heq := by
    rw [sub_self, abs_zero, eq_comm, abs_eq_zero, sub_eq_zero] at heq
    exact absurd (magnitude_strictMono.injective heq).symm hne

/-- There is no other nearest magnitude: between two even ranks another one stands, which would be nearer than both. -/
theorem Nearest.unique {x : ℚ} {a b : Nat} (ha : Nearest x a) (hb : Nearest x b) : a = b := by
  by_contra hne
  wlog hlt : a < b generalizing a b
  · exact this hb ha (Ne.symm hne) (by omega)
  have heq : |x - magnitude a| = |x - magnitude b| := le_antisymm (ha.le b) (hb.le a)
  have haeven := ha.even b (Ne.symm hne) heq
  have hbeven := hb.even a hne heq.symm
  have hleft : magnitude a < magnitude (a + 1) := magnitude_strictMono (Nat.lt_succ_self a)
  have hright : magnitude (a + 1) < magnitude b := magnitude_strictMono (by omega)
  have hmiddle : x - magnitude a = magnitude b - x := by
    rcases abs_eq_abs.mp heq with h | h
    · linarith
    · linarith
  refine absurd (ha.le (a + 1)) (not_le.mpr ?_)
  rw [abs_of_pos (by linarith : 0 < x - magnitude a), abs_lt]
  constructor <;> linarith

/-- It is enough to know how far the neighbours are. Below, they may also be nearer, if `x` is not there. -/
theorem nearest_of_gap {x : ℚ} {rank : Nat} (gap : ℚ) (hnear : |x - magnitude rank| ≤ gap / 2)
    (heven : |x - magnitude rank| = gap / 2 → rank % 2 = 0) (habove : magnitude rank + gap ≤ magnitude (rank + 1))
    (hbelow : ∀ lower, lower + 1 = rank → magnitude lower + gap ≤ magnitude rank ∨ magnitude rank ≤ x) :
    Nearest x rank := by
  obtain ⟨hlow, hhigh⟩ := abs_le.mp hnear
  have hfar : ∀ other, other ≠ rank →
      |x - magnitude rank| < |x - magnitude other| ∨ gap / 2 ≤ |x - magnitude other| := by
    intro other hne
    rcases Nat.lt_or_gt_of_ne hne with hlt | hgt
    · have hdist : x - magnitude other ≤ |x - magnitude other| := le_abs_self _
      have hmono : magnitude other ≤ magnitude (rank - 1) := magnitude_strictMono.monotone (by omega)
      rcases hbelow (rank - 1) (by omega) with h | h
      · right
        linarith
      · left
        rw [abs_of_nonneg (by linarith : 0 ≤ x - magnitude rank)]
        have hlt := magnitude_strictMono hlt
        linarith
    · right
      have hdist : -(x - magnitude other) ≤ |x - magnitude other| := neg_le_abs _
      have hmono : magnitude (rank + 1) ≤ magnitude other := magnitude_strictMono.monotone hgt
      linarith
  refine ⟨fun other => ?_, fun other hne heq => ?_⟩
  · by_cases hne : other = rank
    · rw [hne]
    · rcases hfar other hne with h | h
      · exact h.le
      · exact hnear.trans h
  · rcases hfar other hne with h | h
    · exact absurd heq h.ne
    · exact heven (le_antisymm hnear (heq ▸ h))

/-! ## Quotients -/

section Steps

variable {shift multiple : Nat}

theorem magnitude_add (hle : multiple ≤ 2 ^ 53) (h : shift = 0 ∨ 2 ^ 52 ≤ multiple) :
    magnitude (shift * 2 ^ 52 + multiple) = multiple * (2 ^ shift * unit) := by
  rw [magnitude, units_add hle h, Nat.cast_mul, Nat.cast_pow, Nat.cast_ofNat, mul_assoc]

/-- The next magnitude is at least one step away; at a power of two it is two. -/
theorem magnitude_add_succ (hle : multiple ≤ 2 ^ 53) (h : shift = 0 ∨ 2 ^ 52 ≤ multiple) :
    (multiple + 1) * (2 ^ shift * unit) ≤ magnitude (shift * 2 ^ 52 + multiple + 1) := by
  rcases Nat.lt_or_ge multiple (2 ^ 53) with hlt | hge
  · rw [Nat.add_assoc, magnitude_add hlt (by omega), Nat.cast_succ]
  · obtain rfl : multiple = 2 ^ 53 := by omega
    have hcarry : shift * 2 ^ 52 + 2 ^ 53 + 1 = (shift + 1) * 2 ^ 52 + (2 ^ 52 + 1) := by omega
    have hstep : 0 < 2 ^ shift * unit := mul_pos (pow_pos two_pos _) unit_pos
    have hdouble : (2 : ℚ) ^ (shift + 1) * unit = 2 * (2 ^ shift * unit) := by ring
    rw [hcarry, magnitude_add (by decide) (.inr (by decide)), hdouble]
    push_cast
    linarith

/-- The nearest multiple of a step is the nearest magnitude, if the step fits the size of `x`. -/
theorem nearest_of_multiple {quotient : ℚ} (hnear : |quotient - multiple| ≤ 1 / 2)
    (heven : |quotient - multiple| = 1 / 2 → multiple % 2 = 0) (hlt : quotient < (2 ^ 53 : ℕ))
    (hge : shift = 0 ∨ ((2 ^ 52 : ℕ) : ℚ) ≤ quotient) :
    Nearest (quotient * (2 ^ shift * unit)) (shift * 2 ^ 52 + multiple) := by
  have hstep : 0 < 2 ^ shift * unit := mul_pos (pow_pos two_pos _) unit_pos
  have hmultiple : multiple ≤ 2 ^ 53 := le_of_near hnear hlt
  have hlarge : shift = 0 ∨ 2 ^ 52 ≤ multiple := hge.imp_right (le_rounded_of_near hnear)
  have hvalue := magnitude_add hmultiple hlarge
  have hdist : |quotient * (2 ^ shift * unit) - magnitude (shift * 2 ^ 52 + multiple)| =
      |quotient - multiple| * (2 ^ shift * unit) := by
    rw [hvalue, ← sub_mul, abs_mul, abs_of_pos hstep]
  refine nearest_of_gap (2 ^ shift * unit) ?_ (fun heq => ?_) ?_ fun lower hlower => ?_
  · rw [hdist]
    linarith [mul_le_mul_of_nonneg_right hnear hstep.le]
  · have hhalf : |quotient - multiple| = 1 / 2 := by
      rw [hdist] at heq
      exact mul_right_cancel₀ hstep.ne' (by linarith)
    have := heven hhalf
    omega
  · rw [hvalue, ← add_one_mul]
    exact magnitude_add_succ hmultiple hlarge
  · by_cases hmiddle : shift = 0 ∨ 2 ^ 52 < multiple
    · left
      obtain ⟨before, rfl⟩ : ∃ before, multiple = before + 1 := ⟨multiple - 1, by omega⟩
      obtain rfl : lower = shift * 2 ^ 52 + before := by omega
      rw [magnitude_add (by omega) (by omega), hvalue, Nat.cast_succ, add_one_mul]
    · right
      obtain rfl : multiple = 2 ^ 52 := by omega
      rw [hvalue]
      exact mul_le_mul_of_nonneg_right (hge.resolve_left (by omega)) hstep.le

end Steps

section Shifted

variable {num den shift : Nat}

/-- The shift leaves no more than 53 binary digits before the point. -/
theorem shifted_lt (hden : 0 < den) (hshift : (num / den).log2 - 52 = shift) :
    (num : ℚ) / (den * 2 ^ shift : ℕ) < (2 ^ 53 : ℕ) := by
  rw [div_lt_iff₀ (Nat.cast_pos.mpr (Nat.mul_pos hden (Nat.two_pow_pos _)))]
  have hlog : num / den < 2 ^ (53 + shift) :=
    Nat.lt_of_lt_of_le Nat.lt_log2_self (Nat.pow_le_pow_right (by decide) (by omega))
  rw [Nat.div_lt_iff_lt_mul hden, Nat.pow_add, Nat.mul_assoc, Nat.mul_comm _ den] at hlog
  exact_mod_cast hlog

/-- If it takes any away, it leaves 53. -/
theorem le_shifted (hden : 0 < den) (hshift : (num / den).log2 - 52 = shift) :
    shift = 0 ∨ ((2 ^ 52 : ℕ) : ℚ) ≤ num / (den * 2 ^ shift : ℕ) := by
  rcases Nat.eq_zero_or_pos shift with hzero | hpos
  · exact .inl hzero
  · right
    rw [le_div_iff₀ (Nat.cast_pos.mpr (Nat.mul_pos hden (Nat.two_pow_pos _)))]
    have hne : num / den ≠ 0 := fun hzero => by
      rw [hzero, Nat.log2_zero] at hshift
      omega
    have hlog : 2 ^ (52 + shift) ≤ num / den :=
      Nat.le_trans (Nat.pow_le_pow_right (by decide) (by omega)) (Nat.log2_self_le hne)
    rw [Nat.le_div_iff_mul_le hden, Nat.pow_add, Nat.mul_assoc, Nat.mul_comm _ den] at hlog
    exact_mod_cast hlog

/-- **The quotient is rounded to the nearest magnitude**, halfway between two to the one of even rank. -/
theorem nearest_nearestRank (hden : 0 < den) : Nearest (num / den) (nearestRank num den) := by
  have hunit := cast_pow_mul_unit
  unfold nearestRank
  generalize Nat.pow 2 1074 = scale at *
  generalize hscaled : num * scale = scaled
  dsimp only
  generalize hshift : (scaled / den).log2 - 52 = shift
  rw [Nat.pow_eq, Nat.pow_eq]
  have hvalue : (num : ℚ) / den = scaled / (den * 2 ^ shift : ℕ) * (2 ^ shift * unit) := by
    rw [← hscaled]
    push_cast
    calc (num : ℚ) / den = num / den * (scale * unit) := by rw [hunit, mul_one]
      _ = num * scale / (den * 2 ^ shift) * (2 ^ shift * unit) := by field_simp
  obtain ⟨hnear, heven⟩ := roundHalfEven_near scaled (Nat.mul_pos hden (Nat.two_pow_pos shift))
  rw [hvalue]
  exact nearest_of_multiple hnear heven (shifted_lt hden hshift) (le_shifted hden hshift)

end Shifted

/-! ## The end of the finite numbers -/

theorem step_unit : (2 : ℚ) ^ 2045 * unit = 2 * 2 ^ 970 := by
  have hpow : (2 : ℚ) ^ 2045 = 2 * 2 ^ 970 * 2 ^ 1074 := by rw [← pow_succ', ← pow_add]
  rw [hpow, unit, mul_assoc, mul_inv_cancel₀ (pow_pos two_pos _).ne', mul_one]

theorem magnitude_rankLimit : magnitude rankLimit = 2 ^ 1024 := by
  have hrank : rankLimit = 2045 * 2 ^ 52 + 2 ^ 53 := by decide
  have hpow : (2 : ℚ) ^ 1024 = 2 ^ 53 * (2 * 2 ^ 970) := by rw [← pow_succ', ← pow_add]
  rw [hrank, magnitude_add (Nat.le_refl _) (.inr (by decide)), step_unit, hpow, Nat.cast_pow, Nat.cast_ofNat]

theorem magnitude_lastRank : magnitude (rankLimit - 1) = 2 ^ 1024 - 2 * 2 ^ 970 := by
  have hrank : rankLimit - 1 = 2045 * 2 ^ 52 + (2 ^ 53 - 1) := by decide
  have hpow : (2 : ℚ) ^ 1024 = 2 ^ 53 * (2 * 2 ^ 970) := by rw [← pow_succ', ← pow_add]
  rw [hrank, magnitude_add (by decide) (.inr (by decide)), step_unit, hpow, Nat.cast_pred (by decide), Nat.cast_pow,
    Nat.cast_ofNat, sub_one_mul]

/-- From the middle between the last number and where the next one would be, no finite number is nearest. -/
theorem Nearest.lt_of_lt_rankLimit {x : ℚ} {rank : Nat} (h : Nearest x rank) (hlt : rank < rankLimit) :
    x < 2 ^ 1024 - 2 ^ 970 := by
  have htop := magnitude_rankLimit
  have hlast := magnitude_lastRank
  have hhalf : (0 : ℚ) < 2 ^ 970 := pow_pos two_pos _
  generalize (2 : ℚ) ^ 1024 = top at *
  generalize (2 : ℚ) ^ 970 = half at *
  by_contra hge
  rw [not_lt] at hge
  have hrank : magnitude rank ≤ magnitude (rankLimit - 1) := magnitude_strictMono.monotone (by omega)
  have hdist : |x - magnitude rank| = x - magnitude rank := abs_of_nonneg (by linarith)
  have hle := h.le rankLimit
  have htie : |x - magnitude rankLimit| ≤ half := by
    rw [htop, abs_le]
    rw [hdist, htop] at hle
    refine ⟨by linarith, ?_⟩
    by_contra hfar
    rw [abs_of_nonneg (by linarith)] at hle
    linarith
  -- only the last number is as near, and its rank is odd
  have heq : magnitude rank = magnitude (rankLimit - 1) := by linarith
  obtain rfl := magnitude_strictMono.injective heq
  have heven := h.even rankLimit (by decide) (by linarith)
  exact absurd heven (by decide)

/-- Below the middle, the last number is nearer than any that would follow. -/
theorem Nearest.lt_rankLimit {x : ℚ} {rank : Nat} (h : Nearest x rank) (hlt : x < 2 ^ 1024 - 2 ^ 970) :
    rank < rankLimit := by
  have htop := magnitude_rankLimit
  have hlast := magnitude_lastRank
  have hhalf : (0 : ℚ) < 2 ^ 970 := pow_pos two_pos _
  generalize (2 : ℚ) ^ 1024 = top at *
  generalize (2 : ℚ) ^ 970 = half at *
  by_contra hge
  have hrank : magnitude rankLimit ≤ magnitude rank := magnitude_strictMono.monotone (by omega)
  have hle := h.le (rankLimit - 1)
  have hdist : |x - magnitude rank| = magnitude rank - x := by
    rw [abs_sub_comm]
    exact abs_of_nonneg (by linarith)
  rcases abs_cases (x - magnitude (rankLimit - 1)) with ⟨habs, -⟩ | ⟨habs, -⟩ <;> linarith

/-- The finite numbers end halfway between the last one and where the next one would be. -/
theorem Nearest.lt_rankLimit_iff {x : ℚ} {rank : Nat} (h : Nearest x rank) :
    rank < rankLimit ↔ x < 2 ^ 1024 - 2 ^ 970 :=
  ⟨h.lt_of_lt_rankLimit, h.lt_rankLimit⟩

/-! ## Finite numbers -/

theorem magnitude_zero : magnitude 0 = 0 := by
  simp [magnitude, units]

theorem magnitude_nonneg (rank : Nat) : 0 ≤ magnitude rank :=
  mul_nonneg (Nat.cast_nonneg _) unit_pos.le

/-- The number with this magnitude and sign. -/
def signed (negative : Bool) (x : ℚ) : ℚ :=
  if negative then -x else x

/-- No finite number is nearer to `x` than this one, and if one of another value is as near, this rank is even. -/
structure NearestFinite (x : ℚ) (negative : Bool) (rank : Fin rankLimit) : Prop where
  le : ∀ negative' (rank' : Fin rankLimit),
    |x - signed negative (magnitude rank)| ≤ |x - signed negative' (magnitude rank')|
  even : ∀ negative' (rank' : Fin rankLimit), signed negative' (magnitude rank') ≠ signed negative (magnitude rank) →
    |x - signed negative (magnitude rank)| = |x - signed negative' (magnitude rank')| → rank.val % 2 = 0

theorem abs_signed_sub (negative : Bool) (x y : ℚ) : |signed negative x - signed negative y| = |x - y| := by
  cases negative with
  | false => rfl
  | true => rw [signed, signed, if_pos rfl, if_pos rfl, neg_sub_neg, abs_sub_comm]

/-- Numbers of different sign are as far from each other as their magnitudes together. -/
theorem abs_signed_sub_of_ne {a b : Bool} (hne : a ≠ b) {x y : ℚ} (hx : 0 ≤ x) (hy : 0 ≤ y) :
    |signed a x - signed b y| = x + y := by
  cases a <;> cases b
  · exact absurd rfl hne
  · rw [signed, signed, if_neg Bool.false_ne_true, if_pos rfl, sub_neg_eq_add, abs_of_nonneg (add_nonneg hx hy)]
  · rw [signed, signed, if_neg Bool.false_ne_true, if_pos rfl, ← neg_add', abs_neg, abs_of_nonneg (add_nonneg hx hy)]
  · exact absurd rfl hne

/-- Among the numbers of both signs, the nearest one has the sign of `x` and the nearest magnitude. -/
theorem Nearest.nearestFinite {x : ℚ} (hx : 0 ≤ x) {rank : Fin rankLimit} (h : Nearest x rank) (negative : Bool) :
    NearestFinite (signed negative x) negative rank := by
  have habs : |x - magnitude 0| = x := by rw [magnitude_zero, sub_zero, abs_of_nonneg hx]
  refine ⟨fun negative' rank' => ?_, fun negative' rank' hne heq => ?_⟩
  · rw [abs_signed_sub]
    by_cases hsign : negative = negative'
    · rw [← hsign, abs_signed_sub]
      exact h.le rank'
    · rw [abs_signed_sub_of_ne hsign hx (magnitude_nonneg _)]
      have hzero := h.le 0
      have hnonneg := magnitude_nonneg rank'
      linarith
  · rw [abs_signed_sub] at heq
    by_cases hsign : negative = negative'
    · subst hsign
      rw [abs_signed_sub] at heq
      exact h.even rank' (fun hrank => hne (by rw [hrank])) heq
    · -- across zero only zero itself is as near
      rw [abs_signed_sub_of_ne hsign hx (magnitude_nonneg _)] at heq
      have hzero := h.le 0
      have hnonneg := magnitude_nonneg rank'
      rcases Nat.eq_zero_or_pos rank.val with hrank | hpos
      · rw [hrank]
      · exact h.even 0 hpos.ne (by linarith)

end ShipManifest.Binary64
