import ShipManifest.Decimal.Basic
import ShipManifest.Proofs.NearestRanks

/-!
# Decimals round to the nearest number

The shortcuts for long exponents are right: there, the decimal is below half the least magnitude, or beyond every finite
one (`Decimal.nearestRank_cases`). So a decimal has a finite rank exactly if it lies before the end of the finite
numbers (`Decimal.nearestRank_lt_iff`), and that rank depends on its value only (`Decimal.nearestRank_eq_iff`).
-/

namespace ShipManifest

namespace Binary64

/-- Below half the least magnitude, zero is the nearest one. -/
theorem nearest_zero {x : ℚ} (hnonneg : 0 ≤ x) (hlt : x < unit / 2) : Nearest x 0 := by
  have habs : |x - magnitude 0| = x := by rw [magnitude_zero, sub_zero, abs_of_nonneg hnonneg]
  have hone : magnitude 1 = unit := by
    rw [magnitude, show units 1 = 1 from rfl, Nat.cast_one, one_mul]
  refine nearest_of_gap unit ?_ (fun _ => rfl) ?_ fun lower hlower => absurd hlower (Nat.succ_ne_zero lower)
  · rw [habs]
    exact hlt.le
  · rw [magnitude_zero, zero_add, hone]

end Binary64

namespace Decimal

open Binary64 (magnitude unit Nearest)

/-! ## Values -/

/-- The value of a decimal. -/
def value (d : Decimal) : ℚ :=
  d.digits * 10 ^ d.exponent

theorem value_nonneg (d : Decimal) : 0 ≤ d.value :=
  mul_nonneg (Nat.cast_nonneg _) (zpow_nonneg (by norm_num) _)

theorem value_ofNat (digits e : Nat) : value ⟨digits, .ofNat e⟩ = (digits * 10 ^ e : ℕ) := by
  simp [value]

theorem value_negSucc (digits e : Nat) : value ⟨digits, .negSucc e⟩ = digits / (10 ^ (e + 1) : ℕ) := by
  simp [value, zpow_negSucc, div_eq_mul_inv]

/-! ## Long exponents -/

theorem two_pow_le_of_le {digits e n : Nat} (hdigits : digits ≠ 0) (h : n ≤ digits.log2 + 3 * e) :
    2 ^ n ≤ digits * 10 ^ e :=
  calc 2 ^ n ≤ 2 ^ (digits.log2 + 3 * e) := Nat.pow_le_pow_right (by decide) h
    _ = 2 ^ digits.log2 * 8 ^ e := by rw [Nat.pow_add, Nat.pow_mul]
    _ ≤ digits * 10 ^ e := Nat.mul_le_mul (Nat.log2_self_le hdigits) (Nat.pow_le_pow_left (by decide) e)

theorem mul_two_pow_lt_of_le {digits e n : Nat} (h : digits.log2 + (n + 1) ≤ 3 * e) : digits * 2 ^ n < 10 ^ e :=
  calc digits * 2 ^ n < 2 ^ (digits.log2 + 1) * 2 ^ n :=
        Nat.mul_lt_mul_of_pos_right Nat.lt_log2_self (Nat.two_pow_pos n)
    _ = 2 ^ (digits.log2 + (n + 1)) := by rw [← Nat.pow_add, Nat.add_right_comm, Nat.add_assoc]
    _ ≤ 2 ^ (3 * e) := Nat.pow_le_pow_right (by decide) h
    _ = 8 ^ e := by rw [Nat.pow_mul]
    _ ≤ 10 ^ e := Nat.pow_le_pow_left (by decide) e

/-- A decimal with a long positive exponent is beyond the finite numbers. -/
theorem two_pow_le_value {digits e : Nat} (hdigits : digits ≠ 0) (h : 1024 ≤ digits.log2 + 3 * e) :
    2 ^ 1024 ≤ value ⟨digits, .ofNat e⟩ := by
  rw [value_ofNat]
  generalize 1024 = n at *
  exact_mod_cast two_pow_le_of_le hdigits h

/-- A decimal with a long negative exponent is below half the least magnitude. -/
theorem value_lt_half_unit {digits e : Nat} (h : digits.log2 + 1076 ≤ 3 * (e + 1)) :
    value ⟨digits, .negSucc e⟩ < unit / 2 := by
  have hhalf : unit / 2 = (2 ^ (1074 + 1) : ℚ)⁻¹ := by rw [pow_succ, mul_inv, unit, div_eq_mul_inv]
  have hlog : digits.log2 + (1074 + 1 + 1) ≤ 3 * (e + 1) := h
  rw [value_negSucc, hhalf, div_lt_iff₀ (Nat.cast_pos.mpr (Nat.pow_pos (by decide))), ← div_eq_inv_mul,
    lt_div_iff₀ (pow_pos two_pos _)]
  generalize 1074 + 1 = n at *
  exact_mod_cast mul_two_pow_lt_of_le hlog

/-! ## Ranks -/

/-- The rank is that of the nearest magnitude, unless it is set behind the finite ones, and then the decimal is, too. -/
theorem nearestRank_cases (d : Decimal) :
    Nearest d.value d.nearestRank ∨ d.nearestRank = rankLimit ∧ 2 ^ 1024 ≤ d.value := by
  obtain ⟨digits, exponent⟩ := d
  by_cases hzero : digits = 0
  · left
    have hvalue : value ⟨digits, exponent⟩ = magnitude 0 := by
      rw [value, Binary64.magnitude_zero, hzero, Nat.cast_zero, zero_mul]
    rw [hvalue, nearestRank, if_pos hzero]
    exact Binary64.nearest_magnitude 0
  cases exponent with
  | ofNat e =>
    simp only [nearestRank, if_neg hzero]
    split
    · rename_i hlong
      exact .inr ⟨rfl, two_pow_le_value hzero hlong⟩
    · left
      rw [value_ofNat, ← div_one ((digits * 10 ^ e : ℕ) : ℚ), ← Nat.cast_one]
      exact Binary64.nearest_nearestRank Nat.one_pos
  | negSucc e =>
    left
    simp only [nearestRank, if_neg hzero]
    split
    · rename_i hlong
      exact Binary64.nearest_zero (value_nonneg _) (value_lt_half_unit hlong)
    · rw [value_negSucc]
      exact Binary64.nearest_nearestRank (Nat.pow_pos (by decide))

/-- The rank is finite exactly before the end of the finite numbers. -/
theorem nearestRank_lt_iff (d : Decimal) : d.nearestRank < rankLimit ↔ d.value < 2 ^ 1024 - 2 ^ 970 := by
  rcases nearestRank_cases d with h | ⟨hrank, hvalue⟩
  · exact h.lt_rankLimit_iff
  · have hhalf : (0 : ℚ) < 2 ^ 970 := pow_pos two_pos _
    rw [hrank]
    exact iff_of_false (Nat.lt_irrefl _) (not_lt.mpr ((sub_lt_self _ hhalf).le.trans hvalue))

theorem nearest_of_lt {d : Decimal} (h : d.nearestRank < rankLimit) : Nearest d.value d.nearestRank :=
  (nearestRank_cases d).resolve_right fun hlimit => h.ne hlimit.1

/-- A finite rank is told by the value. -/
theorem nearestRank_eq_iff {d : Decimal} {rank : Nat} (h : rank < rankLimit) :
    d.nearestRank = rank ↔ Nearest d.value rank := by
  constructor
  · rintro rfl
    exact nearest_of_lt h
  · intro hrank
    have hlt : d.nearestRank < rankLimit := (nearestRank_lt_iff d).mpr (hrank.lt_rankLimit_iff.mp h)
    exact (nearest_of_lt hlt).unique hrank

end Decimal

end ShipManifest
