import ShipManifest.Proofs.AgesRead

/-!
# Ages are written so that they read back

The digits of a finite magnitude are a decimal that rounds to it (`Decimal.nearest_shortest`): whatever the search finds
was read back, the exact decimal, which stands in where nothing is found, is the magnitude itself, and zeros that are
dropped from the end do not count. In their places, the digits are a numeral that writes just this decimal
(`Numeral.writes_positional`), so they are read as it.

Main statement: `Age.text_reads_back`.
-/

namespace ShipManifest

/-! ## Digits that read back -/

namespace Decimal

open Binary64 (magnitude unit Nearest)

/-- Zeros at the end of the digits may go into the exponent. -/
theorem value_reduce (d : Decimal) : d.reduce.value = d.value := by
  induction d using reduce.induct with
  | case1 d h ih =>
    have hdigits : d.digits = d.digits / 10 * 10 := by omega
    rw [reduce, dif_pos h, ih, value, value, zpow_add_one₀ (by norm_num)]
    conv_rhs => rw [hdigits]
    push_cast
    ring
  | case2 d h => rw [reduce, dif_neg h]

/-- What the grid gives reads back. -/
theorem nearestRank_of_gridPoint? {tie : TieRule} {rank : Nat} {exponent : Int} {d : Decimal}
    (h : gridPoint? tie rank exponent = some d) : d.nearestRank = rank := by
  simp only [gridPoint?] at h
  generalize Nat.pow 2 1074 * Nat.pow 10 exponent.toNat = den at h
  generalize Binary64.units rank * Nat.pow 10 (-exponent).toNat = num at h
  split at h
  · rename_i hlow hhigh
    have hboth : d = ⟨num / den, exponent⟩ ∨ d = ⟨num / den + 1, exponent⟩ := by
      repeat' split at h
      all_goals simp [← Option.some.inj h]
    rcases hboth with rfl | rfl
    · exact eq_of_beq hlow
    · exact eq_of_beq hhigh
  · rename_i hlow _
    rw [← Option.some.inj h]
    exact eq_of_beq hlow
  · rename_i _ hhigh
    rw [← Option.some.inj h]
    exact eq_of_beq hhigh
  · cases h

theorem mul_five_pow (units n : Nat) :
    ((units * Nat.pow 5 n : ℕ) : ℚ) * 10 ^ (-(n : Int)) = units * (2 ^ n)⁻¹ := by
  have hten : (10 : ℚ) ^ n = 5 ^ n * 2 ^ n := by rw [← mul_pow]; norm_num
  have hfive : (5 : ℚ) ^ n ≠ 0 := pow_ne_zero n (by norm_num)
  rw [Nat.pow_eq, Nat.cast_mul, Nat.cast_pow, Nat.cast_ofNat, zpow_neg, zpow_natCast, hten, mul_inv, mul_assoc,
    mul_inv_cancel_left₀ hfive]

/-- The exact decimal of a magnitude. -/
theorem value_exact (rank : Nat) : (exact rank).value = magnitude rank := by
  have hexponent : (-1074 : Int) = -((1074 : ℕ) : Int) := rfl
  unfold exact value magnitude unit
  rw [hexponent]
  generalize 1074 = n
  exact mul_five_pow _ n

/-- The shortest digits of a finite magnitude round to it, whichever neighbour is taken of two. -/
theorem nearest_shortest (tie : TieRule) {rank : Nat} (h : rank < rankLimit) :
    Nearest (shortest tie rank).value rank := by
  rw [shortest]
  split
  · rename_i hzero
    have hvalue : value ⟨0, 0⟩ = magnitude 0 := by simp [value, Binary64.magnitude_zero]
    rw [hvalue, hzero]
    exact Binary64.nearest_magnitude 0
  · rw [value_reduce]
    cases hgrid : List.findSome? _ _ with
    | none =>
      rw [Option.getD_none, value_exact]
      exact Binary64.nearest_magnitude rank
    | some d =>
      obtain ⟨n, -, hpoint⟩ := List.exists_of_findSome?_eq_some hgrid
      exact (nearestRank_eq_iff h).mp (nearestRank_of_gridPoint? hpoint)

end Decimal

/-! ## Digits in their places -/

namespace Numeral

open Decimal (value)

theorem digits_toDigits (n : Nat) : Digits (Nat.toDigits 10 n) := fun _ hc =>
  Nat.isDigit_of_mem_toDigits (by decide) (by decide) hc

theorem digits_zeros (n : Nat) : Digits (List.replicate n '0') := fun c hc => by
  rw [List.eq_of_mem_replicate hc]
  rfl

theorem ofDigits_append_zeros (cs : List Char) (n : Nat) :
    ofDigits (cs ++ List.replicate n '0') = ofDigits cs * 10 ^ n := by
  rw [ofDigits, Nat.ofDigitChars_append, Nat.ofDigitChars_replicate_zero, Nat.mul_comm]
  rfl

theorem ofDigits_zeros_append (n : Nat) (cs : List Char) : ofDigits (List.replicate n '0' ++ cs) = ofDigits cs := by
  rw [ofDigits, Nat.ofDigitChars_append, Nat.ofDigitChars_replicate_zero, Nat.mul_zero]
  rfl

theorem ofDigits_toDigits (n : Nat) : ofDigits (Nat.toDigits 10 n) = n :=
  Nat.ofDigitChars_ten_toDigits

/-- The digits of a decimal are places, and as many stand behind the point as its exponent says. -/
theorem places_positional (d : Decimal) : ∃ whole fraction, Places d.positional whole fraction ∧
    whole ++ fraction ≠ [] ∧ value ⟨ofDigits (whole ++ fraction), 0 - fraction.length⟩ = d.value := by
  obtain ⟨digits, exponent⟩ := d
  have hne : Nat.toDigits 10 digits ≠ [] := Nat.toDigits_ne_nil
  cases exponent with
  | ofNat e =>
    simp only [Decimal.positional]
    split
    · rename_i hzero
      refine ⟨_, [], .whole (digits_toDigits digits), by simp [hne], ?_⟩
      rw [List.append_nil, ofDigits_toDigits, value, value, hzero, Nat.cast_zero, zero_mul, zero_mul]
    · refine ⟨_, [], .whole (List.forall_mem_append.mpr ⟨digits_toDigits digits, digits_zeros e⟩), by simp [hne], ?_⟩
      rw [List.append_nil, ofDigits_append_zeros, ofDigits_toDigits]
      simp [value]
  | negSucc e =>
    simp only [Decimal.positional]
    generalize hpadded :
      List.replicate (e + 1 + 1 - (Nat.toDigits 10 digits).length) '0' ++ Nat.toDigits 10 digits = padded
    have hdigits : Digits padded := by
      rw [← hpadded]
      exact List.forall_mem_append.mpr ⟨digits_zeros _, digits_toDigits digits⟩
    -- the zeros in front leave one digit before the point
    have hlength : e + 1 < padded.length := by
      rw [← hpadded, List.length_append, List.length_replicate]
      omega
    have hnumber : ofDigits padded = digits := by rw [← hpadded, ofDigits_zeros_append, ofDigits_toDigits]
    refine ⟨_, _, .pointed (fun c hc => hdigits c (List.mem_of_mem_take hc))
      (fun c hc => hdigits c (List.mem_of_mem_drop hc)), ?_, ?_⟩
    · rw [List.take_append_drop]
      exact List.ne_nil_of_length_pos (Nat.zero_lt_of_lt hlength)
    · rw [List.take_append_drop, hnumber, List.length_drop, Nat.sub_sub_self hlength.le, zero_sub]
      rfl

/-- A decimal laid out behind a sign is a numeral, and it writes the value of the decimal. -/
theorem writes_positional {sign : List Char} {negative : Bool} (hsign : Sign sign negative) (d : Decimal) :
    Writes (sign ++ d.positional) negative d.value := by
  obtain ⟨whole, fraction, hplaces, hne, hvalue⟩ := places_positional d
  have hwrites := Writes.parts hsign hplaces hne .absent
  rwa [List.append_nil, ← value_places, hvalue] at hwrites

end Numeral

/-! ## Ages -/

namespace Age

theorem writes_text (negative : Bool) (rank : Fin rankLimit) :
    Writes (text ⟨.finite negative rank⟩) negative (Decimal.shortest .up rank).value := by
  have hsign : Numeral.Sign (if negative then ['-'] else []) negative := by
    cases negative
    · exact .absent
    · exact .minus
  refine ⟨[], _, [], ?_, rfl, rfl, Numeral.writes_positional hsign _⟩
  rw [text, String.toList_ofList, List.append_nil]
  rfl

theorem parse_text_finite (negative : Bool) (rank : Fin rankLimit) :
    parse (text ⟨.finite negative rank⟩) = ⟨.finite negative rank⟩ :=
  parse_of_writes (writes_text negative rank) (Decimal.nearest_shortest .up rank.isLt)

/-- **Ages are written so that they read back.** The text of an age is read as the same age, also where the age is not
known or is minus zero, unless it is infinite; and no age that was read is. -/
theorem text_reads_back :
    (∀ raw, parse (parse raw).text = parse raw) ∧
    ∀ a : Age, parse a.text = a ↔ ∀ negative, a.years ≠ .infinite negative := by
  have hiff : ∀ a : Age, parse a.text = a ↔ ∀ negative, a.years ≠ .infinite negative := by
    rintro ⟨years⟩
    cases years with
    | nan => exact iff_of_true (by decide) fun _ => nofun
    | infinite negative => exact iff_of_false (by cases negative <;> decide) fun h => h negative rfl
    | finite negative rank => exact iff_of_true (parse_text_finite negative rank) fun _ => nofun
  exact ⟨fun raw => (hiff _).mpr (years_parse_ne_infinite raw), hiff⟩

example : (parse " -12.50e-7 ").text = "-0.00000125" := by decide +kernel

end Age

end ShipManifest
