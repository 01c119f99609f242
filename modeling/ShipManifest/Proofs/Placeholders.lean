import ShipManifest.Proofs.Composition

/-!
# Placeholders

With paired tokens every token at an even place is read with the next one. If that one is no value it is a placeholder,
and the reader that does not pair tokens comes to it as to a key.

* Tokens read in pairs never give more directives, not even if they are read from the second one on
  (`Query.length_ofTokens_paired`).
* Behind a key that takes a value, the two readers are one place apart and do not meet again: they read differently
  (`Query.ofTokens_compact_ne`).

Main statement: both readers find the same directives exactly if no placeholder is a key
(`Query.strides_agree_iff`).
-/

namespace ShipManifest.Query

/-- No key stands behind a token at an even place that takes no value. -/
def KeepsPlaces (tokens : List (List Char)) : Prop :=
  ∀ place token next, place % 2 = 0 → tokens[place]? = some token → tokens[place + 1]? = some next →
    (Key.ofToken? token).any Key.takesValue = false → Key.ofToken? next = none

section Pairs

variable {token next : List Char} {rest : List (List Char)}

theorem keepsPlaces_short {tokens : List (List Char)} (h : tokens.length ≤ 1) : KeepsPlaces tokens := by
  intro place token next _ _ hnext _
  obtain ⟨hlt, -⟩ := List.getElem?_eq_some_iff.mp hnext
  omega

/-- The places of the tokens behind a pair are as even as before. -/
theorem keepsPlaces_cons_cons : KeepsPlaces (token :: next :: rest) ↔
    (takesNext .compact token = false → Key.ofToken? next = none) ∧ KeepsPlaces rest := by
  constructor
  · intro h
    refine ⟨fun htakes => h 0 token next rfl rfl rfl htakes, fun place token' next' heven htoken hnext => ?_⟩
    exact h (place + 2) token' next' (by omega) htoken hnext
  · rintro ⟨hfirst, hrest⟩ place token' next' heven htoken hnext htakes
    match place with
    | 0 =>
      obtain rfl : token = token' := by simpa using htoken
      obtain rfl : next = next' := by simpa using hnext
      exact hfirst htakes
    | 1 => cases heven
    | place + 2 => exact hrest place token' next' (by omega) htoken hnext htakes

/-! ## How many directives there are -/

theorem ofTokens_paired_cons :
    ofTokens .paired (token :: rest) = (directive? token rest.head?).toList ++ ofTokens .paired rest.tail := by
  cases rest with
  | nil => rw [ofTokens_last, List.head?_nil, List.tail_nil, ofTokens, List.append_nil]
  | cons next rest => exact ofTokens_pair rfl

/-- A key that takes a value makes a directive. -/
theorem directive?_of_takesNext (h : takesNext .compact token = true) (next : Option (List Char)) :
    ∃ key, directive? token next = some ⟨key, next.map String.ofList⟩ := by
  obtain ⟨key, hkey, hvalue⟩ := (Option.any_eq_true _ _).mp h
  exact ⟨key, by simp [directive?, hkey, hvalue]⟩

theorem length_directive?_le (token : List Char) (next : Option (List Char)) :
    (directive? token next).toList.length ≤ 1 := by
  cases directive? token next <;> simp

/-- Read in pairs, the tokens give no more directives, and neither do those behind the first one. Both are needed for
the induction, since a value makes the readers change places. -/
theorem length_ofTokens_paired (tokens : List (List Char)) :
    (ofTokens .paired tokens).length ≤ (ofTokens .compact tokens).length ∧
      (ofTokens .paired tokens.tail).length ≤ (ofTokens .compact tokens).length := by
  induction tokens using reading_induction Stride.compact with
  | nil => exact ⟨Nat.le_refl _, Nat.le_refl _⟩
  | alone token rest htakes ih =>
    rw [ofTokens_alone htakes, ofTokens_paired_cons, List.tail_cons, List.length_append, List.length_append]
    omega
  | last token htakes =>
    rw [ofTokens_last, ofTokens_last]
    exact ⟨Nat.le_refl _, Nat.zero_le _⟩
  | pair token next rest htakes ih =>
    obtain ⟨key, hkey⟩ := directive?_of_takesNext htakes (some next)
    have hnext := length_directive?_le next rest.head?
    rw [ofTokens_pair htakes, ofTokens_pair rfl, List.tail_cons, ofTokens_paired_cons, hkey, List.length_append,
      List.length_append, List.length_append, Option.toList_some, List.length_singleton]
    omega

/-! ## One place apart -/

/-- Where a token is the value of its own key, a key stands behind it, too. -/
theorem takesNext_of_own_value {key : Key}
    (h : directive? token (some next) = some ⟨key, some (String.ofList token)⟩) : takesNext .compact next = true := by
  obtain ⟨key', hkey, heq⟩ := Option.map_eq_some_iff.mp h
  cases hvalue : key'.takesValue with
  | false => simp [hvalue] at heq
  | true =>
    obtain ⟨-, rfl⟩ : key' = key ∧ next = token := by simpa [hvalue, String.ofList_inj] using heq
    simp [takesNext, hkey, hvalue]

/-- Behind a key that takes a value, the pairs of the one reader begin where the value of the other one stands. If they
found the same, each token would be its own value, up to the end, where one of them lacks it. -/
theorem ofTokens_compact_ne (htakes : takesNext .compact token = true) :
    ofTokens .compact (token :: rest) ≠ ofTokens .paired rest := by
  induction rest using reading_induction Stride.paired generalizing token with
  | nil =>
    obtain ⟨key, hkey⟩ := directive?_of_takesNext htakes none
    rw [ofTokens_last, hkey]
    exact List.cons_ne_nil _ _
  | alone _ _ h => cases h
  | last value =>
    obtain ⟨key, hkey⟩ := directive?_of_takesNext htakes (some value)
    rw [ofTokens_pair htakes, ofTokens_last, hkey]
    cases hvalue : directive? value none with
    | none => exact List.cons_ne_nil _ _
    | some d =>
      obtain ⟨key', -, rfl⟩ := Option.map_eq_some_iff.mp hvalue
      simp [ofTokens]
  | pair value next rest _ ih =>
    obtain ⟨key, hkey⟩ := directive?_of_takesNext htakes (some value)
    rw [ofTokens_pair htakes, ofTokens_pair rfl, hkey]
    intro heq
    cases hvalue : directive? value (some next) with
    | none =>
      have hle := (length_ofTokens_paired (next :: rest)).2
      rw [List.tail_cons, ← List.nil_append (ofTokens .paired rest), ← Option.toList_none, ← hvalue, ← heq] at hle
      exact absurd hle (Nat.not_succ_le_self _)
    | some d =>
      rw [hvalue] at heq
      obtain ⟨rfl, hrest⟩ := List.cons.inj heq
      exact ih (takesNext_of_own_value hvalue) hrest

/-- A key in the place of a placeholder is found by the one reader only. -/
theorem ofTokens_compact_ne_of_key {key : Key} (h : Key.ofToken? token = some key) :
    ofTokens .compact (token :: rest) ≠ ofTokens .paired rest := by
  cases htakes : takesNext .compact token with
  | true => exact ofTokens_compact_ne htakes
  | false =>
    have hle := (length_ofTokens_paired rest).1
    rw [ofTokens_alone htakes, directive?, h]
    intro heq
    rw [← heq] at hle
    exact absurd hle (Nat.not_succ_le_self _)

end Pairs

/-! ## Agreement -/

theorem ofTokens_agree_iff (tokens : List (List Char)) :
    ofTokens .paired tokens = ofTokens .compact tokens ↔ KeepsPlaces tokens := by
  induction tokens using reading_induction Stride.paired with
  | nil => exact iff_of_true rfl (keepsPlaces_short (Nat.zero_le _))
  | alone _ _ h => cases h
  | last token _ => exact iff_of_true (by rw [ofTokens_last, ofTokens_last]) (keepsPlaces_short (Nat.le_refl _))
  | pair token next rest _ ih =>
    rw [keepsPlaces_cons_cons, ← ih, ofTokens_pair rfl]
    cases htakes : takesNext .compact token with
    | true => simp [ofTokens_pair htakes]
    | false =>
      rw [ofTokens_alone htakes, List.head?_cons, List.append_cancel_left_eq]
      cases hnext : Key.ofToken? next with
      | none =>
        have halone : takesNext .compact next = false := by simp [takesNext, hnext]
        simp [ofTokens_alone halone, directive?, hnext]
      | some key =>
        have hne : ofTokens .compact (next :: rest) ≠ ofTokens .paired rest := ofTokens_compact_ne_of_key hnext
        simpa using hne.symm

/-- **The two strides agree on placeholders.** A line has the same directives under both exactly if no key stands behind
a token at an even place that takes no value, and then it finds the same of every list. -/
theorem strides_agree_iff (input : String) :
    (parse .paired input = parse .compact input ↔ KeepsPlaces (tokens input)) ∧
    (KeepsPlaces (tokens input) → ∀ mode listed,
      evaluate ⟨.paired, mode⟩ listed input = evaluate ⟨.compact, mode⟩ listed input) := by
  have hiff : parse .paired input = parse .compact input ↔ KeepsPlaces (tokens input) := by
    rw [parse_eq_ofTokens, parse_eq_ofTokens, ofTokens_agree_iff]
  refine ⟨hiff, fun hkeeps mode listed => ?_⟩
  rw [evaluate, evaluate, hiff.mpr hkeeps]

/-- A value that is a key, an unknown token before a placeholder, and a flag with none. -/
theorem strides_agree_around_values :
    let input := "role:crew:zzzz:x:surv::first"
    let listed := Listed.ofRecords [Record.ofRow ["A/Ann", "", "", "Crew", "a crew's cook", "T"],
      Record.ofRow ["B/Ann", "", "", "Crew", "a crew's cook", "F"],
      Record.ofRow ["C/Ann", "", "", "Crew", "a cook", "T"]]
    KeepsPlaces (tokens input) ∧
      evaluate ⟨.paired, .exact⟩ listed input = evaluate ⟨.compact, .exact⟩ listed input ∧
      (evaluate ⟨.paired, .exact⟩ listed input).found.map (·.position) = [0] := by
  intro input listed
  have htokens : tokens input = ["role", "crew", "zzzz", "x", "surv", "", "first"].map String.toList := by
    decide +kernel
  have hkeeps : KeepsPlaces (tokens input) := by
    rw [htokens]
    exact keepsPlaces_cons_cons.mpr ⟨by decide +kernel, keepsPlaces_cons_cons.mpr ⟨by decide +kernel,
      keepsPlaces_cons_cons.mpr ⟨by decide +kernel, keepsPlaces_short (by decide)⟩⟩⟩
  exact ⟨hkeeps, (strides_agree_iff input).2 hkeeps .exact listed, by decide +kernel⟩

end ShipManifest.Query
