import ShipManifest.Proofs.AsciiCase

/-!
# Longer tokens

What is written behind a token may change what it names. Only four characters of the capitals count, so this is settled
by how many there are.

* Capitals: no character has an empty capital form, so a text does not get shorter (`Text.length_le_length_upper`), and
  the capitals of what is written behind a token stand behind its capitals (`Text.upper_append`).
* Stems: a token names a key if its first capitals are the key's stem (`Key.ofToken?_eq_some_iff`), and no stem begins
  another one (`Key.eq_of_stem_begins`).
* A token with four capitals names the same with anything behind it (`Key.ofToken?_append_of_le`); a key with a shorter
  stem is named by no longer token (`Key.ofToken?_append_of_short`).

Main statement: with more behind it, a token names the key of four letters that it named, and else none, and the case of
ASCII letters does not matter (`Key.longer_tokens_name`).
-/

namespace ShipManifest

/-! ## Capitals -/

namespace Text

theorem upper_append (xs ys : List Char) : upper (xs ++ ys) = upper xs ++ upper ys :=
  List.flatMap_append

theorem upperChar_ne_nil (c : Char) : upperChar c ≠ [] := by
  have hexpansions : ∀ entry ∈ upperExpansions, entry.2 ≠ [] := by decide
  unfold upperChar
  split
  · simp
  · split
    · rename_i codes hcodes
      obtain ⟨before, behind, happend, -⟩ := List.lookup_eq_some_iff.mp hcodes
      have hmem : (c.toNat, codes) ∈ upperExpansions := by simp [happend]
      simpa using hexpansions _ hmem
    · simp

/-- A text has at least as many capitals as characters. -/
theorem length_le_length_upper (cs : List Char) : cs.length ≤ (upper cs).length := by
  induction cs with
  | nil => exact Nat.le_refl _
  | cons c cs ih =>
    have hc : 0 < (upperChar c).length := List.length_pos_iff.mpr (upperChar_ne_nil c)
    have hcons : upper (c :: cs) = upperChar c ++ upper cs := rfl
    rw [hcons, List.length_append, List.length_cons]
    omega

end Text

namespace Key

/-! ## Stems -/

theorem mem_all (key : Key) : key ∈ all := by
  rcases key with key | key <;> cases key <;> decide

/-- No stem begins the stem of another key. -/
theorem eq_of_stem_begins {key key' : Key} (h : key.stem.toList <+: key'.stem.toList) : key = key' := by
  have hall : ∀ key ∈ all, ∀ key' ∈ all, key.stem.toList <+: key'.stem.toList → key = key' := by decide
  exact hall key key.mem_all key' key'.mem_all h

/-- A token names the key whose stem its first capitals are. -/
theorem ofToken?_eq_some_iff {token : List Char} {key : Key} :
    ofToken? token = some key ↔ key.stem.toList = (Text.upper token).take stemLength := by
  have hnamed : ∀ key, ofToken? token = some key → key.stem.toList = (Text.upper token).take stemLength := by
    intro key h
    rw [ofToken?] at h
    simpa using List.find?_some h
  refine ⟨hnamed key, fun h => ?_⟩
  cases hfind : ofToken? token with
  | none =>
    have hne := List.find?_eq_none.mp hfind key key.mem_all
    exact absurd (beq_iff_eq.mpr h) hne
  | some key' =>
    have hstem : key'.stem.toList = key.stem.toList := (hnamed key' hfind).trans h.symm
    have hbegins : key'.stem.toList <+: key.stem.toList := ⟨[], by rw [List.append_nil, hstem]⟩
    rw [eq_of_stem_begins hbegins]

/-! ## Tokens with more behind them -/

variable {token suffix : List Char} {key : Key}

/-- Behind four capitals nothing counts. -/
theorem ofToken?_append_of_le (h : stemLength ≤ (Text.upper token).length) :
    ofToken? (token ++ suffix) = ofToken? token := by
  rw [ofToken?, ofToken?, Text.upper_append, List.take_append_of_le_length h]

/-- A stem of four letters uses up what counts. -/
theorem ofToken?_append_of_long (hkey : stemLength ≤ key.stem.toList.length) (h : ofToken? token = some key) :
    ofToken? (token ++ suffix) = some key := by
  rw [ofToken?_eq_some_iff.mp h, List.length_take] at hkey
  rw [ofToken?_append_of_le (Nat.le_trans hkey (Nat.min_le_right _ _)), h]

/-- A shorter stem is all that its token may say. -/
theorem ofToken?_append_of_short (hkey : key.stem.toList.length < stemLength) (h : ofToken? token = some key)
    (hsuffix : suffix ≠ []) : ofToken? (token ++ suffix) = none := by
  have hstem := ofToken?_eq_some_iff.mp h
  have hlength : (Text.upper token).length < stemLength := by
    rw [hstem, List.length_take] at hkey
    omega
  rw [List.take_of_length_le (Nat.le_of_lt hlength)] at hstem
  rw [Option.eq_none_iff_forall_ne_some]
  intro key' h'
  rw [ofToken?_eq_some_iff, Text.upper_append] at h'
  -- the stem would begin the other one, so both are the same, but something counts behind it
  have hprefix : key.stem.toList <+: key'.stem.toList := by
    rw [hstem, h', List.prefix_take_iff]
    exact ⟨List.prefix_append _ _, Nat.le_of_lt hlength⟩
  rw [← eq_of_stem_begins hprefix, hstem] at h'
  have hmore : 0 < (Text.upper suffix).length :=
    Nat.lt_of_lt_of_le (List.length_pos_iff.mpr hsuffix) (Text.length_le_length_upper suffix)
  have hlengths := congrArg List.length h'
  rw [List.length_take, List.length_append] at hlengths
  omega

/-- **With more behind it, a token names the key of four letters that it named**; the keys of three letters are named by
no longer token, and a token of four characters that names no key names none with more behind it. The case of ASCII
letters does not matter. -/
theorem longer_tokens_name (token : List Char) :
    (∀ suffix ≠ [],
      (∀ key ∈ [text .firstName, text .lastName, text .travelClass, text .role, flag .crew, flag .survived],
        ofToken? token = some key → ofToken? (token ++ suffix) = some key) ∧
      (∀ key ∈ [flag .passenger, flag .notSurvived],
        ofToken? token = some key → ofToken? (token ++ suffix) = none) ∧
      (ofToken? token = none → 4 ≤ token.length → ofToken? (token ++ suffix) = none)) ∧
    ∀ token', Text.lowerAscii token' = Text.lowerAscii token → ofToken? token' = ofToken? token := by
  refine ⟨fun suffix hsuffix => ⟨fun key hkey h => ?_, fun key hkey h => ?_, fun h hlength => ?_⟩, fun token' h => ?_⟩
  · have hlong : ∀ key ∈ [text .firstName, text .lastName, text .travelClass, text .role, flag .crew, flag .survived],
        stemLength ≤ key.stem.toList.length := by decide
    exact ofToken?_append_of_long (hlong key hkey) h
  · have hshort : ∀ key ∈ [flag .passenger, flag .notSurvived], key.stem.toList.length < stemLength := by decide
    exact ofToken?_append_of_short (hshort key hkey) h hsuffix
  · rw [ofToken?_append_of_le (Nat.le_trans hlength (Text.length_le_length_upper token)), h]
  · rw [← ofToken?_lowerAscii token', h, ofToken?_lowerAscii]

/-- Three characters that are four capitals; a key of three letters, with nothing but a combining mark behind it; and a
token that names no key. -/
theorem longer_tokens_name_behind_ligature :
    (['s'] ≠ [] ∧ ofToken? ['ﬁ', 'r', 'ſ'] = some (text .firstName) ∧
      ofToken? ['ﬁ', 'r', 'ſ', 's'] = some (text .firstName)) ∧
    (['\u0301'] ≠ [] ∧ ofToken? ['P', 'a', 'X'] = some (flag .passenger) ∧
      ofToken? ['P', 'a', 'X', '\u0301'] = none) ∧
    (['x'] ≠ [] ∧ ofToken? ['p', 'a', 'x', 'x'] = none ∧ ofToken? ['p', 'a', 'x', 'x', 'x'] = none) ∧
    (Text.lowerAscii ['p', 'A', 'x'] = Text.lowerAscii ['P', 'a', 'X'] ∧
      ofToken? ['p', 'A', 'x'] = some (flag .passenger)) := by
  have hfirst : ofToken? ['ﬁ', 'r', 'ſ'] = some (text .firstName) := by decide
  have hpax : ofToken? ['P', 'a', 'X'] = some (flag .passenger) := by decide
  have hnone : ofToken? ['p', 'a', 'x', 'x'] = none := by decide
  have hcase : Text.lowerAscii ['p', 'A', 'x'] = Text.lowerAscii ['P', 'a', 'X'] := by decide
  refine ⟨⟨by decide, hfirst, ?_⟩, ⟨by decide, hpax, ?_⟩, ⟨by decide, hnone, ?_⟩, ⟨hcase, ?_⟩⟩
  · exact ((longer_tokens_name _).1 ['s'] (by decide)).1 _ (by decide) hfirst
  · exact ((longer_tokens_name _).1 ['\u0301'] (by decide)).2.1 _ (by decide) hpax
  · exact ((longer_tokens_name _).1 ['x'] (by decide)).2.2 hnone (by decide)
  · rw [(longer_tokens_name _).2 _ hcase, hpax]

/-- A shorter token may name a key only with more behind it. -/
example : ofToken? ['f', 'i', 'r'] = none ∧ ofToken? ['f', 'i', 'r', 's'] = some (text .firstName) := by
  decide

end Key

end ShipManifest
