import ShipManifest.Proofs.JsonReading

/-!
# Scalars in front of one more blank

A text may be followed by one more blank. Word by word, text by text and number by number the reader then does the same
as without it (`Json.InStep`): it meets a fault in both cases, or it gives the same and the blank stands behind the
rest. A fault may be another one, since a text that breaks off goes on with the blank.

* A word holds no blank (`Json.readWord_padded`), and a text that is not closed is not closed by a blank
  (`Json.readChars_padded`).
* A blank is no digit, no point, no sign and no letter, so it ends a number as the end of the text does
  (`Json.readNumber_padded`).
-/

namespace ShipManifest.Json

/-- The blanks of JSON. -/
def Blank (c : Char) : Prop :=
  c = ' ' ∨ c = '\n' ∨ c = '\t' ∨ c = '\r'

namespace Cursor

/-- The cursor in the text that has one more character at its end. -/
def padded (b : Char) (c : Cursor) : Cursor :=
  ⟨c.rest ++ [b], c.place⟩

theorem skip_padded {b : Char} {c : Cursor} {k : Nat} (h : k ≤ c.rest.length) :
    (c.padded b).skip k = (c.skip k).padded b := by
  simp [skip, padded, List.drop_append_of_le_length h]

theorem length_skip (c : Cursor) (k : Nat) : (c.skip k).rest.length = c.rest.length - k :=
  List.length_drop

theorem length_skip_le {c : Cursor} {n : Nat} (h : c.rest.length ≤ n) (k : Nat) : (c.skip k).rest.length ≤ n := by
  rw [length_skip]
  omega

end Cursor

/-- A reading, and the reading of the text with one more character at its end. Both meet a fault, or both give the same
and leave the same, which are at most `n` characters without the one at the end. -/
inductive InStep {α : Type} (b : Char) (n : Nat) : Reading α → Reading α → Prop
  | ok {a : α} {c : Cursor} : c.rest.length ≤ n → InStep b n (.ok (a, c)) (.ok (a, c.padded b))
  | error {fault fault' : Fault} : InStep b n (.error fault) (.error fault')

namespace InStep

attribute [simp] error

variable {α β : Type} {b : Char} {m n : Nat} {r r' : Reading α}

/-- Readings one after the other stay in step. -/
theorem bind {k k' : α × Cursor → Reading β} (h : InStep b n r r')
    (hk : ∀ a c, c.rest.length ≤ n → InStep b m (k (a, c)) (k' (a, c.padded b))) :
    InStep b m (r.bind k) (r'.bind k') := by
  cases h with
  | ok hlen => exact hk _ _ hlen
  | error => exact .error

theorem map (f : α → β) (h : InStep b n r r') :
    InStep b n (r.map fun (a, c) => (f a, c)) (r'.map fun (a, c) => (f a, c)) := by
  cases h with
  | ok hlen => exact .ok hlen
  | error => exact .error

end InStep

section Padded

variable {b : Char} (hb : Blank b) {n : Nat}

include hb

/-! ## Blanks and words -/

/-- Behind the blanks both are at the end, or both at the same character. -/
theorem skipBlanks_padded (c : Cursor) :
    (∃ p p', skipBlanks c = ⟨[], p⟩ ∧ skipBlanks (c.padded b) = ⟨[], p'⟩) ∨
      ∃ x xs p, xs.length < c.rest.length ∧ skipBlanks c = ⟨x :: xs, p⟩ ∧
        skipBlanks (c.padded b) = ⟨x :: (xs ++ [b]), p⟩ := by
  obtain ⟨rest, p⟩ := c
  simp only [skipBlanks, Cursor.padded]
  induction rest generalizing p with
  | nil =>
    refine .inl ⟨p, p.behind b, rfl, ?_⟩
    rw [List.nil_append, skipBlanks.go, if_pos (by exact hb), skipBlanks.go]
  | cons x xs ih =>
    rw [List.cons_append, skipBlanks.go, skipBlanks.go]
    split
    · rcases ih (p.behind x) with h | ⟨y, ys, q, hlen, h⟩
      · exact .inl h
      · exact .inr ⟨y, ys, q, Nat.lt_succ_of_lt hlen, h⟩
    · exact .inr ⟨x, xs, p, Nat.lt_succ_self _, rfl, rfl⟩

theorem readWord_padded (value : Json) {ws : List Char} (hws : ∀ w ∈ ws, ¬ Blank w) {c : Cursor}
    (hn : c.rest.length ≤ n) : InStep b n (readWord value ws c) (readWord value ws (c.padded b)) := by
  induction ws generalizing c with
  | nil => exact .ok hn
  | cons w ws ih =>
    rw [List.forall_mem_cons] at hws
    obtain ⟨rest, p⟩ := c
    cases rest with
    | nil =>
      have hne : b ≠ w := fun h => hws.1 (h ▸ hb)
      simp [readWord, Cursor.padded, hne]
    | cons x xs =>
      simp only [readWord, Cursor.padded, List.cons_append]
      split
      · exact ih hws.2 (c := ⟨xs, p.behind x⟩) (Nat.le_of_succ_le hn)
      · exact .error

/-! ## Texts -/

theorem hexValue4?_of_blank (x y z : Char) : hexValue4? x y z b = none := by
  have h : hexValue? b = none := by rcases hb with rfl | rfl | rfl | rfl <;> decide
  simp [hexValue4?, h]

omit hb in
/-- Less than four characters are still less with the blank, or it is the fourth one. -/
theorem short_padded {cs : List Char} (h : ∀ x y z w ds, cs = x :: y :: z :: w :: ds → False) :
    (∀ x y z w ds, cs ++ [b] = x :: y :: z :: w :: ds → False) ∨ ∃ x y z, cs = [x, y, z] := by
  match cs, h with
  | [], _ => simp
  | [x], _ => simp
  | [x, y], _ => simp
  | [x, y, z], _ => simp
  | x :: y :: z :: w :: cs, h => exact absurd rfl (h x y z w cs)

omit hb in
theorem ne_backslash {x : Char} {cs : List Char} (hend : x = '\\' → cs = [] → False)
    (hmore : ∀ y ys, x = '\\' → cs = y :: ys → False) : x ≠ '\\' := by
  rintro rfl
  cases cs with
  | nil => exact hend rfl rfl
  | cons y ys => exact hmore y ys rfl rfl

omit hb in
theorem readChars_self {x : Char} (hs : x ≠ '\\') (hq : x ≠ '"') (done : List Char) (p : Place) (cs : List Char) :
    readChars done p (x :: cs) = if x.toNat < 0x20 then .error ⟨.controlCharacter, p.behind x⟩
      else readChars (x :: done) (p.behind x) cs := by
  simp [readChars, hs]

/-- A text that is not closed is not closed by a blank, and no escape ends with one. -/
theorem readChars_padded (done : List Char) (p : Place) {cs : List Char} (hn : cs.length ≤ n) :
    InStep b n (readChars done p cs) (readChars done p (cs ++ [b])) := by
  have hs : b ≠ '\\' := by rcases hb with rfl | rfl | rfl | rfl <;> decide
  have hq : b ≠ '"' := by rcases hb with rfl | rfl | rfl | rfl <;> decide
  have hu : b ≠ 'u' := by rcases hb with rfl | rfl | rfl | rfl <;> decide
  have hletter : escaped? b = none := by rcases hb with rfl | rfl | rfl | rfl <;> rfl
  have hdigits : ∀ x y z, hexValue4? x y z b = none := hexValue4?_of_blank hb
  induction done, p, cs using readChars.induct with
  | case1 done p =>
    -- the text breaks off
    rw [List.nil_append, readChars, readChars_self hs hq]
    split
    · exact .error
    · rw [readChars]
      exact .error
  | case2 done p cs =>
    -- the closing quote
    simp only [readChars, List.cons_append]
    exact .ok (c := ⟨cs, p.behind '"'⟩) (Nat.le_of_succ_le hn)
  | case6 _ _ _ _ _ _ _ _ _ _ _ _ _ ih | case11 _ _ _ _ _ _ _ _ _ _ _ _ _ _ _ _ _ _ _ _ _ _ ih
  | case16 _ _ _ _ _ _ _ ih =>
    -- an escaped character
    simp only [List.length_cons] at hn
    simp only [readChars, List.cons_append, *]
    exact ih (by omega)
  | case12 _ _ _ _ _ _ _ _ _ _ _ hshort | case15 _ _ _ hshort =>
    -- an escape without its four digits
    rcases short_padded (b := b) hshort with h | ⟨_, _, _, rfl⟩ <;> simp [readChars, *]
  | case14 _ _ _ _ _ _ _ _ _ _ _ _ hend _ hmore =>
    -- the second half of a pair is missing
    have hne := ne_backslash hend hmore
    simp [readChars, *]
  | case18 done p x cs hx hend _ hmore hlow =>
    have hne := ne_backslash hend hmore
    rw [List.cons_append, readChars_self hne hx, readChars_self hne hx, if_pos hlow, if_pos hlow]
    exact .error
  | case19 done p x cs hx hend _ hmore hlow ih =>
    have hne := ne_backslash hend hmore
    rw [List.cons_append, readChars_self hne hx, readChars_self hne hx, if_neg hlow, if_neg hlow]
    exact ih (Nat.le_of_succ_le hn)
  | _ => simp [readChars, *]

theorem readText_padded {x : Char} {xs : List Char} (p : Place) (hn : xs.length ≤ n) :
    InStep b n (readText ⟨x :: xs, p⟩) (readText ⟨x :: (xs ++ [b]), p⟩) :=
  readChars_padded hb [] (p.behind x) hn

/-! ## Numbers -/

theorem Blank.isDigit : b.isDigit = false := by
  rcases hb with rfl | rfl | rfl | rfl <;> rfl

section Digits

theorem takeWhile_isDigit_padded (cs : List Char) :
    (cs ++ [b]).takeWhile Char.isDigit = cs.takeWhile Char.isDigit := by
  induction cs with
  | nil => simp [hb.isDigit]
  | cons c cs ih => simp [List.takeWhile_cons, ih]

theorem absorb_padded (significand count : Nat) (cs : List Char) :
    absorb significand count (cs ++ [b]) = let taken := absorb significand count cs
      (taken.1, taken.2.1, taken.2.2 ++ [b]) := by
  induction cs generalizing significand count with
  | nil => simp [absorb, hb.isDigit]
  | cons c cs ih =>
    rw [List.cons_append, absorb, absorb]
    split
    · exact ih _ _
    · rfl

theorem absorbExponent_padded (exponent count : Nat) (cs : List Char) :
    absorbExponent exponent count (cs ++ [b]) = absorbExponent exponent count cs := by
  induction cs generalizing exponent count with
  | nil => simp [absorbExponent, hb.isDigit]
  | cons c cs ih =>
    rw [List.cons_append, absorbExponent, absorbExponent]
    split
    · split
      · exact ih _ _
      · rfl
    · rfl

omit hb

/-- Digits are taken or left. -/
theorem absorb_count (significand count : Nat) (cs : List Char) :
    (absorb significand count cs).2.1 + (absorb significand count cs).2.2.length = count + cs.length := by
  induction cs generalizing significand count with
  | nil => rfl
  | cons c cs ih =>
    rw [absorb]
    split
    · rw [ih, List.length_cons, Nat.add_right_comm, Nat.add_assoc]
    · rfl

theorem absorbExponent_count (exponent count : Nat) (cs : List Char) :
    (absorbExponent exponent count cs).2.1 ≤ count + cs.length := by
  induction cs generalizing exponent count with
  | nil => exact Nat.le_refl _
  | cons c cs ih =>
    have hrest := ih (exponent * 10 + digitValue c) (count + 1)
    rw [absorbExponent, List.length_cons]
    split
    · split
      · omega
      · exact Nat.le_add_right _ _
    · exact Nat.le_add_right _ _

theorem length_digits_le (cs : List Char) : (cs.takeWhile Char.isDigit).length ≤ cs.length :=
  (List.takeWhile_sublist Char.isDigit).length_le

end Digits

omit hb in
theorem realOfParts_padded (negative : Bool) (significand : Nat) (exponent : Int) {c : Cursor}
    (hn : c.rest.length ≤ n) :
    InStep b n (realOfParts negative significand exponent c)
      (realOfParts negative significand exponent (c.padded b)) := by
  unfold realOfParts
  cases scaled? significand exponent with
  | some magnitude => exact .ok hn
  | none => exact .error

theorem exponentSign_padded (c : Cursor) :
    exponentSign (c.padded b) = ((exponentSign c).1, (exponentSign c).2.padded b) := by
  obtain ⟨rest, p⟩ := c
  cases rest with
  | nil => rcases hb with rfl | rfl | rfl | rfl <;> rfl
  | cons x xs =>
    by_cases hplus : x = '+'
    · subst hplus
      rfl
    by_cases hminus : x = '-'
    · subst hminus
      rfl
    simp [exponentSign, Cursor.padded, hplus, hminus]

omit hb in
theorem exponentSign_length_le {c : Cursor} (hn : c.rest.length ≤ n) : (exponentSign c).2.rest.length ≤ n := by
  unfold exponentSign
  split
  · exact Cursor.length_skip_le hn 1
  · exact Cursor.length_skip_le hn 1
  · exact hn

theorem exponentDigits_padded (negative : Bool) (significand : Nat) (start : Int) (down : Bool) {c : Cursor}
    (hn : c.rest.length ≤ n) : InStep b n (exponentDigits negative significand start down c)
      (exponentDigits negative significand start down (c.padded b)) := by
  have hskip := Cursor.length_skip_le hn
  obtain ⟨rest, p⟩ := c
  cases rest with
  | nil => simp [exponentDigits, Cursor.padded, hb.isDigit]
  | cons x xs =>
    have hcount : (absorbExponent 0 0 (x :: xs)).2.1 ≤ (x :: xs).length := by
      simpa only [Nat.zero_add] using absorbExponent_count 0 0 (x :: xs)
    have hpadded : ∀ k ≤ (x :: xs).length,
        (Cursor.padded b ⟨x :: xs, p⟩).skip k = (Cursor.skip ⟨x :: xs, p⟩ k).padded b :=
      fun k hk => Cursor.skip_padded hk
    have hrest : (Cursor.padded b ⟨x :: xs, p⟩).rest = x :: (xs ++ [b]) := rfl
    simp only [exponentDigits, hrest]
    rw [← List.cons_append, absorbExponent_padded hb, takeWhile_isDigit_padded hb, hpadded _ (length_digits_le _)]
    split
    · exact .error
    · rcases habsorb : absorbExponent 0 0 (x :: xs) with ⟨exponent, count, overflow⟩
      rw [habsorb] at hcount
      cases overflow with
      | false =>
        simp only [hpadded count hcount]
        exact realOfParts_padded negative significand _ (hskip count)
      | true =>
        dsimp only
        split
        · exact .error
        · exact .ok (hskip _)

section AfterDigits

variable (negative : Bool) (significand : Nat) (exponent : Int) {c : Cursor} (hn : c.rest.length ≤ n)

include hn

theorem readExponent_padded (hpos : 0 < c.rest.length) :
    InStep b n (readExponent negative significand exponent c)
      (readExponent negative significand exponent (c.padded b)) := by
  unfold readExponent
  rw [Cursor.skip_padded hpos, exponentSign_padded hb]
  exact exponentDigits_padded hb negative significand exponent _ (exponentSign_length_le (Cursor.length_skip_le hn 1))

theorem readAfterDigits_padded : InStep b n (readAfterDigits negative significand exponent c)
    (readAfterDigits negative significand exponent (c.padded b)) := by
  have hreal := realOfParts_padded (b := b) negative significand exponent hn
  have hexponent := readExponent_padded hb negative significand exponent hn
  obtain ⟨rest, p⟩ := c
  cases rest with
  | nil => rcases hb with rfl | rfl | rfl | rfl <;> exact hreal
  | cons x xs =>
    by_cases hlower : x = 'e'
    · subst hlower
      exact hexponent (Nat.succ_pos _)
    by_cases hupper : x = 'E'
    · subst hupper
      exact hexponent (Nat.succ_pos _)
    simpa [readAfterDigits, Cursor.padded, hlower, hupper] using hreal

theorem readFraction_padded (hpos : 0 < c.rest.length) :
    InStep b n (readFraction negative significand exponent c)
      (readFraction negative significand exponent (c.padded b)) := by
  have hrest : ((c.skip 1).padded b).rest = (c.skip 1).rest ++ [b] := rfl
  unfold readFraction
  rw [Cursor.skip_padded hpos]
  simp only [hrest, takeWhile_isDigit_padded hb, Cursor.skip_padded (length_digits_le _)]
  split
  · exact .error
  · exact readAfterDigits_padded hb negative _ _ (Cursor.length_skip_le (Cursor.length_skip_le hn 1) _)

end AfterDigits

theorem readLong_padded (negative : Bool) (significand exponent : Nat) {c : Cursor} (hn : c.rest.length ≤ n) :
    InStep b n (readLong negative significand exponent c) (readLong negative significand exponent (c.padded b)) := by
  have hafter := readAfterDigits_padded hb negative significand exponent hn
  have hfraction := readFraction_padded hb negative significand exponent hn
  obtain ⟨rest, p⟩ := c
  cases rest with
  | nil => rcases hb with rfl | rfl | rfl | rfl <;> exact hafter
  | cons x xs =>
    by_cases hpoint : x = '.'
    · subst hpoint
      exact hfraction (Nat.succ_pos _)
    simpa [readLong, Cursor.padded, hpoint] using hafter

omit hb in
theorem readShort_alone (negative : Bool) (significand : Nat) {c : Cursor}
    (halone : ∀ x xs, c.rest = x :: xs → x ≠ '.' ∧ x ≠ 'e' ∧ x ≠ 'E') :
    readShort negative significand c = .ok (shortValue negative significand, c) := by
  unfold readShort
  split
  · exact absurd rfl (halone _ _ ‹_›).1
  · exact absurd rfl (halone _ _ ‹_›).2.1
  · exact absurd rfl (halone _ _ ‹_›).2.2
  · rfl

theorem readShort_padded (negative : Bool) (significand : Nat) {c : Cursor} (hn : c.rest.length ≤ n) :
    InStep b n (readShort negative significand c) (readShort negative significand (c.padded b)) := by
  have hfraction := readFraction_padded hb negative significand 0 hn
  have hexponent := readExponent_padded hb negative significand 0 hn
  obtain ⟨rest, p⟩ := c
  cases rest with
  | nil =>
    have halone : b ≠ '.' ∧ b ≠ 'e' ∧ b ≠ 'E' := by rcases hb with rfl | rfl | rfl | rfl <;> decide
    rw [readShort_alone _ _ (by simp), readShort_alone _ _ (by simpa [Cursor.padded] using halone)]
    exact .ok hn
  | cons x xs =>
    by_cases hpoint : x = '.'
    · subst hpoint
      exact hfraction (Nat.succ_pos _)
    by_cases hlower : x = 'e'
    · subst hlower
      exact hexponent (Nat.succ_pos _)
    by_cases hupper : x = 'E'
    · subst hupper
      exact hexponent (Nat.succ_pos _)
    have halone : ∀ ys, readShort negative significand ⟨x :: ys, p⟩ =
        .ok (shortValue negative significand, ⟨x :: ys, p⟩) := fun ys =>
      readShort_alone negative significand (by simp [hpoint, hlower, hupper])
    rw [halone, Cursor.padded, List.cons_append, halone]
    exact .ok hn

omit hb in
theorem readDigits_of_ne_zero (negative : Bool) {x : Char} (hzero : x ≠ '0') (xs : List Char) (p : Place) :
    readDigits negative ⟨x :: xs, p⟩ =
      let c : Cursor := ⟨x :: xs, p⟩
      let taken := absorb 0 0 (x :: xs)
      let dropped := taken.2.2.takeWhile Char.isDigit
      if !x.isDigit then .error (c.faultAhead .invalidNumber)
      else if dropped = [] then readShort negative taken.1 (c.skip taken.2.1)
      else readLong negative taken.1 dropped.length (c.skip (taken.2.1 + dropped.length)) := by
  simp [readDigits, hzero]

theorem readDigits_padded (negative : Bool) {c : Cursor} (hn : c.rest.length ≤ n) :
    InStep b n (readDigits negative c) (readDigits negative (c.padded b)) := by
  have hskip := Cursor.length_skip_le hn
  obtain ⟨rest, p⟩ := c
  cases rest with
  | nil => rcases hb with rfl | rfl | rfl | rfl <;> exact .error
  | cons x xs =>
    by_cases hzero : x = '0'
    · subst hzero
      have hshort := readShort_padded hb negative 0 (hskip 1)
      cases xs with
      | nil => simpa [readDigits, Cursor.padded, Cursor.skip, hb.isDigit] using hshort
      | cons y ys =>
        simp only [readDigits, Cursor.padded, List.cons_append]
        split
        · exact .error
        · exact hshort
    · -- digits that are taken or dropped are digits of the text
      have hcount : (absorb 0 0 (x :: xs)).2.1 + (absorb 0 0 (x :: xs)).2.2.length = (x :: xs).length := by
        simpa only [Nat.zero_add] using absorb_count 0 0 (x :: xs)
      have hdropped := length_digits_le (absorb 0 0 (x :: xs)).2.2
      have hpadded : ∀ k ≤ (x :: xs).length,
          Cursor.skip ⟨x :: (xs ++ [b]), p⟩ k = (Cursor.skip ⟨x :: xs, p⟩ k).padded b :=
        fun k hk => Cursor.skip_padded (c := ⟨x :: xs, p⟩) hk
      rw [Cursor.padded, List.cons_append, readDigits_of_ne_zero negative hzero, readDigits_of_ne_zero negative hzero,
        ← List.cons_append, absorb_padded hb, List.cons_append]
      simp only [takeWhile_isDigit_padded hb]
      rw [hpadded _ (by omega), hpadded _ (by omega)]
      split
      · exact .error
      · split
        · exact readShort_padded hb negative _ (hskip _)
        · exact readLong_padded hb negative _ _ (hskip _)

theorem readNumber_padded {c : Cursor} (hn : c.rest.length ≤ n) :
    InStep b n (readNumber c) (readNumber (c.padded b)) := by
  obtain ⟨rest, p⟩ := c
  cases rest with
  | nil => rcases hb with rfl | rfl | rfl | rfl <;> exact .error
  | cons x xs =>
    by_cases hminus : x = '-'
    · subst hminus
      exact readDigits_padded hb true (c := ⟨xs, p.behind '-'⟩) (Nat.le_of_succ_le hn)
    · simpa [readNumber, Cursor.padded, hminus] using readDigits_padded hb false hn

end Padded

end ShipManifest.Json
