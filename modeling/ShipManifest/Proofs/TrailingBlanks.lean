import ShipManifest.Proofs.PaddedScalars

/-!
# Blanks behind a JSON text

Blanks behind a text do not change what it is read as. The two readings go in step through objects and lists, and at
the end of the value both are in front of blanks only, or both are not.

* Readers that loop may go one round for each character that is left. A member and a further item use up characters, so
  one more round does not matter (`Json.readMembers_padded`, `Json.readItems_padded`).
* A value is read in step, whatever its depth (`Json.readValue_padded`).

Main statement: with blanks behind it a text is read as the same value, or is refused in both cases
(`Json.parse_append_blanks`). The faults may be different.
-/

namespace ShipManifest.Json

section Padded

variable {b : Char} (hb : Blank b) {n : Nat}

include hb

/-! ## Objects -/

theorem readColon_padded {c : Cursor} (hn : c.rest.length ≤ n) :
    InStep b n (readColon c) (readColon (c.padded b)) := by
  unfold readColon
  rcases skipBlanks_padded hb c with ⟨p, p', h, h'⟩ | ⟨x, xs, p, hlen, h, h'⟩
  · simp [h, h']
  rw [h, h']
  by_cases hx : x = ':'
  · subst hx
    exact .ok (c := ⟨xs, p.behind ':'⟩) (Nat.le_trans (Nat.le_of_lt hlen) hn)
  · simp [hx]

/-- A key or the closing brace is found in both cases, or in none. -/
theorem seekKey_padded (first : Bool) (c : Cursor) :
    (∃ fault fault', seekKey first c = .error fault ∧ seekKey first (c.padded b) = .error fault') ∨
      ∃ more x xs p, xs.length < c.rest.length ∧ seekKey first c = .ok (more, ⟨x :: xs, p⟩) ∧
        seekKey first (c.padded b) = .ok (more, ⟨x :: (xs ++ [b]), p⟩) := by
  unfold seekKey
  rcases skipBlanks_padded hb c with ⟨p, p', h, h'⟩ | ⟨x, xs, p, hlen, h, h'⟩
  · simp [h, h']
  rw [h, h']
  by_cases hclose : x = '}'
  · subst hclose
    exact .inr ⟨false, '}', xs, p, hlen, rfl, rfl⟩
  cases first with
  | true => by_cases hquote : x = '"' <;> simp [hquote, hlen]
  | false =>
    by_cases hcomma : x = ','
    · subst hcomma
      have hnext : Cursor.next ⟨',' :: (xs ++ [b]), p⟩ = (Cursor.next ⟨',' :: xs, p⟩).padded b := rfl
      rcases skipBlanks_padded hb (Cursor.next ⟨',' :: xs, p⟩) with ⟨q, q', h, h'⟩ | ⟨y, ys, q, hless, h, h'⟩
      · simp [hnext, h, h']
      by_cases hquote : y = '"'
      · subst hquote
        exact .inr ⟨true, '"', ys, q, Nat.lt_trans hless hlen, by simp [h], by simp [hnext, h']⟩
      · refine .inl ?_
        by_cases hend : y = '}'
        · subst hend
          simp [hnext, h, h']
        · simp [hnext, h, h', hquote, hend]
    · simp [hcomma]

section Loops

omit hb in
theorem readMembers_of_not_found {done : List (String × Json)} {c : Cursor} {fault : Fault}
    (h : seekKey done.isEmpty c = .error fault) (item : Cursor → Reading Json) (k : Nat) :
    ∃ fault', readMembers item k done c = .error fault' := by
  cases k <;> simp [readMembers, h, Except.bind]

omit hb in
theorem readItems_of_blank {c : Cursor} {p : Place} (h : skipBlanks c = ⟨[], p⟩) (item : Cursor → Reading Json)
    (done : List Json) (k : Nat) : ∃ fault, readItems item k done c = .error fault := by
  cases k <;> simp [readItems, h]

variable {item : Cursor → Reading Json} (hitem : ∀ c : Cursor, InStep b c.rest.length (item c) (item (c.padded b)))

include hitem

/-- The numbers of rounds `k` and `k'` do not matter where they are not less than the number of characters. -/
theorem readMembers_padded {k k' : Nat} (done : List (String × Json)) {c : Cursor} (hn : c.rest.length ≤ n)
    (hk : c.rest.length ≤ k) (hk' : c.rest.length ≤ k') :
    InStep b n (readMembers item k done c) (readMembers item k' done (c.padded b)) := by
  induction hl : c.rest.length using Nat.strongRecOn generalizing k k' done c with
  | ind _ ih =>
    rcases seekKey_padded hb done.isEmpty c with ⟨fault, fault', h, h'⟩ | ⟨more, x, xs, p, hlen, h, h'⟩
    · obtain ⟨_, hread⟩ := readMembers_of_not_found h item k
      obtain ⟨_, hread'⟩ := readMembers_of_not_found h' item k'
      rw [hread, hread']
      exact .error
    · obtain ⟨k, rfl⟩ := Nat.exists_eq_succ_of_ne_zero (show k ≠ 0 by omega)
      obtain ⟨k', rfl⟩ := Nat.exists_eq_succ_of_ne_zero (show k' ≠ 0 by omega)
      rw [readMembers, readMembers, h, h']
      cases more with
      | false => exact .ok (c := ⟨xs, p.behind x⟩) (Nat.le_trans (Nat.le_of_lt hlen) hn)
      | true =>
        refine (readText_padded hb p (Nat.le_refl xs.length)).bind fun key c₁ h₁ => ?_
        refine (readColon_padded hb h₁).bind fun _ c₂ h₂ => ?_
        refine (hitem c₂).bind fun value c₃ h₃ => ?_
        exact ih _ (by omega) ((key, value) :: done) (by omega) (by omega) (by omega) rfl

/-! ## Lists -/

/-- The first item need not use up a character, as no comma stands before it. -/
theorem readItems_padded {k k' : Nat} (done : List Json) {c : Cursor} (hn : c.rest.length ≤ n)
    (hk : c.rest.length + done.isEmpty.toNat ≤ k) (hk' : c.rest.length + done.isEmpty.toNat ≤ k') :
    InStep b n (readItems item k done c) (readItems item k' done (c.padded b)) := by
  induction hl : c.rest.length + done.isEmpty.toNat using Nat.strongRecOn generalizing k k' done c with
  | ind _ ih =>
    rcases skipBlanks_padded hb c with ⟨p, p', h, h'⟩ | ⟨x, xs, p, hlen, h, h'⟩
    · obtain ⟨_, hread⟩ := readItems_of_blank h item done k
      obtain ⟨_, hread'⟩ := readItems_of_blank h' item done k'
      rw [hread, hread']
      exact .error
    · obtain ⟨k, rfl⟩ := Nat.exists_eq_succ_of_ne_zero (show k ≠ 0 by omega)
      obtain ⟨k', rfl⟩ := Nat.exists_eq_succ_of_ne_zero (show k' ≠ 0 by omega)
      rw [readItems, readItems, h, h']
      by_cases hclose : x = ']'
      · subst hclose
        exact .ok (c := ⟨xs, p.behind ']'⟩) (Nat.le_trans (Nat.le_of_lt hlen) hn)
      -- the item, and what follows it
      have further : ∀ y ys q, ys.length < n → (y :: ys).length < c.rest.length + done.isEmpty.toNat →
          InStep b n ((item ⟨y :: ys, q⟩).bind fun r => readItems item k (r.1 :: done) r.2)
            ((item ⟨y :: (ys ++ [b]), q⟩).bind fun r => readItems item k' (r.1 :: done) r.2) := by
        intro y ys q hys hless
        refine (hitem ⟨y :: ys, q⟩).bind fun value c' hleft => ?_
        have hle : c'.rest.length ≤ ys.length + 1 := hleft
        have hdone : (value :: done).isEmpty.toNat = 0 := rfl
        rw [List.length_cons] at hless
        show InStep b n (readItems item k (value :: done) c') (readItems item k' (value :: done) (c'.padded b))
        exact ih c'.rest.length (by omega) (value :: done) (by omega) (by omega) (by omega) (by omega)
      cases done with
      | nil => simpa [hclose] using further x xs p (Nat.lt_of_lt_of_le hlen hn) (Nat.lt_succ_of_le hlen)
      | cons last done =>
        by_cases hcomma : x = ','
        · subst hcomma
          have hnext : Cursor.next ⟨',' :: (xs ++ [b]), p⟩ = (Cursor.next ⟨',' :: xs, p⟩).padded b := rfl
          rcases skipBlanks_padded hb (Cursor.next ⟨',' :: xs, p⟩) with ⟨q, q', h, h'⟩ | ⟨y, ys, q, hless, h, h'⟩
          · simp [hnext, h, h']
          by_cases hend : y = ']'
          · subst hend
            simp [hnext, h, h']
          · have hys : (y :: ys).length < c.rest.length := Nat.lt_of_le_of_lt hless hlen
            simpa [hnext, h, h', hend] using further y ys q (Nat.lt_of_lt_of_le (Nat.lt_of_succ_lt hys) hn) hys
        · simp [hcomma]

end Loops

/-! ## Values -/

/-- A value is read in step. What begins it tells what it is. -/
theorem readValue_padded (depth : Nat) (c : Cursor) :
    InStep b c.rest.length (readValue depth c) (readValue depth (c.padded b)) := by
  induction depth using Nat.strongRecOn generalizing c with
  | ind depth ih =>
    unfold readValue
    rcases skipBlanks_padded hb c with ⟨p, p', h, h'⟩ | ⟨x, xs, p, hlen, h, h'⟩
    · simp [h, h']
    rw [h, h']
    have hxs : xs.length ≤ c.rest.length := Nat.le_of_lt hlen
    have word : ∀ value ws, (∀ w ∈ ws, ¬ Blank w) → InStep b c.rest.length
        (readWord value ws ⟨xs, p.behind x⟩) (readWord value ws ⟨xs ++ [b], p.behind x⟩) :=
      fun value ws hws => readWord_padded hb value hws (c := ⟨xs, p.behind x⟩) hxs
    by_cases hnull : x = 'n'
    · subst hnull
      exact word .null ['u', 'l', 'l'] (by simp [Blank])
    by_cases htrue : x = 't'
    · subst htrue
      exact word (.boolean true) ['r', 'u', 'e'] (by simp [Blank])
    by_cases hfalse : x = 'f'
    · subst hfalse
      exact word (.boolean false) ['a', 'l', 's', 'e'] (by simp [Blank])
    by_cases hquote : x = '"'
    · subst hquote
      exact (readText_padded hb p hxs).map Json.text
    by_cases hlist : x = '['
    · subst hlist
      cases depth with
      | zero => exact .error
      | succ depth =>
        exact readItems_padded hb (ih depth (Nat.lt_succ_self depth)) [] (c := ⟨xs, p.behind '['⟩) hxs
          (Nat.le_refl _) (by simp)
    by_cases hobject : x = '{'
    · subst hobject
      cases depth with
      | zero => exact .error
      | succ depth =>
        exact readMembers_padded hb (ih depth (Nat.lt_succ_self depth)) [] (c := ⟨xs, p.behind '{'⟩) hxs
          (Nat.le_succ _) (by simp; omega)
    by_cases hdigit : x.isDigit ∨ x = '-'
    · have hnumber := readNumber_padded hb (c := ⟨x :: xs, p⟩) hlen
      simpa [hnull, htrue, hfalse, hquote, hlist, hobject, hdigit, Cursor.padded] using hnumber
    · simp [hdigit]

/-- A value that nothing but blanks follow is accepted. -/
theorem finish_padded {α : Type} {r r' : Reading α} (h : InStep b n r r') :
    (r'.bind finish).toOption = (r.bind finish).toOption := by
  cases h with
  | error => rfl
  | @ok a c _ =>
    rcases skipBlanks_padded hb c with ⟨p, p', h, h'⟩ | ⟨x, xs, p, _, h, h'⟩ <;>
      simp [Except.bind, Except.toOption, finish, h, h']

theorem parse_padded (cs : List Char) :
    (parse (String.ofList (cs ++ [b]))).toOption = (parse (String.ofList cs)).toOption := by
  have hstart : Cursor.ofText (String.ofList (cs ++ [b])) = (Cursor.ofText (String.ofList cs)).padded b := by
    simp [Cursor.ofText, Cursor.padded]
  have hread : (read (String.ofList (cs ++ [b]))).toOption = (read (String.ofList cs)).toOption := by
    rw [read, read, hstart]
    exact finish_padded hb (readValue_padded hb maxDepth _)
  have hsettle : ∀ r : Except Fault Json, (r.map settle).toOption = r.toOption.map settle := by
    intro r
    cases r <;> rfl
  rw [parse, parse, hsettle, hsettle, hread]

end Padded

/-- **With blanks behind it a text is read as the same value**, or it is refused with them, too. -/
theorem parse_append_blanks {cs : List Char} (s : String) (hcs : ∀ c ∈ cs, Blank c) :
    (parse (s ++ String.ofList cs)).toOption = (parse s).toOption := by
  induction cs generalizing s with
  | nil => simp
  | cons c cs ih =>
    rw [List.forall_mem_cons] at hcs
    have hs : s ++ String.ofList (c :: cs) = String.ofList (s.toList ++ [c]) ++ String.ofList cs := by
      apply String.toList_injective
      simp
    rw [hs, ih _ hcs.2, parse_padded hcs.1, String.ofList_toList]

/-- The faults may be different: with a line feed behind it, the text ends in another line. -/
example : parse "[" = .error ⟨.endInList, ⟨1, 1⟩⟩ ∧ parse "[\n" = .error ⟨.endInList, ⟨2, 0⟩⟩ := by
  constructor <;> cbv

end ShipManifest.Json
