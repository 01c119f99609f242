import ShipManifest.Json.Variant
import ShipManifest.Proofs.PaddedScalars

/-!
# Reading what is expected

Where one kind of value is expected, it is read without a value in between. What is read, and what is left behind it, is
the same as when the value is read first and looked at afterwards.

* What begins a value tells its kind (`Json.readsAs_of_readValue`).
* Members: an object goes on with a key and its colon (`Json.KeyAhead`) or ends (`Json.EndAhead`), and in this way its
  reader goes step by step (`Json.readMembers_succ`).
* A text, a null and a name are found where a value is read that is one (`Json.expectText_eq_ok_iff`,
  `Json.expectNull_eq_ok_iff`, `Json.expectVariant_eq_ok_iff`).
-/

namespace ShipManifest.Json

/-! ## Readings that succeed -/

section Success

variable {α β : Type} {b : β}

theorem bind_eq_ok {x : Except Fault α} {f : α → Except Fault β} :
    x.bind f = .ok b ↔ ∃ a, x = .ok a ∧ f a = .ok b := by
  cases x <;> simp [Except.bind]

theorem map_eq_ok {x : Except Fault α} {f : α → β} : x.map f = .ok b ↔ ∃ a, x = .ok a ∧ f a = b := by
  cases x <;> simp [Except.map]

/-- A text is read if its beginning is and nothing but blanks is left. -/
theorem bind_finish_eq_ok {r : Reading α} {a : α} : r.bind finish = .ok a ↔
    ∃ c, r = .ok (a, c) ∧ (skipBlanks c).rest = [] := by
  rw [bind_eq_ok]
  constructor
  · rintro ⟨⟨b, c⟩, hr, h⟩
    unfold finish at h
    dsimp only at h
    split at h
    · rename_i hrest
      cases h
      exact ⟨c, hr, hrest⟩
    · cases h
  · rintro ⟨c, hr, hrest⟩
    refine ⟨_, hr, ?_⟩
    simp [finish, hrest]

end Success

/-! ## Kinds of values -/

/-- The value is a number. -/
inductive IsNumber : Json → Prop
  | integer (i : Int) : IsNumber (.integer i)
  | real (x : Binary64) : IsNumber (.real x)

/-- Whatever is read is a number. -/
def Numeric (r : Reading Json) : Prop :=
  ∀ value c, r = .ok (value, c) → value.IsNumber

section Numbers

variable (negative : Bool) (significand : Nat)

theorem numeric_error (fault : Fault) : Numeric (.error fault) := by
  intro value c h
  cases h

theorem numeric_ok {value : Json} (h : value.IsNumber) (c : Cursor) : Numeric (.ok (value, c)) := by
  rintro value c ⟨⟩
  exact h

theorem numeric_realOfParts (exponent : Int) (c : Cursor) : Numeric (realOfParts negative significand exponent c) := by
  unfold realOfParts
  split
  · exact numeric_ok (.real _) _
  · exact numeric_error _

theorem numeric_exponentDigits (start : Int) (down : Bool) (c : Cursor) :
    Numeric (exponentDigits negative significand start down c) := by
  unfold exponentDigits
  split
  · exact numeric_error _
  · split
    · exact numeric_error _
    · split
      · exact numeric_realOfParts negative significand _ _
      · split
        · exact numeric_error _
        · exact numeric_ok (.real _) _

theorem numeric_readExponent (start : Int) (c : Cursor) : Numeric (readExponent negative significand start c) :=
  numeric_exponentDigits negative significand start _ _

theorem numeric_readAfterDigits (exponent : Int) (c : Cursor) :
    Numeric (readAfterDigits negative significand exponent c) := by
  unfold readAfterDigits
  split
  · exact numeric_readExponent negative significand exponent c
  · exact numeric_readExponent negative significand exponent c
  · exact numeric_realOfParts negative significand exponent c

theorem numeric_readFraction (start : Int) (c : Cursor) : Numeric (readFraction negative significand start c) := by
  unfold readFraction
  dsimp only
  split
  · exact numeric_error _
  · exact numeric_readAfterDigits negative _ _ _

theorem numeric_readLong (exponent : Nat) (c : Cursor) : Numeric (readLong negative significand exponent c) := by
  unfold readLong
  split
  · exact numeric_readFraction negative significand exponent c
  · exact numeric_readAfterDigits negative significand exponent c

theorem isNumber_shortValue : (shortValue negative significand).IsNumber := by
  unfold shortValue
  split
  · exact .integer _
  · split
    · exact .real _
    · exact .integer _

theorem numeric_readShort (c : Cursor) : Numeric (readShort negative significand c) := by
  unfold readShort
  split
  · exact numeric_readFraction negative significand 0 c
  · exact numeric_readExponent negative significand 0 c
  · exact numeric_readExponent negative significand 0 c
  · exact numeric_ok (isNumber_shortValue negative significand) c

theorem numeric_readDigits (c : Cursor) : Numeric (readDigits negative c) := by
  unfold readDigits
  split
  · exact numeric_error _
  · split
    · exact numeric_error _
    · exact numeric_readShort negative 0 _
  · exact numeric_readShort negative 0 _
  · split
    · exact numeric_error _
    · dsimp only
      split
      · exact numeric_readShort negative _ _
      · exact numeric_readLong negative _ _ _

theorem numeric_readNumber (c : Cursor) : Numeric (readNumber c) := by
  unfold readNumber
  split
  · exact numeric_readDigits true _
  · exact numeric_readDigits false _

end Numbers

theorem eq_of_readWord {value value' : Json} {ws : List Char} {c c' : Cursor}
    (h : readWord value ws c = .ok (value', c')) : value' = value := by
  induction ws generalizing c with
  | nil =>
    cases h
    rfl
  | cons w ws ih =>
    rw [readWord] at h
    split at h
    · cases h
    · split at h
      · exact ih h
      · cases h

theorem isList_of_readItems {item : Cursor → Reading Json} {n : Nat} {done : List Json} {value : Json} {c c' : Cursor}
    (h : readItems item n done c = .ok (value, c')) : ∃ items, value = .list items := by
  induction n generalizing done c with
  | zero => cases h
  | succ n ih =>
    rw [readItems] at h
    dsimp only at h
    split at h
    · cases h
    · cases h
      exact ⟨_, rfl⟩
    · split at h
      · obtain ⟨_, -, hrest⟩ := bind_eq_ok.mp h
        exact ih hrest
      · split at h
        · split at h
          · cases h
          · cases h
          · obtain ⟨_, -, hrest⟩ := bind_eq_ok.mp h
            exact ih hrest
        · cases h

/-! ## Members -/

/-- A key comes next, and behind its colon the cursor is `c'`. -/
def KeyAhead (first : Bool) (c : Cursor) (key : String) (c' : Cursor) : Prop :=
  ∃ c₁ c₂, seekKey first c = .ok (true, c₁) ∧ readText c₁ = .ok (key, c₂) ∧ readColon c₂ = .ok ((), c')

/-- The object ends, and behind its brace the cursor is `c'`. -/
def EndAhead (first : Bool) (c c' : Cursor) : Prop :=
  ∃ c₁, seekKey first c = .ok (false, c₁) ∧ c₁.next = c'

section Members

variable {item : Cursor → Reading Json} {n : Nat} {done : List (String × Json)} {value : Json} {c c' : Cursor}

/-- The reader of members takes one member more, or it is at the end. -/
theorem readMembers_succ : readMembers item (n + 1) done c = .ok (value, c') ↔
    (EndAhead done.isEmpty c c' ∧ value = .object done.reverse) ∨
      ∃ key c₁ v c₂, KeyAhead done.isEmpty c key c₁ ∧ item c₁ = .ok (v, c₂) ∧
        readMembers item n ((key, v) :: done) c₂ = .ok (value, c') := by
  rw [readMembers, bind_eq_ok]
  constructor
  · rintro ⟨⟨more, c₁⟩, hseek, h⟩
    cases more with
    | false =>
      cases h
      exact .inl ⟨⟨c₁, hseek, rfl⟩, rfl⟩
    | true =>
      obtain ⟨⟨key, c₂⟩, hkey, h⟩ := bind_eq_ok.mp h
      obtain ⟨⟨⟨⟩, c₃⟩, hcolon, h⟩ := bind_eq_ok.mp h
      obtain ⟨⟨v, c₄⟩, hvalue, h⟩ := bind_eq_ok.mp h
      exact .inr ⟨key, c₃, v, c₄, ⟨c₁, c₂, hseek, hkey, hcolon⟩, hvalue, h⟩
  · rintro (⟨⟨c₁, hseek, rfl⟩, rfl⟩ | ⟨key, c₃, v, c₄, ⟨c₁, c₂, hseek, hkey, hcolon⟩, hvalue, h⟩)
    · exact ⟨(false, c₁), hseek, rfl⟩
    · refine ⟨(true, c₁), hseek, ?_⟩
      exact bind_eq_ok.mpr ⟨_, hkey, bind_eq_ok.mpr ⟨_, hcolon, bind_eq_ok.mpr ⟨_, hvalue, h⟩⟩⟩

/-- The members that were read come first. -/
theorem isObject_of_readMembers (h : readMembers item n done c = .ok (value, c')) :
    ∃ members, value = .object (done.reverse ++ members) := by
  induction n generalizing done c with
  | zero => cases h
  | succ n ih =>
    rcases readMembers_succ.mp h with ⟨-, rfl⟩ | ⟨key, c₁, v, c₂, -, -, hrest⟩
    · exact ⟨[], by rw [List.append_nil]⟩
    · obtain ⟨members, rfl⟩ := ih hrest
      exact ⟨(key, v) :: members, by rw [List.reverse_cons, List.append_assoc, List.singleton_append]⟩

/-- If no member was added, the object was at its end. -/
theorem readMembers_end : readMembers item (n + 1) done c = .ok (.object done.reverse, c') ↔
    EndAhead done.isEmpty c c' := by
  rw [readMembers_succ]
  constructor
  · rintro (⟨hend, -⟩ | ⟨key, c₁, v, c₂, -, -, hrest⟩)
    · exact hend
    · obtain ⟨members, hmembers⟩ := isObject_of_readMembers hrest
      have hlength := congrArg List.length (Json.object.inj hmembers)
      simp at hlength
  · intro hend
    exact .inl ⟨hend, rfl⟩

end Members

/-! ## Values -/

section Values

variable {depth : Nat} {c c' : Cursor}

/-- How a value of each kind is read from `c` to `c'`, as far as it is of interest here. -/
inductive ReadsAs (depth : Nat) (c c' : Cursor) : Json → Prop
  | null {xs : List Char} {p : Place} : skipBlanks c = ⟨'n' :: xs, p⟩ →
      readWord .null ['u', 'l', 'l'] ⟨xs, p.behind 'n'⟩ = .ok (.null, c') → ReadsAs depth c c' .null
  | boolean (b : Bool) : ReadsAs depth c c' (.boolean b)
  | integer (i : Int) : ReadsAs depth c c' (.integer i)
  | real (x : Binary64) : ReadsAs depth c c' (.real x)
  | text {xs : List Char} {p : Place} {s : String} : skipBlanks c = ⟨'"' :: xs, p⟩ →
      readText ⟨'"' :: xs, p⟩ = .ok (s, c') → ReadsAs depth c c' (.text s)
  | list (items : List Json) : ReadsAs depth c c' (.list items)
  | object {xs : List Char} {p : Place} {k : Nat} {members : List (String × Json)} : skipBlanks c = ⟨'{' :: xs, p⟩ →
      depth = k + 1 → readMembers (readValue k) (xs.length + 1) [] ⟨xs, p.behind '{'⟩ = .ok (.object members, c') →
      ReadsAs depth c c' (.object members)

/-- **What begins a value tells its kind.** -/
theorem readsAs_of_readValue {value : Json} (h : readValue depth c = .ok (value, c')) : ReadsAs depth c c' value := by
  unfold readValue at h
  rcases hc : skipBlanks c with ⟨rest, p⟩
  simp only [hc] at h
  split at h
  · cases h
  · cases eq_of_readWord h
    exact .null hc h
  · cases eq_of_readWord h
    exact .boolean true
  · cases eq_of_readWord h
    exact .boolean false
  · obtain ⟨⟨s, c₁⟩, htext, hvalue⟩ := map_eq_ok.mp h
    cases hvalue
    exact .text hc htext
  · split at h
    · cases h
    · obtain ⟨items, rfl⟩ := isList_of_readItems h
      exact .list items
  · split at h
    · cases h
    · obtain ⟨members, rfl⟩ := isObject_of_readMembers h
      exact .object hc rfl h
  · split at h
    · cases numeric_readNumber _ _ _ h with
      | integer i => exact .integer i
      | real x => exact .real x
    · cases h

/-- A text is read where a quote comes next. -/
theorem readValue_text {s : String} : readValue depth c = .ok (.text s, c') ↔
    ∃ xs p, skipBlanks c = ⟨'"' :: xs, p⟩ ∧ readText ⟨'"' :: xs, p⟩ = .ok (s, c') := by
  constructor
  · intro h
    cases readsAs_of_readValue h with
    | text hc htext => exact ⟨_, _, hc, htext⟩
  · rintro ⟨xs, p, hc, htext⟩
    unfold readValue
    simp only [hc, htext]
    rfl

/-- A null is read where its first letter comes next. -/
theorem readValue_null : readValue depth c = .ok (.null, c') ↔ ∃ xs p, skipBlanks c = ⟨'n' :: xs, p⟩ ∧
    readWord .null ['u', 'l', 'l'] ⟨xs, p.behind 'n'⟩ = .ok (.null, c') := by
  constructor
  · intro h
    cases readsAs_of_readValue h with
    | null hc hword => exact ⟨_, _, hc, hword⟩
  · rintro ⟨xs, p, hc, hword⟩
    unfold readValue
    simp only [hc]
    exact hword

/-- Where a brace comes next, members are read. -/
theorem readValue_of_brace {xs : List Char} {p : Place} (hc : skipBlanks c = ⟨'{' :: xs, p⟩) :
    readValue (depth + 1) c = readMembers (readValue depth) (xs.length + 1) [] ⟨xs, p.behind '{'⟩ := by
  rw [readValue]
  simp only [hc]
  rfl

/-- An object is read where a brace comes next. -/
theorem readValue_object {members : List (String × Json)} : readValue (depth + 1) c = .ok (.object members, c') ↔
    ∃ xs p, skipBlanks c = ⟨'{' :: xs, p⟩ ∧
      readMembers (readValue depth) (xs.length + 1) [] ⟨xs, p.behind '{'⟩ = .ok (.object members, c') := by
  constructor
  · intro h
    cases readsAs_of_readValue h with
    | object hc hdepth hmembers =>
      cases hdepth
      exact ⟨_, _, hc, hmembers⟩
  · rintro ⟨xs, p, hc, hmembers⟩
    rwa [readValue_of_brace hc]

end Values

/-! ## Expected values -/

section Expected

variable {c c' : Cursor}

theorem expectText_eq_ok_iff (expected : String) (depth : Nat) {s : String} :
    expectText expected c = .ok (s, c') ↔ readValue depth c = .ok (.text s, c') := by
  rw [readValue_text, expectText]
  rcases skipBlanks c with ⟨rest, p⟩
  constructor
  · intro h
    split at h
    · rename_i xs hrest
      cases hrest
      exact ⟨xs, p, rfl, h⟩
    · cases h
  · rintro ⟨xs, p, hc, htext⟩
    cases hc
    exact htext

theorem expectNull_eq_ok_iff (expected : String) (depth : Nat) :
    expectNull expected c = .ok ((), c') ↔ readValue depth c = .ok (.null, c') := by
  rw [readValue_null, expectNull]
  rcases skipBlanks c with ⟨rest, p⟩
  constructor
  · intro h
    split at h
    · rename_i xs hrest
      cases hrest
      obtain ⟨⟨value, c₁⟩, hword, hc₁⟩ := map_eq_ok.mp h
      cases hc₁
      cases eq_of_readWord hword
      exact ⟨xs, p, rfl, hword⟩
    · cases h
  · rintro ⟨xs, p, hc, hword⟩
    cases hc
    exact map_eq_ok.mpr ⟨_, hword, rfl⟩

/-- The value names a variant: it is the name, or an object with null under the name and with no other key. -/
def Names {α : Type} (variants : List (String × α)) (value : Json) (a : α) : Prop :=
  ∃ name, variants.lookup name = some a ∧ (value = .text name ∨ value = .object [(name, .null)])

variable {α : Type} {variants : List (String × α)} {a : α}

theorem Names.unique {value : Json} {b : α} (ha : Names variants value a) (hb : Names variants value b) : a = b := by
  obtain ⟨name, hname, rfl | rfl⟩ := ha <;> obtain ⟨name', hname', heq | heq⟩ := hb <;> cases heq <;>
    exact Option.some.inj (hname.symm.trans hname')

theorem variantOfName_eq_ok_iff {name : String} :
    variantOfName variants name = .ok a ↔ variants.lookup name = some a := by
  unfold variantOfName
  cases variants.lookup name <;> simp

theorem readName_eq_ok_iff : readName variants c = .ok (a, c') ↔
    ∃ name, readText c = .ok (name, c') ∧ variants.lookup name = some a := by
  rw [readName, bind_eq_ok]
  constructor
  · rintro ⟨⟨name, c₁⟩, htext, h⟩
    cases hname : variantOfName variants name with
    | error mismatch => simp [hname] at h
    | ok value =>
      simp only [hname] at h
      cases h
      exact ⟨name, htext, variantOfName_eq_ok_iff.mp hname⟩
  · rintro ⟨name, htext, hname⟩
    refine ⟨(name, c'), htext, ?_⟩
    simp only [variantOfName_eq_ok_iff.mpr hname]

/-- The only key of an object comes next. -/
theorem seekName_eq_ok_iff : seekName c = .ok ((), c') ↔ seekKey true c = .ok (true, c') := by
  rw [seekName, bind_eq_ok]
  constructor
  · rintro ⟨⟨more, c₁⟩, hseek, h⟩
    cases more with
    | false => cases h
    | true =>
      cases h
      exact hseek
  · intro hseek
    exact ⟨_, hseek, rfl⟩

/-- An object ends where a closing brace comes next. -/
theorem endAhead_iff {first : Bool} : EndAhead first c c' ↔
    ∃ xs p, skipBlanks c = ⟨'}' :: xs, p⟩ ∧ c' = ⟨xs, p.behind '}'⟩ := by
  unfold EndAhead seekKey
  rcases skipBlanks c with ⟨rest, p⟩
  constructor
  · rintro ⟨c₁, hseek, rfl⟩
    dsimp only at hseek
    split at hseek
    · cases hseek
    · cases hseek
      exact ⟨_, p, rfl, rfl⟩
    · -- a key or a fault
      cases first with
      | true =>
        rw [if_pos rfl] at hseek
        split at hseek <;> cases hseek
      | false =>
        rw [if_neg Bool.false_ne_true] at hseek
        split at hseek
        · split at hseek <;> cases hseek
        · cases hseek
  · rintro ⟨xs, q, hc, rfl⟩
    cases hc
    exact ⟨_, rfl, rfl⟩

theorem closeVariant_eq_ok_iff : closeVariant c = .ok ((), c') ↔ EndAhead false c c' := by
  rw [endAhead_iff, closeVariant]
  rcases skipBlanks c with ⟨rest, p⟩
  constructor
  · intro h
    dsimp only at h
    split at h
    · cases h
    · cases h
      exact ⟨_, p, rfl, rfl⟩
    · cases h
  · rintro ⟨xs, q, hc, rfl⟩
    cases hc
    rfl

/-- An object of one member is read as a key with its value. -/
theorem readMembers_single {item : Cursor → Reading Json} {n : Nat} {name : String} {value : Json} :
    readMembers item (n + 2) [] c = .ok (.object [(name, value)], c') ↔
      ∃ c₁ c₂, KeyAhead true c name c₁ ∧ item c₁ = .ok (value, c₂) ∧ EndAhead false c₂ c' := by
  rw [readMembers_succ]
  constructor
  · rintro (⟨-, hnone⟩ | ⟨key, c₁, v, c₂, hkey, hitem, hrest⟩)
    · simp at hnone
    · obtain ⟨members, hmembers⟩ := isObject_of_readMembers hrest
      simp only [List.reverse_singleton, List.singleton_append, object.injEq, List.cons.injEq,
        Prod.mk.injEq] at hmembers
      obtain ⟨⟨rfl, rfl⟩, -⟩ := hmembers
      exact ⟨c₁, c₂, hkey, hitem, readMembers_end.mp hrest⟩
  · rintro ⟨c₁, c₂, hkey, hitem, hend⟩
    exact .inr ⟨name, c₁, value, c₂, hkey, hitem, readMembers_end.mpr hend⟩

theorem readValue_single {depth : Nat} {name : String} {value : Json} {xs : List Char} {p : Place}
    (hc : skipBlanks c = ⟨'{' :: xs, p⟩) : readValue (depth + 1) c = .ok (.object [(name, value)], c') ↔
      ∃ c₁ c₂, KeyAhead true ⟨xs, p.behind '{'⟩ name c₁ ∧ readValue depth c₁ = .ok (value, c₂) ∧
        EndAhead false c₂ c' := by
  rw [readValue_of_brace hc]
  cases xs with
  | nil =>
    -- the text breaks off
    constructor
    · intro h
      rcases readMembers_succ.mp h with ⟨⟨_, hseek, -⟩, -⟩ | ⟨_, _, _, _, ⟨_, _, hseek, -⟩, -⟩ <;> cases hseek
    · rintro ⟨_, _, ⟨_, _, hseek, -⟩, -⟩
      cases hseek
  | cons x xs => exact readMembers_single

/-- The object form of a name, step by step. -/
theorem expectVariant_object {xs : List Char} {p : Place} (hc : skipBlanks c = ⟨'{' :: xs, p⟩) :
    expectVariant variants c = .ok (a, c') ↔ ∃ name c₁ c₂, KeyAhead true ⟨xs, p.behind '{'⟩ name c₁ ∧
      variants.lookup name = some a ∧ expectNull "unit" c₁ = .ok ((), c₂) ∧ EndAhead false c₂ c' := by
  unfold expectVariant
  simp only [hc]
  constructor
  · intro h
    obtain ⟨⟨⟨⟩, c₁⟩, hseek, h⟩ := bind_eq_ok.mp h
    obtain ⟨⟨a', c₂⟩, hread, h⟩ := bind_eq_ok.mp h
    obtain ⟨⟨⟨⟩, c₃⟩, hcolon, h⟩ := bind_eq_ok.mp h
    obtain ⟨⟨⟨⟩, c₄⟩, hnull, h⟩ := bind_eq_ok.mp h
    obtain ⟨⟨⟨⟩, c₅⟩, hclose, h⟩ := map_eq_ok.mp h
    cases h
    obtain ⟨name, htext, hname⟩ := readName_eq_ok_iff.mp hread
    exact ⟨name, c₃, c₄, ⟨c₁, c₂, seekName_eq_ok_iff.mp hseek, htext, hcolon⟩, hname, hnull,
      closeVariant_eq_ok_iff.mp hclose⟩
  · rintro ⟨name, c₃, c₄, ⟨c₁, c₂, hseek, htext, hcolon⟩, hname, hnull, hend⟩
    refine bind_eq_ok.mpr ⟨_, seekName_eq_ok_iff.mpr hseek, ?_⟩
    refine bind_eq_ok.mpr ⟨_, readName_eq_ok_iff.mpr ⟨name, htext, hname⟩, ?_⟩
    refine bind_eq_ok.mpr ⟨_, hcolon, ?_⟩
    refine bind_eq_ok.mpr ⟨_, hnull, ?_⟩
    exact map_eq_ok.mpr ⟨_, closeVariant_eq_ok_iff.mpr hend, rfl⟩

/-- **A name is read where a value is that names a variant.** -/
theorem expectVariant_eq_ok_iff (depth : Nat) : expectVariant variants c = .ok (a, c') ↔
    ∃ value, readValue (depth + 1) c = .ok (value, c') ∧ Names variants value a := by
  constructor
  · intro h
    rcases hc : skipBlanks c with ⟨rest, p⟩
    have hquote := h
    unfold expectVariant at hquote
    simp only [hc] at hquote
    split at hquote
    · cases hquote
    · obtain ⟨name, htext, hname⟩ := readName_eq_ok_iff.mp hquote
      exact ⟨.text name, readValue_text.mpr ⟨_, p, hc, htext⟩, name, hname, .inl rfl⟩
    · obtain ⟨name, c₁, c₂, hkey, hname, hnull, hend⟩ := (expectVariant_object hc).mp h
      refine ⟨.object [(name, .null)], ?_, name, hname, .inr rfl⟩
      exact (readValue_single hc).mpr ⟨c₁, c₂, hkey, (expectNull_eq_ok_iff "unit" depth).mp hnull, hend⟩
    · cases hquote
  · rintro ⟨value, hvalue, name, hname, rfl | rfl⟩
    · obtain ⟨xs, p, hc, htext⟩ := readValue_text.mp hvalue
      unfold expectVariant
      simp only [hc]
      exact readName_eq_ok_iff.mpr ⟨name, htext, hname⟩
    · obtain ⟨xs, p, hc, -⟩ := readValue_object.mp hvalue
      obtain ⟨c₁, c₂, hkey, hnull, hend⟩ := (readValue_single hc).mp hvalue
      exact (expectVariant_object hc).mpr
        ⟨name, c₁, c₂, hkey, hname, (expectNull_eq_ok_iff "unit" depth).mpr hnull, hend⟩

end Expected

end ShipManifest.Json
