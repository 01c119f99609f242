import Mathlib.Logic.Basic
import ShipManifest.Text.Case
import ShipManifest.Text.Search

/-!
# Small letters of a part

The small form of a text is that of its parts, but for capital sigmas, whose small form depends on what stands around
the part (`Text.lowerAfter_append`).

* A character that is neither cased nor case-ignorable cuts a text into parts with small forms of their own
  (`Text.lower_cut`).
* Where each capital sigma of a part ends a word exactly if it does in the part alone, the small form of the part is
  found in that of the text (`Text.lower_infix_of_occursAlike`).
* The parts that have one small form wherever they stand are those whose capital sigmas are settled by the part alone
  (`Text.settled_iff`).
-/

namespace ShipManifest.Text

/-! ## What stands around a character -/

theorem startsCased_append (xs ys : List Char) :
    startsCased (xs ++ ys) = if xs.all isCaseIgnorable then startsCased ys else startsCased xs := by
  induction xs with
  | nil => rfl
  | cons x xs ih =>
    rw [List.cons_append, startsCased, startsCased, ih, List.all_cons]
    cases isCaseIgnorable x <;> rfl

theorem startsCased_of_ignorable {xs : List Char} (h : xs.all isCaseIgnorable = true) : startsCased xs = false := by
  have happend := startsCased_append xs []
  rw [List.append_nil, if_pos h] at happend
  exact happend

theorem foldl_endsCased (before : Bool) (xs : List Char) :
    xs.foldl endsCased before = if xs.all isCaseIgnorable then before else xs.foldl endsCased false := by
  induction xs generalizing before with
  | nil => rfl
  | cons x xs ih =>
    rw [List.foldl_cons, List.foldl_cons, ih, ih (endsCased false x), List.all_cons]
    cases hx : isCaseIgnorable x <;> cases xs.all isCaseIgnorable <;> simp [endsCased, hx]

theorem endsCased_of_not_ignorable {c : Char} (h : isCaseIgnorable c = false) (before : Bool) :
    endsCased before c = isCased c := by
  rw [endsCased, h]
  rfl

/-! A sigma is cased and never case-ignorable. -/

theorem isCaseIgnorable_sigma : isCaseIgnorable 'Σ' = false := by decide +kernel

theorem isCased_sigma : isCased 'Σ' = true := by decide

theorem startsCased_sigma (cs : List Char) : startsCased ('Σ' :: cs) = true := by
  rw [startsCased, isCaseIgnorable_sigma, isCased_sigma]
  rfl

theorem endsCased_sigma (before : Bool) : endsCased before 'Σ' = true := by
  rw [endsCased_of_not_ignorable isCaseIgnorable_sigma, isCased_sigma]

/-- Whether a capital sigma ends a word between the texts before and after it. -/
def endsWord (before after : List Char) : Bool :=
  before.foldl endsCased false && !startsCased after

/-! ## Parts -/

/-- The small form of a text where another one follows and `before` tells whether the text to the left ends with a cased
character. -/
def lowerBetween : Bool → List Char → List Char → List Char
  | _, [], _ => []
  | before, c :: cs, rest =>
    let small := if c = 'Σ' then [if before && !startsCased (cs ++ rest) then 'ς' else 'σ'] else lowerChar c
    small ++ lowerBetween (endsCased before c) cs rest

theorem lowerAfter_append (before : Bool) (xs ys : List Char) :
    lowerAfter before (xs ++ ys) = lowerBetween before xs ys ++ lowerAfter (xs.foldl endsCased before) ys := by
  induction xs generalizing before with
  | nil => rfl
  | cons x xs ih => rw [List.cons_append, lowerAfter, lowerBetween, ih, List.append_assoc, List.foldl_cons]

theorem lowerBetween_nil (before : Bool) (cs : List Char) : lowerBetween before cs [] = lowerAfter before cs := by
  have h := lowerAfter_append before cs []
  rw [List.append_nil, lowerAfter, List.append_nil] at h
  exact h.symm

/-- The small form of a part depends only on which of its capital sigmas end a word. -/
theorem lowerBetween_congr {cs rest rest' : List Char} {before before' : Bool}
    (h : ∀ p s, cs = p ++ 'Σ' :: s → (p.foldl endsCased before && !startsCased (s ++ rest)) =
      (p.foldl endsCased before' && !startsCased (s ++ rest'))) :
    lowerBetween before cs rest = lowerBetween before' cs rest' := by
  induction cs generalizing before before' with
  | nil => rfl
  | cons c cs ih =>
    rw [lowerBetween, lowerBetween]
    have htail : lowerBetween (endsCased before c) cs rest = lowerBetween (endsCased before' c) cs rest' :=
      ih fun p s hcs => h (c :: p) s (by rw [hcs, List.cons_append])
    rw [htail]
    split
    · rename_i hc
      have hsigma : (before && !startsCased (cs ++ rest)) = (before' && !startsCased (cs ++ rest')) :=
        h [] cs (by rw [hc, List.nil_append])
      rw [hsigma]
    · rfl

/-- A character that belongs to no word cuts the text in two. -/
theorem lower_cut {c : Char} (hcased : isCased c = false) (hignorable : isCaseIgnorable c = false) (xs ys : List Char) :
    lower (xs ++ c :: ys) = lower xs ++ lowerChar c ++ lower ys := by
  have hc : c ≠ 'Σ' := by
    rintro rfl
    rw [isCased_sigma] at hcased
    cases hcased
  have hxs : lowerBetween false xs (c :: ys) = lower xs := by
    rw [lower, ← lowerBetween_nil]
    refine lowerBetween_congr fun p s _ => ?_
    have hstart : startsCased (s ++ c :: ys) = startsCased s := by
      rw [startsCased_append, startsCased, hignorable, hcased]
      split
      · rename_i hs
        exact (startsCased_of_ignorable hs).symm
      · rfl
    rw [hstart, List.append_nil]
  rw [lower, lowerAfter_append, hxs, lowerAfter, if_neg hc, endsCased_of_not_ignorable hignorable, hcased,
    List.append_assoc]
  rfl

/-! ## Occurrences -/

/-- Each capital sigma of `v` ends a word between `x` and `y` exactly if it ends one in `v` alone. -/
def SigmasKept (x v y : List Char) : Prop :=
  ∀ p s, v = p ++ 'Σ' :: s → endsWord (x ++ p) (s ++ y) = endsWord p s

/-- The text holds `v` at a place where the capital sigmas of `v` end words as they do in `v` alone. -/
def OccursAlike (v cs : List Char) : Prop :=
  ∃ x y, cs = x ++ v ++ y ∧ SigmasKept x v y

/-- Where its capital sigmas are kept, a part has the small form that it has alone. -/
theorem lowerBetween_of_sigmasKept {x v y : List Char} (h : SigmasKept x v y) :
    lowerBetween (x.foldl endsCased false) v y = lower v := by
  rw [lower, ← lowerBetween_nil]
  refine lowerBetween_congr fun p s hps => ?_
  have hsigma : endsWord (x ++ p) (s ++ y) = endsWord p s := h p s hps
  rw [endsWord, endsWord, List.foldl_append] at hsigma
  rw [hsigma, List.append_nil]

theorem lower_infix_of_occursAlike {v cs : List Char} (h : OccursAlike v cs) : lower v <:+: lower cs := by
  obtain ⟨x, y, rfl, hkept⟩ := h
  have hparts : lower (x ++ v ++ y) =
      lowerBetween false x (v ++ y) ++ (lower v ++ lowerAfter (v.foldl endsCased (x.foldl endsCased false)) y) := by
    rw [lower, List.append_assoc, lowerAfter_append, lowerAfter_append, lowerBetween_of_sigmasKept hkept]
  rw [hparts]
  exact List.infix_append' _ _ _

/-- The capital sigmas of a text, each with what stands before and behind it. -/
theorem forall_sigma_iff (P : List Char → List Char → Prop) (v : List Char) :
    (∀ i < v.length, v[i]? = some 'Σ' → P (v.take i) (v.drop (i + 1))) ↔ ∀ p s, v = p ++ 'Σ' :: s → P p s := by
  constructor
  · rintro h p s rfl
    simpa using h p.length (by simp)
  · intro h i hi hsigma
    refine h _ _ ?_
    rw [List.getElem?_eq_getElem hi, Option.some.injEq] at hsigma
    rw [← hsigma, ← List.drop_eq_getElem_cons hi, List.take_append_drop]

instance (x v y : List Char) : Decidable (SigmasKept x v y) :=
  decidable_of_iff _ (forall_sigma_iff (fun p s => endsWord (x ++ p) (s ++ y) = endsWord p s) v)

/-! ## Settled sigmas -/

/-- Each capital sigma of `v` is settled by `v` alone. Case-ignorable characters apart, the next character behind it is
cased, or the next one before it is not, or there are characters on both sides of it. -/
def Settled (v : List Char) : Prop :=
  ∀ p s, v = p ++ 'Σ' :: s → startsCased s = true ∨
    (p.all isCaseIgnorable = false ∧ (p.foldl endsCased false = false ∨ s.all isCaseIgnorable = false))

instance (v : List Char) : Decidable (Settled v) :=
  decidable_of_iff _ (forall_sigma_iff _ v)

theorem Settled.sigmasKept {v : List Char} (h : Settled v) (x y : List Char) : SigmasKept x v y := by
  intro p s hps
  rw [endsWord, endsWord, List.foldl_append, foldl_endsCased, startsCased_append]
  rcases h p s hps with hs | ⟨hp, hp' | hs⟩
  · have hall : s.all isCaseIgnorable ≠ true := fun hall => by
      rw [startsCased_of_ignorable hall] at hs
      cases hs
    simp [hall, hs]
  · simp [hp, hp']
  · simp [hp, hs]

theorem lowerBetween_sigma (before : Bool) (xs rest : List Char) :
    lowerBetween before xs ('Σ' :: rest) = lowerBetween before xs ['Σ'] := by
  refine lowerBetween_congr fun p s _ => ?_
  rw [startsCased_append, startsCased_append, startsCased_sigma, startsCased_sigma]

/-- The small form of a text at one of its capital sigmas. -/
theorem lowerAfter_sigma (before : Bool) (p s : List Char) :
    lowerAfter before (p ++ 'Σ' :: s) = lowerBetween before p ['Σ'] ++
      (if p.foldl endsCased before && !startsCased s then 'ς' else 'σ') :: lowerAfter true s := by
  rw [lowerAfter_append, lowerBetween_sigma, lowerAfter, if_pos rfl, endsCased_sigma]
  rfl

/-- Case-ignorable characters have one small form each. -/
theorem lowerBetween_of_ignorable {xs : List Char} (h : xs.all isCaseIgnorable = true) (before before' : Bool)
    (rest rest' : List Char) : lowerBetween before xs rest = lowerBetween before' xs rest' := by
  refine lowerBetween_congr fun p s hps => ?_
  have hsigma : isCaseIgnorable 'Σ' = true := List.all_eq_true.mp h 'Σ' (by simp [hps])
  rw [isCaseIgnorable_sigma] at hsigma
  cases hsigma

/-- Where one character is replaced by another one, a text is not found, whatever else is added. -/
theorem not_infix_of_replaced {c d : Char} (hne : d ≠ c) {x y : List Char} (hx : c ∉ x) (hy : c ∉ y)
    (p s : List Char) : ¬ p ++ c :: s <:+: x ++ (p ++ d :: s) ++ y := by
  intro hinfix
  have hcount := hinfix.sublist.count_le c
  simp only [List.count_append, List.count_cons_self, List.count_cons_of_ne hne, List.count_eq_zero_of_not_mem hx,
    List.count_eq_zero_of_not_mem hy] at hcount
  omega

theorem lowerChar_letter : lowerChar 'a' = ['a'] := by decide

/-- A sigma with nothing before it ends a word behind a letter, and none alone. -/
theorem not_infix_behind_letter {p s : List Char} (hp : p.all isCaseIgnorable = true) (hs : startsCased s = false) :
    ¬ lower (p ++ 'Σ' :: s) <:+: lower (['a'] ++ (p ++ 'Σ' :: s) ++ []) := by
  have halone : lower (p ++ 'Σ' :: s) = lowerBetween false p ['Σ'] ++ 'σ' :: lowerAfter true s := by
    rw [lower, lowerAfter_sigma, foldl_endsCased, if_pos hp]
    rfl
  have hbehind : lower (['a'] ++ (p ++ 'Σ' :: s) ++ []) =
      ['a'] ++ (lowerBetween false p ['Σ'] ++ 'ς' :: lowerAfter true s) ++ [] := by
    have hletter : endsCased false 'a' = true := endsCased_of_not_ignorable (by decide) false
    rw [List.append_nil, List.append_nil, List.singleton_append, lower, lowerAfter, if_neg (by decide),
      lowerChar_letter, hletter, lowerAfter_sigma, foldl_endsCased, if_pos hp, hs,
      lowerBetween_of_ignorable hp true false]
    rfl
  rw [halone, hbehind]
  exact not_infix_of_replaced (by decide) (by decide) List.not_mem_nil _ _

/-- A sigma that ends a word at the end of a text ends none in front of a letter. -/
theorem not_infix_before_letter {p s : List Char} (hp : p.foldl endsCased false = true)
    (hs : s.all isCaseIgnorable = true) :
    ¬ lower (p ++ 'Σ' :: s) <:+: lower ([] ++ (p ++ 'Σ' :: s) ++ ['a']) := by
  have halone : lower (p ++ 'Σ' :: s) = lowerBetween false p ['Σ'] ++ 'ς' :: lowerAfter true s := by
    rw [lower, lowerAfter_sigma, hp, startsCased_of_ignorable hs]
    rfl
  have hbefore : lower ([] ++ (p ++ 'Σ' :: s) ++ ['a']) =
      [] ++ (lowerBetween false p ['Σ'] ++ 'σ' :: lowerAfter true s) ++ ['a'] := by
    have hletter : startsCased (s ++ ['a']) = true := by
      rw [startsCased_append, if_pos hs]
      decide
    have hrest : lowerAfter true (s ++ ['a']) = lowerAfter true s ++ ['a'] := by
      rw [lowerAfter_append, lowerBetween_of_ignorable hs true true ['a'] [], lowerBetween_nil, lowerAfter,
        if_neg (by decide), lowerChar_letter]
      rfl
    rw [List.nil_append, List.nil_append, List.append_assoc, List.append_assoc, List.cons_append, lower,
      lowerAfter_sigma, hp, hletter, hrest]
    rfl
  rw [halone, hbefore]
  exact not_infix_of_replaced (by decide) List.not_mem_nil (by decide) _ _

/-- A part with a sigma that it does not settle is lost somewhere. -/
theorem exists_not_infix_of_not_settled {v : List Char} (h : ¬ Settled v) :
    ∃ x y, ¬ lower v <:+: lower (x ++ v ++ y) := by
  simp only [Settled, not_forall, not_or, not_and, Bool.not_eq_true, Bool.not_eq_false] at h
  obtain ⟨p, s, rfl, hs, hunsettled⟩ := h
  cases hp : p.all isCaseIgnorable with
  | true => exact ⟨['a'], [], not_infix_behind_letter hp hs⟩
  | false =>
    obtain ⟨hcased, hs'⟩ := hunsettled hp
    exact ⟨[], ['a'], not_infix_before_letter hcased hs'⟩

/-- A part is settled exactly if ignoring case finds it in every text that holds it. -/
theorem settled_iff {v : List Char} : Settled v ↔ ∀ cs, v <:+: cs → lower v <:+: lower cs := by
  constructor
  · rintro h _ ⟨x, y, rfl⟩
    exact lower_infix_of_occursAlike ⟨x, y, rfl, h.sigmasKept x y⟩
  · intro h
    refine Classical.byContradiction fun hsettled => ?_
    obtain ⟨x, y, hlost⟩ := exists_not_infix_of_not_settled hsettled
    exact hlost (h _ (List.infix_append x v y))

end ShipManifest.Text
