import ShipManifest.Proofs.Evaluation
import ShipManifest.Proofs.SmallLetters

/-!
# What is found when case is ignored

Comparing in small letters finds what an exact comparison finds, but for capital sigmas, which have another small form
at the end of a word than elsewhere: `ΑΣ` occurs in `ΑΣΑ`, and `ας` does not occur in `ασα` (`final_sigma_lost`).

* A directive that holds exactly also holds when case is ignored, if its value occurs in the field with its sigmas as
  they are in the value (`Directive.holds_ignoreCase`).
* Narrowing keeps everyone of whom the query holds, in order (`Query.sublist_narrow`).

Main statement: only records in which every occurrence of a value changes a sigma can be lost, and the names for which
no search loses anyone are those with settled sigmas (`ignoring_case_keeps_matches`).
-/

namespace ShipManifest

/-! ## Directives -/

/-- If the directive looks for a value, its field holds the value with the sigmas that end words in it. -/
def Directive.OccursAlike (r : Record) : Directive → Prop
  | ⟨.text key, some value⟩ => ∃ text, key.field? r = some text ∧ Text.OccursAlike value.toList text.toList
  | ⟨.text _, none⟩ => True
  | ⟨.flag _, _⟩ => True

namespace Directive

variable {d : Directive} {r : Record}

theorem holds_ignoreCase (hexact : d.Holds .exact r) (halike : d.OccursAlike r) : d.Holds .ignoreCase r := by
  obtain ⟨key, value⟩ := d
  cases key with
  | text key =>
    cases value with
    | none => trivial
    | some value =>
      obtain ⟨text, hfield, hoccurs⟩ := halike
      exact ⟨text, hfield, Text.lower_infix_of_occursAlike hoccurs⟩
  | flag key => cases key <;> exact hexact

/-- A value with settled sigmas occurs nowhere else than alike. -/
theorem occursAlike_of_settled (hexact : d.Holds .exact r) (hsettled : ∀ value ∈ d.value, Text.Settled value.toList) :
    d.OccursAlike r := by
  obtain ⟨key, value⟩ := d
  cases key with
  | text key =>
    cases value with
    | none => trivial
    | some value =>
      obtain ⟨text, hfield, x, y, hoccurs⟩ := hexact
      exact ⟨text, hfield, x, y, hoccurs.symm, (hsettled value rfl).sigmasKept x y⟩
  | flag key => trivial

end Directive

/-! ## Who is kept -/

theorem Query.sublist_narrow {mode : MatchMode} {query : Query} {kept listed : List Listed} (hsub : kept.Sublist listed)
    (h : ∀ entry ∈ kept, ∀ d ∈ query, d.Holds mode entry.record) : kept.Sublist (narrow mode query listed) := by
  rw [narrow_eq_narrowFully]
  induction query generalizing listed with
  | nil => exact hsub
  | cons d rest ih =>
    have hpasses : ∀ entry ∈ kept, (Predicate.ofDirective mode d).test entry.record = true := fun entry hentry =>
      (Predicate.test_ofDirective mode d entry.record).mpr (h entry hentry d List.mem_cons_self)
    refine ih ?_ fun entry hentry d' hd' => h entry hentry d' (List.mem_cons_of_mem d hd')
    exact List.sublist_filter_iff.mpr ⟨kept, hsub, (List.filter_eq_self.mpr hpasses).symm⟩

/-- Who is found exactly and has every value alike is found when case is ignored. -/
theorem Query.sublist_narrow_ignoreCase {query : Query} {kept listed : List Listed}
    (hsub : kept.Sublist (narrow .exact query listed))
    (halike : ∀ entry ∈ kept, ∀ d ∈ query, d.OccursAlike entry.record) :
    kept.Sublist (narrow .ignoreCase query listed) := by
  refine sublist_narrow (hsub.trans (narrow_sublist .exact query listed)) fun entry hentry d hd => ?_
  have hexact := (mem_narrow.mp (hsub.subset hentry)).2 d hd
  exact d.holds_ignoreCase hexact (halike entry hentry d hd)

/-- Whoever is found by name is found in order. -/
theorem sublist_searchName {mode : MatchMode} {listed kept : List Listed} {name : String} (hsub : kept.Sublist listed)
    (h : ∀ entry ∈ kept, mode.Occurs name entry.record.fullName) :
    kept.Sublist (searchName mode listed name).found := by
  have hcontains : ∀ entry ∈ kept, mode.contains entry.record.fullName (mode.normalize name.toList) = true :=
    fun entry hentry => (mode.contains_normalize name entry.record.fullName).mpr (h entry hentry)
  exact List.sublist_filter_iff.mpr ⟨kept, hsub, (List.filter_eq_self.mpr hcontains).symm⟩

theorem searchName_sublist (mode : MatchMode) (listed : List Listed) (name : String) :
    (searchName mode listed name).found.Sublist listed :=
  List.filter_sublist

theorem sublist_searchName_ignoreCase {listed kept : List Listed} {name : String}
    (hsub : kept.Sublist (searchName .exact listed name).found)
    (halike : ∀ entry ∈ kept, Text.OccursAlike name.toList entry.record.fullName.toList) :
    kept.Sublist (searchName .ignoreCase listed name).found :=
  sublist_searchName (hsub.trans (searchName_sublist .exact listed name)) fun entry hentry =>
    Text.lower_infix_of_occursAlike (halike entry hentry)

/-! ## Ignoring case -/

/-- **Ignoring case keeps matches, final sigmas apart.** Records that are found exactly are found when case is ignored,
in order, if each value of the query occurs in its field at a place where its capital sigmas end words as they do in the
value; so are records found by name. None is lost where the sigmas are settled by the values, and a search by name that
never loses any is a search for such a text. -/
theorem ignoring_case_keeps_matches (stride : Stride) (input name : String) :
    let query := Query.parse stride input
    (∀ listed kept : List Listed, kept.Sublist (Query.evaluate ⟨stride, .exact⟩ listed input).found →
      (∀ entry ∈ kept, ∀ d ∈ query, d.OccursAlike entry.record) →
        kept.Sublist (Query.evaluate ⟨stride, .ignoreCase⟩ listed input).found) ∧
    (∀ listed kept : List Listed, kept.Sublist (searchName .exact listed name).found →
      (∀ entry ∈ kept, Text.OccursAlike name.toList entry.record.fullName.toList) →
        kept.Sublist (searchName .ignoreCase listed name).found) ∧
    ((∀ d ∈ query, ∀ value ∈ d.value, Text.Settled value.toList) → ∀ listed : List Listed,
      (Query.evaluate ⟨stride, .exact⟩ listed input).found.Sublist
        (Query.evaluate ⟨stride, .ignoreCase⟩ listed input).found) ∧
    (Text.Settled name.toList ↔ ∀ listed : List Listed,
      (searchName .exact listed name).found.Sublist (searchName .ignoreCase listed name).found) := by
  intro query
  refine ⟨fun listed kept => Query.sublist_narrow_ignoreCase, fun listed kept => sublist_searchName_ignoreCase,
    fun hsettled listed => ?_, fun hsettled listed => ?_, fun hkept => ?_⟩
  · refine Query.sublist_narrow_ignoreCase (List.Sublist.refl _) fun entry hentry d hd => ?_
    exact d.occursAlike_of_settled ((Query.mem_narrow.mp hentry).2 d hd) (hsettled d hd)
  · refine sublist_searchName (searchName_sublist .exact listed name) fun entry hentry => ?_
    exact Text.settled_iff.mp hsettled _ (mem_searchName.mp hentry).2
  · rw [Text.settled_iff]
    intro cs hoccurs
    -- a manifest with one record, whose name is the text
    let entry : Listed := ⟨0, Record.ofRow [String.ofList cs]⟩
    have hname : entry.record.fullName.toList = cs := String.toList_ofList
    have hexact : entry ∈ (searchName .exact [entry] name).found := by
      rw [mem_searchName, MatchMode.Occurs, hname]
      exact ⟨List.mem_singleton_self entry, hoccurs⟩
    have hignoring := (mem_searchName.mp ((hkept [entry]).subset hexact)).2
    rwa [MatchMode.Occurs, hname] at hignoring

/-- Behind `ΧΡΙΣ` the sigma of `ΤΟΣ` ends a word as it does alone, though `ΤΟΣ` does not settle it. `ΡΙΣΤ` settles its
own. -/
theorem ignoring_case_keeps_matches_at_word_end :
    let record := Record.ofRow ["ΧΡΙΣΤΟΣ/ Α", "", "", "", "", "T"]
    let listed : List Listed := [⟨0, record⟩]
    ¬ Text.Settled "ΤΟΣ".toList ∧ Text.Settled "ΡΙΣΤ".toList ∧
      listed.Sublist (Query.evaluate ⟨.paired, .ignoreCase⟩ listed "last:ΤΟΣ").found ∧
      listed.Sublist (searchName .ignoreCase listed "ΤΟΣ").found ∧
      (Query.evaluate ⟨.compact, .exact⟩ listed "surv:last:ΡΙΣΤ").found.Sublist
        (Query.evaluate ⟨.compact, .ignoreCase⟩ listed "surv:last:ΡΙΣΤ").found := by
  intro record listed
  have hsettled : Text.Settled "ΡΙΣΤ".toList := by decide +kernel
  have hlast : Text.OccursAlike "ΤΟΣ".toList record.lastName.toList :=
    ⟨"ΧΡΙΣ".toList, [], by decide +kernel, by decide +kernel⟩
  have hfull : Text.OccursAlike "ΤΟΣ".toList record.fullName.toList :=
    ⟨"ΧΡΙΣ".toList, "/ Α".toList, by decide +kernel, by decide +kernel⟩
  refine ⟨by decide +kernel, hsettled, ?_, ?_, ?_⟩
  · have hquery : Query.parse .paired "last:ΤΟΣ" = [⟨.text .lastName, some "ΤΟΣ"⟩] := by decide +kernel
    refine (ignoring_case_keeps_matches .paired "last:ΤΟΣ" "").1 listed listed (by decide +kernel) ?_
    rw [hquery, List.forall_mem_singleton, List.forall_mem_singleton]
    exact ⟨record.lastName, rfl, hlast⟩
  · refine (ignoring_case_keeps_matches .paired "" "ΤΟΣ").2.1 listed listed (by decide +kernel) ?_
    rwa [List.forall_mem_singleton]
  · have hquery : Query.parse .compact "surv:last:ΡΙΣΤ" =
        [⟨.flag .survived, none⟩, ⟨.text .lastName, some "ΡΙΣΤ"⟩] := by decide +kernel
    refine (ignoring_case_keeps_matches .compact "surv:last:ΡΙΣΤ" "").2.2.1 ?_ listed
    rw [hquery, List.forall_mem_cons, List.forall_mem_singleton]
    refine ⟨fun value hvalue => ?_, fun value hvalue => ?_⟩
    · cases hvalue
    · cases hvalue
      exact hsettled

/-- A sigma that ends a word in the text to look for, but not in the name. -/
theorem final_sigma_lost :
    let listed := Listed.ofRecords [Record.ofRow ["ΑΣΑ", "", "", "", "", ""]]
    (Query.evaluate ⟨.paired, .exact⟩ listed "last:ΑΣ").found = listed ∧
      (Query.evaluate ⟨.paired, .ignoreCase⟩ listed "last:ΑΣ").found = [] ∧
      (Query.evaluate ⟨.compact, .exact⟩ listed "last:ΑΣ").found = listed ∧
      (Query.evaluate ⟨.compact, .ignoreCase⟩ listed "last:ΑΣ").found = [] ∧
      (searchName .exact listed "ΑΣ").found = listed ∧ (searchName .ignoreCase listed "ΑΣ").found = [] := by
  decide +kernel

end ShipManifest
