import ShipManifest.Proofs.Evaluation

/-!
# Narrowing

Each directive filters the list, so a whole query is one filter, too (`Query.narrow_eq_filter`): whoever passes the
tests of all directives is left, and a query passes nobody whom some of its directives do not pass
(`Query.passes_of_subset`).

Main statement: directives narrow as a set (`Query.apply_narrows`). Their order and repetition do not matter, more of
them never find more, and what some of them found may stand for the whole list where the others are applied.
-/

namespace ShipManifest.Query

/-- Whether the record passes the tests of all directives. -/
def passes (mode : MatchMode) (query : Query) (r : Record) : Bool :=
  query.all fun d => (Predicate.ofDirective mode d).test r

section Narrow

variable {mode : MatchMode} {first second : Query}

/-- One after the other, the directives keep those who pass all of them. -/
theorem narrow_eq_filter (mode : MatchMode) (query : Query) (listed : List Listed) :
    narrow mode query listed = listed.filter fun entry => query.passes mode entry.record := by
  rw [narrow_eq_narrowFully]
  induction query generalizing listed with
  | nil => exact (List.filter_eq_self.mpr fun _ _ => rfl).symm
  | cons d rest ih =>
    have hstep : narrowFully mode (d :: rest) listed = narrowFully mode rest
        (listed.filter fun entry => (Predicate.ofDirective mode d).test entry.record) := rfl
    rw [hstep, ih, List.filter_filter]
    refine List.filter_congr fun entry _ => ?_
    rw [passes, passes, List.all_cons, Bool.and_comm]

/-- Who passes a query passes each part of it. -/
theorem passes_of_subset (h : first ⊆ second) {r : Record} (hpasses : second.passes mode r = true) :
    first.passes mode r = true := by
  rw [passes, List.all_eq_true] at hpasses ⊢
  exact fun d hd => hpasses d (h hd)

/-- What a part of the query leaves may stand for the whole list. -/
theorem narrow_narrow_of_subset (h : first ⊆ second) (listed : List Listed) :
    narrow mode second (narrow mode first listed) = narrow mode second listed := by
  rw [narrow_eq_filter mode second, narrow_eq_filter mode first, narrow_eq_filter mode second, List.filter_filter]
  refine List.filter_congr fun entry _ => ?_
  cases hpasses : second.passes mode entry.record with
  | false => rfl
  | true => exact passes_of_subset h hpasses

/-- More directives leave fewer records, in the same order. -/
theorem narrow_sublist_of_subset (h : first ⊆ second) (listed : List Listed) :
    (narrow mode second listed).Sublist (narrow mode first listed) := by
  rw [← narrow_narrow_of_subset h]
  exact narrow_sublist mode second _

theorem narrow_congr (h : ∀ d, d ∈ first ↔ d ∈ second) (listed : List Listed) :
    narrow mode first listed = narrow mode second listed := by
  have hforth : first ⊆ second := fun d hd => (h d).mp hd
  have hback : second ⊆ first := fun d hd => (h d).mpr hd
  exact (narrow_sublist_of_subset hback listed).eq_of_length_le (narrow_sublist_of_subset hforth listed).length_le

end Narrow

/-- **Directives narrow as a set.** Where a query holds every directive of another one, it has the same outcome on what
that one found as on the whole list, and it finds a part of that, in order. So queries of the same directives have the
same outcome, in any order and however often each is repeated; a query changes nothing of what it found; and without one
of its directives nobody is lost. -/
theorem apply_narrows (options : QueryOptions) (listed : List Listed) :
    let outcome := apply options.mode listed
    (∀ first second : Query, first ⊆ second →
      apply options.mode (outcome first).found second = outcome second ∧
        (outcome second).found.Sublist (outcome first).found) ∧
    (∀ first second : Query, (∀ d, d ∈ first ↔ d ∈ second) → outcome first = outcome second) ∧
    (∀ query, apply options.mode (outcome query).found query = outcome query) ∧
    (∀ input, evaluate options (evaluate options listed input).found input = evaluate options listed input) ∧
    ∀ before d after, (outcome (before ++ d :: after)).found.Sublist (outcome (before ++ after)).found := by
  intro outcome
  have hpart : ∀ first second : Query, first ⊆ second →
      apply options.mode (outcome first).found second = outcome second := fun first second h =>
    congrArg Outcome.ofFound (narrow_narrow_of_subset h listed)
  refine ⟨fun first second h => ⟨hpart first second h, narrow_sublist_of_subset h listed⟩, fun first second h => ?_,
    fun query => hpart query query fun _ hd => hd, fun input => hpart _ _ fun _ hd => hd, fun before d after => ?_⟩
  · exact congrArg Outcome.ofFound (narrow_congr h listed)
  · refine narrow_sublist_of_subset (fun d' hd' => ?_) listed
    rcases List.mem_append.mp hd' with hd' | hd'
    · exact List.mem_append_left _ hd'
    · exact List.mem_append_right _ (List.mem_cons_of_mem d hd')

/-- A flag with a value behind it, twice, and a key without a value narrow what the flag and a text found. -/
theorem apply_narrows_behind_flag :
    let listed := Listed.ofRecords [Record.ofRow ["A/Ann", "", "", "Crew", "", "T"],
      Record.ofRow ["B/Ann", "", "", "Passenger", "", "T"], Record.ofRow ["C/Ann", "", "", "Crew", "", "F"],
      Record.ofRow ["D", "", "", "Crew", "", "T"]]
    let first : Query := [⟨.flag .crew, some "x"⟩, ⟨.text .firstName, some "Ann"⟩]
    let second : Query := [⟨.text .role, none⟩, ⟨.text .firstName, some "Ann"⟩, ⟨.flag .crew, some "x"⟩,
      ⟨.flag .survived, none⟩, ⟨.flag .crew, some "x"⟩]
    first ⊆ second ∧
      apply .exact (apply .exact listed first).found second = apply .exact listed second ∧
      (apply .exact listed second).found.Sublist (apply .exact listed first).found ∧
      (apply .exact listed first).found.map (·.position) = [0, 2] ∧
      (apply .exact listed second).found.map (·.position) = [0] := by
  intro listed first second
  have hsubset : first ⊆ second := by simp [first, second]
  obtain ⟨hsame, hsublist⟩ := (apply_narrows {} listed).1 first second hsubset
  exact ⟨hsubset, hsame, hsublist, by decide +kernel, by decide +kernel⟩

end ShipManifest.Query
