import Mathlib.Data.List.Nodup
import ShipManifest.Proofs.ExpectedValues
import ShipManifest.Service.Config

/-!
# Which configurations are accepted

The reader of a configuration takes its values one by one into a draft, and refuses an object at the first member that
does not fit. What it accepts does not depend on where that is.

* A draft is a value for each of some keys (`Config.Draft.get`), and the reader of a value sets one of them
  (`Config.Draft.readField_eq_ok_iff`).
* The draft is drawn from the members read so far (`Config.Drawn`). This is what a step of the reader keeps, and so the
  reader goes in step with the reader of JSON (`Config.readMembers_eq_ok_iff`).
* A draft can be drawn from members exactly if their keys are known and distinct and their values fit
  (`Config.exists_drawn_iff`), and it has what they say, in any order (`Config.Drawn.get_eq_some_iff`).

Main statement: an object is accepted exactly if its members are acceptable, and the configuration holds what they give
(`Config.parse_object_text`).
-/

namespace ShipManifest.Config

open Json (Cursor Names KeyAhead EndAhead bind_eq_ok map_eq_ok)

/-! ## Keys and drafts -/

namespace Field

/-- The key's name. -/
def name : Field → String
  | manifestPath => "manifest_path"
  | stride => "stride_policy"
  | mode => "match_mode"
  | severity => "log_level"

/-- What a value of the key is read as. -/
def Value : Field → Type
  | manifestPath => String
  | stride => Stride
  | mode => MatchMode
  | severity => Severity

/-- The value says `x` under the key: the path is a text, and the others are names. -/
def Says : (field : Field) → Json → field.Value → Prop
  | manifestPath => fun value path => value = .text path
  | stride => Names Stride.variants
  | mode => Names MatchMode.variants
  | severity => Names Severity.variants

theorem Says.unique {field : Field} {value : Json} {x y : field.Value} (hx : field.Says value x)
    (hy : field.Says value y) : x = y := by
  cases field with
  | manifestPath => exact Json.text.inj (hx.symm.trans hy)
  | stride => exact Names.unique hx hy
  | mode => exact Names.unique hx hy
  | severity => exact Names.unique hx hy

theorem name_injective : Function.Injective name := by
  intro field field' h
  cases field <;> cases field' <;> first | rfl | simp [name] at h

theorem lookup_eq_some_iff {key : String} {field : Field} : variants.lookup key = some field ↔ key = field.name := by
  constructor
  · intro h
    obtain ⟨before, after, heq, -⟩ := List.lookup_eq_some_iff.mp h
    have hmem : (key, field) ∈ variants := heq ▸ List.mem_append_right before List.mem_cons_self
    have hnames : ∀ entry ∈ variants, entry.1 = entry.2.name := by decide
    exact hnames _ hmem
  · rintro rfl
    cases field <;> decide

end Field

namespace Draft

/-- The draft's value for the key. -/
def get (d : Draft) : (field : Field) → Option field.Value
  | .manifestPath => d.manifestPath
  | .stride => d.stride
  | .mode => d.mode
  | .severity => d.severity

/-- The draft with a value for the key. -/
def set (d : Draft) : (field : Field) → field.Value → Draft
  | .manifestPath, path => { d with manifestPath := some path }
  | .stride, s => { d with stride := some s }
  | .mode, m => { d with mode := some m }
  | .severity, s => { d with severity := some s }

variable {d d' : Draft} {field field' : Field} {x : field.Value}

theorem get_empty (field : Field) : ({} : Draft).get field = none := by
  cases field <;> rfl

theorem get_set_self : (d.set field x).get field = some x := by
  cases field <;> rfl

theorem get_set_of_ne (h : field' ≠ field) : (d.set field x).get field' = d.get field' := by
  cases field <;> cases field' <;> first | rfl | exact absurd rfl h

theorem has_eq (d : Draft) (field : Field) : d.has field = (d.get field).isSome := by
  cases field <;> rfl

theorem ext_get (h : ∀ field, d.get field = d'.get field) : d = d' := by
  obtain ⟨p, s, m, v⟩ := d
  obtain ⟨p', s', m', v'⟩ := d'
  have hp : p = p' := h .manifestPath
  have hs : s = s' := h .stride
  have hm : m = m' := h .mode
  have hv : v = v' := h .severity
  rw [hp, hs, hm, hv]

/-- The value of a key is read where a value is that says it. -/
theorem readField_eq_ok_iff (depth : Nat) {c c' : Cursor} : d.readField c field = .ok (d', c') ↔
    ∃ value x, Json.readValue (depth + 1) c = .ok (value, c') ∧ field.Says value x ∧ d' = d.set field x := by
  have hvariant {α : Type} (variants : List (String × α)) (put : α → Draft) {f : α × Cursor → Draft × Cursor}
      (hf : ∀ a c, f (a, c) = (put a, c)) : (Json.expectVariant variants c).map f = .ok (d', c') ↔
        ∃ value a, Json.readValue (depth + 1) c = .ok (value, c') ∧ Names variants value a ∧ d' = put a := by
    rw [map_eq_ok]
    constructor
    · rintro ⟨⟨a, c₁⟩, hread, heq⟩
      cases (hf a c₁).symm.trans heq
      obtain ⟨value, hvalue, hnames⟩ := (Json.expectVariant_eq_ok_iff depth).mp hread
      exact ⟨value, a, hvalue, hnames, rfl⟩
    · rintro ⟨value, a, hvalue, hnames, rfl⟩
      exact ⟨(a, c'), (Json.expectVariant_eq_ok_iff depth).mpr ⟨value, hvalue, hnames⟩, hf a c'⟩
  cases field with
  | manifestPath =>
    rw [readField, map_eq_ok]
    constructor
    · rintro ⟨⟨path, c₁⟩, hread, heq⟩
      cases heq
      exact ⟨_, path, (Json.expectText_eq_ok_iff _ (depth + 1)).mp hread, rfl, rfl⟩
    · rintro ⟨_, path, hread, rfl, rfl⟩
      exact ⟨(path, c'), (Json.expectText_eq_ok_iff _ (depth + 1)).mpr hread, rfl⟩
  | stride => exact hvariant Stride.variants (d.set .stride) fun _ _ => rfl
  | mode => exact hvariant MatchMode.variants (d.set .mode) fun _ _ => rfl
  | severity => exact hvariant Severity.variants (d.set .severity) fun _ _ => rfl

end Draft

/-! ## Drafts of members -/

/-- The draft is drawn from the members, which are given last member first. -/
inductive Drawn : List (String × Json) → Draft → Prop
  | nil : Drawn [] {}
  | cons {done : List (String × Json)} {d : Draft} {field : Field} {value : Json} {x : field.Value} : Drawn done d →
      d.has field = false → field.Says value x → Drawn ((field.name, value) :: done) (d.set field x)

namespace Drawn

variable {done : List (String × Json)} {d d' : Draft}

/-- The draft has what the members say. -/
theorem get_eq_some_iff (h : Drawn done d) (field : Field) {y : field.Value} :
    d.get field = some y ↔ ∃ value, (field.name, value) ∈ done ∧ field.Says value y := by
  induction h with
  | nil => simp [Draft.get_empty]
  | @cons done d other value x hd hfresh hsays ih =>
    by_cases hother : field = other
    · subst hother
      rw [Draft.has_eq, Option.isSome_eq_false_iff, Option.isNone_iff_eq_none] at hfresh
      have hnone : ¬ ∃ v, (field.name, v) ∈ done ∧ field.Says v y := by
        rw [← ih, hfresh]
        simp
      rw [Draft.get_set_self]
      constructor
      · intro heq
        cases heq
        exact ⟨value, List.mem_cons_self, hsays⟩
      · rintro ⟨v, hmem, hv⟩
        rcases List.mem_cons.mp hmem with heq | hmem
        · cases heq
          rw [Field.Says.unique hsays hv]
        · exact absurd ⟨v, hmem, hv⟩ hnone
    · have hname : field.name ≠ other.name := fun h => hother (Field.name_injective h)
      simp [Draft.get_set_of_ne hother, ih, hname]

/-- The draft has a value for the keys of the members. -/
theorem has_iff (h : Drawn done d) (field : Field) : d.has field = true ↔ field.name ∈ done.map (·.1) := by
  induction h with
  | nil => cases field <;> decide
  | @cons done d other value x hd hfresh hsays ih =>
    by_cases hother : field = other
    · subst hother
      simp [Draft.has_eq, Draft.get_set_self]
    · have hname : field.name ≠ other.name := fun h => hother (Field.name_injective h)
      rw [Draft.has_eq, Draft.get_set_of_ne hother, ← Draft.has_eq, ih]
      simp [hname]

/-- One draft only is drawn from members. -/
theorem unique (h : Drawn done d) (h' : Drawn done d') : d = d' := by
  refine Draft.ext_get fun field => Option.ext fun x => ?_
  rw [h.get_eq_some_iff, h'.get_eq_some_iff]

/-- What is drawn with a member more is drawn without it first. -/
theorem of_append {more : List (String × Json)} (h : Drawn (more ++ done) d) : ∃ d', Drawn done d' := by
  induction more generalizing d with
  | nil => exact ⟨d, h⟩
  | cons m more ih =>
    cases h with
    | cons hd hfresh hsays => exact ih hd

end Drawn

/-- **A draft is drawn from members exactly if their keys are known and distinct and their values fit.** -/
theorem exists_drawn_iff {done : List (String × Json)} : (∃ d, Drawn done d) ↔
    (∀ m ∈ done, ∃ field : Field, m.1 = field.name ∧ ∃ x, field.Says m.2 x) ∧ (done.map (·.1)).Nodup := by
  constructor
  · rintro ⟨d, h⟩
    induction h with
    | nil => simp
    | @cons done d field value x hd hfresh hsays ih =>
      obtain ⟨hfit, hnodup⟩ := ih
      refine ⟨List.forall_mem_cons.mpr ⟨⟨field, rfl, x, hsays⟩, hfit⟩, List.nodup_cons.mpr ⟨?_, hnodup⟩⟩
      rw [← hd.has_iff field, hfresh]
      exact Bool.false_ne_true
  · rintro ⟨hfits, hnodup⟩
    induction done with
    | nil => exact ⟨{}, .nil⟩
    | cons m done ih =>
      obtain ⟨key, value⟩ := m
      obtain ⟨⟨field, rfl, x, hsays⟩, hrest⟩ := List.forall_mem_cons.mp hfits
      obtain ⟨hnew, hnodup⟩ := List.nodup_cons.mp hnodup
      obtain ⟨d, hd⟩ := ih hrest hnodup
      refine ⟨d.set field x, .cons hd ?_ hsays⟩
      rwa [← hd.has_iff field, Bool.not_eq_true] at hnew

/-! ## The reader -/

section Reader

variable {n : Nat} {c c' : Cursor} {config : Config}

/-- The reader takes one member more, or it is at the end. -/
theorem readMembers_succ {first : Bool} {d : Draft} : readMembers (n + 1) first d c = .ok (config, c') ↔
    (EndAhead first c c' ∧ d.finish? = some config) ∨
      ∃ (field : Field) (c₁ : Cursor) (d' : Draft) (c₂ : Cursor), KeyAhead first c field.name c₁ ∧ d.has field = false ∧
        d.readField c₁ field = .ok (d', c₂) ∧ readMembers n false d' c₂ = .ok (config, c') := by
  rw [readMembers, bind_eq_ok]
  constructor
  · rintro ⟨⟨more, c₁⟩, hseek, h⟩
    cases more with
    | false =>
      simp only [Bool.false_eq_true, if_false] at h
      split at h
      · rename_i hfinish
        cases h
        exact .inl ⟨⟨c₁, hseek, rfl⟩, hfinish⟩
      · cases h
    | true =>
      obtain ⟨⟨key, c₂⟩, hkey, h⟩ := bind_eq_ok.mp h
      dsimp only at h
      split at h
      · cases h
      · rename_i field hlookup
        cases Field.lookup_eq_some_iff.mp hlookup
        split at h
        · cases h
        · rename_i hfresh
          obtain ⟨⟨⟨⟩, c₃⟩, hcolon, h⟩ := bind_eq_ok.mp h
          obtain ⟨⟨d', c₄⟩, hvalue, h⟩ := bind_eq_ok.mp h
          exact .inr ⟨field, c₃, d', c₄, ⟨c₁, c₂, hseek, hkey, hcolon⟩, eq_false_of_ne_true hfresh, hvalue, h⟩
  · rintro (⟨⟨c₁, hseek, rfl⟩, hfinish⟩ | ⟨field, c₃, d', c₄, ⟨c₁, c₂, hseek, hkey, hcolon⟩, hfresh, hvalue, h⟩)
    · refine ⟨(false, c₁), hseek, ?_⟩
      simp [hfinish]
    · refine ⟨(true, c₁), hseek, bind_eq_ok.mpr ⟨_, hkey, ?_⟩⟩
      simp only [Field.lookup_eq_some_iff.mpr rfl, hfresh]
      exact bind_eq_ok.mpr ⟨_, hcolon, bind_eq_ok.mpr ⟨_, hvalue, h⟩⟩

/-- **The reader goes in step with the reader of JSON**: it takes the members that are there, if a draft is drawn from
them all. -/
theorem readMembers_eq_ok_iff (depth : Nat) {done : List (String × Json)} {d : Draft} (hd : Drawn done d) :
    readMembers n done.isEmpty d c = .ok (config, c') ↔ ∃ members d',
      Json.readMembers (Json.readValue (depth + 1)) n done c = .ok (.object members, c') ∧
        Drawn members.reverse d' ∧ d'.finish? = some config := by
  induction n generalizing done d c with
  | zero =>
    constructor
    · rintro ⟨⟩
    · rintro ⟨members, d', hread, -⟩
      cases hread
  | succ n ih =>
    rw [readMembers_succ]
    constructor
    · rintro (⟨hend, hfinish⟩ | ⟨field, c₁, d₁, c₂, hkey, hfresh, hfield, hrest⟩)
      · exact ⟨done.reverse, d, Json.readMembers_end.mpr hend, by rwa [List.reverse_reverse], hfinish⟩
      · obtain ⟨value, x, hvalue, hsays, rfl⟩ := (Draft.readField_eq_ok_iff depth).mp hfield
        obtain ⟨members, d', hmembers, hdrawn, hfinish⟩ := (ih (.cons hd hfresh hsays)).mp hrest
        exact ⟨members, d', Json.readMembers_succ.mpr (.inr ⟨_, _, _, _, hkey, hvalue, hmembers⟩), hdrawn, hfinish⟩
    · rintro ⟨members, d', hmembers, hdrawn, hfinish⟩
      rcases Json.readMembers_succ.mp hmembers with ⟨hend, heq⟩ | ⟨key, c₁, value, c₂, hkey, hvalue, hrest⟩
      · cases heq
        rw [List.reverse_reverse] at hdrawn
        exact .inl ⟨hend, hd.unique hdrawn ▸ hfinish⟩
      · -- the member that comes next is drawn as well
        obtain ⟨more, heq⟩ := Json.isObject_of_readMembers hrest
        cases heq
        have hnext : ∃ d₁, Drawn ((key, value) :: done) d₁ := by
          rw [List.reverse_append, List.reverse_reverse] at hdrawn
          exact hdrawn.of_append
        obtain ⟨d₁, hnext⟩ := hnext
        cases hnext with
        | cons hd₁ hfresh hsays =>
          cases hd.unique hd₁
          refine .inr ⟨_, c₁, _, c₂, hkey, hfresh, ?_, (ih (.cons hd hfresh hsays)).mpr ⟨_, d', hrest, hdrawn, hfinish⟩⟩
          exact (Draft.readField_eq_ok_iff depth).mpr ⟨value, _, hvalue, hsays, rfl⟩

/-- An object is read as a configuration exactly if it is read as JSON and a draft with a path is drawn from its
members. -/
theorem read_eq_ok_iff (hopen : ∃ cs, (Json.skipBlanks c).rest = '{' :: cs) : read c = .ok (config, c') ↔
    ∃ members d, Json.readValue Json.maxDepth c = .ok (.object members, c') ∧
      Drawn members.reverse d ∧ d.finish? = some config := by
  obtain ⟨cs, hopen⟩ := hopen
  rcases hc : Json.skipBlanks c with ⟨rest, p⟩
  rw [hc] at hopen
  cases hopen
  have hread : read c = readMembers (cs.length + 1) true {} ⟨cs, p.behind '{'⟩ := by
    unfold read
    simp only [hc]
    rfl
  rw [hread, Json.maxDepth, Json.readValue_of_brace hc]
  -- a member's value is one level down, and the null under a name one more
  exact readMembers_eq_ok_iff 125 .nil

end Reader

/-- An object is a configuration if a draft is drawn from its members and has a path that is not blank. -/
theorem parse_eq_ok_iff {text : String} (hopen : ∃ cs, (Json.skipBlanks (.ofText text)).rest = '{' :: cs)
    {config : Config} : parse text = .ok config ↔ ∃ members d, Json.read text = .ok (.object members) ∧
      Drawn members.reverse d ∧ d.finish? = some config ∧ Text.isBlank config.manifestPath.toList = false := by
  have hread : (read (.ofText text)).bind Json.finish = .ok config ↔ ∃ members d,
      Json.read text = .ok (.object members) ∧ Drawn members.reverse d ∧ d.finish? = some config := by
    simp only [Json.read, Json.bind_finish_eq_ok, read_eq_ok_iff hopen]
    constructor
    · rintro ⟨c, ⟨members, d, hvalue, hdrawn⟩, hrest⟩
      exact ⟨members, d, ⟨c, hvalue, hrest⟩, hdrawn⟩
    · rintro ⟨members, d, ⟨c, hvalue, hrest⟩, hdrawn⟩
      exact ⟨c, ⟨members, d, hvalue, hdrawn⟩, hrest⟩
  unfold parse
  constructor
  · intro h
    split at h
    · cases h
    · rename_i config' hconfig
      split at h
      · cases h
      · rename_i hblank
        cases h
        obtain ⟨members, d, hobject, hdrawn, hfinish⟩ := hread.mp hconfig
        exact ⟨members, d, hobject, hdrawn, hfinish, eq_false_of_ne_true hblank⟩
  · rintro ⟨members, d, hobject, hdrawn, hfinish, hblank⟩
    simp [hread.mpr ⟨members, d, hobject, hdrawn, hfinish⟩, hblank]

/-! ## Acceptable members -/

/-- The member of the key names `x`, or there is no member and `x` is the default. -/
def Given {α : Type} (members : List (String × Json)) (key : String) (variants : List (String × α)) (default x : α) :
    Prop :=
  (∃ value, (key, value) ∈ members ∧ Names variants value x) ∨ (key ∉ members.map (·.1) ∧ x = default)

/-- The members are those of a configuration: the keys are known and distinct, the path is a text that is not blank, and
the other values are names. -/
structure Acceptable (members : List (String × Json)) : Prop where
  known : ∀ m ∈ members, m.1 ∈ ["manifest_path", "stride_policy", "match_mode", "log_level"]
  distinct : (members.map (·.1)).Nodup
  path : ∃ path, ("manifest_path", .text path) ∈ members ∧ ∃ x ∈ path.toList, Text.isSpace x = false
  stride : ∀ value, ("stride_policy", value) ∈ members → ∃ s, Names Stride.variants value s
  mode : ∀ value, ("match_mode", value) ∈ members → ∃ m, Names MatchMode.variants value m
  severity : ∀ value, ("log_level", value) ∈ members → ∃ s, Names Severity.variants value s

/-- The configuration has the values of the members, and the defaults where there are none. -/
structure Holds (config : Config) (members : List (String × Json)) : Prop where
  path : ("manifest_path", .text config.manifestPath) ∈ members
  stride : Given members "stride_policy" Stride.variants .paired config.stride
  mode : Given members "match_mode" MatchMode.variants .exact config.mode
  severity : Given members "log_level" Severity.variants .info config.severity

section Acceptance

variable {members members' : List (String × Json)} {config : Config}

theorem Acceptable.perm (h : Acceptable members) (hperm : members.Perm members') : Acceptable members' where
  known m hm := h.known m (hperm.mem_iff.mpr hm)
  distinct := (hperm.map _).nodup_iff.mp h.distinct
  path := by
    obtain ⟨path, hmem, hpath⟩ := h.path
    exact ⟨path, hperm.mem_iff.mp hmem, hpath⟩
  stride value hm := h.stride value (hperm.mem_iff.mpr hm)
  mode value hm := h.mode value (hperm.mem_iff.mpr hm)
  severity value hm := h.severity value (hperm.mem_iff.mpr hm)

theorem Given.perm {α : Type} {key : String} {variants : List (String × α)} {default x : α}
    (h : Given members key variants default x) (hperm : members.Perm members') :
    Given members' key variants default x := by
  rcases h with ⟨value, hmem, hnames⟩ | ⟨hnone, hx⟩
  · exact .inl ⟨value, hperm.mem_iff.mp hmem, hnames⟩
  · exact .inr ⟨mt (hperm.map _).mem_iff.mpr hnone, hx⟩

theorem Holds.perm (h : config.Holds members) (hperm : members.Perm members') : config.Holds members' where
  path := hperm.mem_iff.mp h.path
  stride := h.stride.perm hperm
  mode := h.mode.perm hperm
  severity := h.severity.perm hperm

theorem isBlank_eq_false_iff {cs : List Char} : Text.isBlank cs = false ↔ ∃ x ∈ cs, Text.isSpace x = false := by
  simp [Text.isBlank]

/-- The value of a draft for a key, or the default, is what the members give. -/
theorem Drawn.getD_eq_iff {done : List (String × Json)} {d : Draft} (h : Drawn done d) (field : Field)
    {default x : field.Value} : (d.get field).getD default = x ↔
      (∃ value, (field.name, value) ∈ done ∧ field.Says value x) ∨ (field.name ∉ done.map (·.1) ∧ x = default) := by
  rw [← h.get_eq_some_iff, ← h.has_iff, Draft.has_eq]
  cases d.get field with
  | none => simp [eq_comm]
  | some y => simp

theorem finish?_eq_some_iff {d : Draft} : d.finish? = some config ↔ d.manifestPath = some config.manifestPath ∧
    d.stride.getD .paired = config.stride ∧ d.mode.getD .exact = config.mode ∧
      d.severity.getD .info = config.severity := by
  obtain ⟨path, stride, mode, severity⟩ := config
  rw [Draft.finish?, Option.map_eq_some_iff]
  constructor
  · rintro ⟨path, hpath, heq⟩
    cases heq
    exact ⟨hpath, rfl, rfl, rfl⟩
  · rintro ⟨hpath, rfl, rfl, rfl⟩
    exact ⟨path, hpath, rfl⟩

/-- The configuration of a draft holds what the members give that the draft is drawn from. -/
theorem Drawn.finish?_eq_some_iff {d : Draft} (h : Drawn members d) :
    d.finish? = some config ↔ config.Holds members := by
  have hpath : d.manifestPath = some config.manifestPath ↔
      ∃ value, ("manifest_path", value) ∈ members ∧ value = .text config.manifestPath :=
    h.get_eq_some_iff .manifestPath
  have hstride : d.stride.getD .paired = config.stride ↔
      Given members "stride_policy" Stride.variants .paired config.stride := h.getD_eq_iff .stride
  have hmode : d.mode.getD .exact = config.mode ↔
      Given members "match_mode" MatchMode.variants .exact config.mode := h.getD_eq_iff .mode
  have hseverity : d.severity.getD .info = config.severity ↔
      Given members "log_level" Severity.variants .info config.severity := h.getD_eq_iff .severity
  rw [Config.finish?_eq_some_iff, hpath, hstride, hmode, hseverity]
  constructor
  · rintro ⟨⟨value, hmem, rfl⟩, hstride, hmode, hseverity⟩
    exact ⟨hmem, hstride, hmode, hseverity⟩
  · rintro ⟨hpath, hstride, hmode, hseverity⟩
    exact ⟨⟨_, hpath, rfl⟩, hstride, hmode, hseverity⟩

/-- Distinct keys have one value each. -/
theorem Acceptable.value_unique (h : Acceptable members) {key : String} {value value' : Json}
    (hvalue : (key, value) ∈ members) (hvalue' : (key, value') ∈ members) : value = value' :=
  congrArg Prod.snd (List.inj_on_of_nodup_map h.distinct hvalue hvalue' rfl)

/-- Members are acceptable if a draft is drawn from them and they have a path that is not blank. -/
theorem acceptable_iff : Acceptable members ↔ (∃ d, Drawn members d) ∧
    ∃ path, ("manifest_path", .text path) ∈ members ∧ ∃ x ∈ path.toList, Text.isSpace x = false := by
  rw [exists_drawn_iff]
  constructor
  · intro h
    refine ⟨⟨?_, h.distinct⟩, h.path⟩
    rintro ⟨key, value⟩ hm
    obtain ⟨path, hpath, -⟩ := h.path
    have hknown := h.known _ hm
    simp only [List.mem_cons, List.not_mem_nil, or_false] at hknown
    rcases hknown with rfl | rfl | rfl | rfl
    · exact ⟨.manifestPath, rfl, path, h.value_unique hm hpath⟩
    · exact ⟨.stride, rfl, h.stride value hm⟩
    · exact ⟨.mode, rfl, h.mode value hm⟩
    · exact ⟨.severity, rfl, h.severity value hm⟩
  · rintro ⟨⟨hfits, hdistinct⟩, hpath⟩
    have hsays : ∀ (field : Field) (value : Json), (field.name, value) ∈ members → ∃ x, field.Says value x := by
      intro field value hm
      obtain ⟨field', hname, hx⟩ := hfits _ hm
      cases Field.name_injective hname
      exact hx
    refine ⟨?_, hdistinct, hpath, hsays .stride, hsays .mode, hsays .severity⟩
    intro m hm
    obtain ⟨field, hname, -⟩ := hfits m hm
    rw [hname]
    cases field <;> decide

/-- Acceptable members are those of a configuration. -/
theorem Acceptable.exists_holds (h : Acceptable members) : ∃ config : Config, config.Holds members := by
  obtain ⟨⟨d, hdrawn⟩, path, hpath, -⟩ := acceptable_iff.mp h
  have hget : d.manifestPath = some path := (hdrawn.get_eq_some_iff .manifestPath).mpr ⟨_, hpath, rfl⟩
  exact ⟨_, hdrawn.finish?_eq_some_iff.mp (Option.map_eq_some_iff.mpr ⟨path, hget, rfl⟩)⟩

theorem Acceptable.path_not_blank (h : Acceptable members) (hholds : config.Holds members) :
    Text.isBlank config.manifestPath.toList = false := by
  obtain ⟨path, hpath, hspace⟩ := h.path
  cases h.value_unique hpath hholds.path
  exact isBlank_eq_false_iff.mpr hspace

end Acceptance

/-! ## Acceptance -/

section Objects

variable {text : String} {members : List (String × Json)}

/-- An object begins with its brace. -/
theorem opens_of_read (h : Json.read text = .ok (.object members)) :
    ∃ cs, (Json.skipBlanks (.ofText text)).rest = '{' :: cs := by
  obtain ⟨c, hvalue, -⟩ := Json.bind_finish_eq_ok.mp h
  obtain ⟨cs, p, hc, -⟩ := Json.readValue_object.mp hvalue
  exact ⟨cs, by rw [hc]⟩

/-- An object is read as the configuration that holds what its members give, if they are acceptable. -/
theorem parse_object (h : Json.read text = .ok (.object members)) {config : Config} :
    parse text = .ok config ↔ Acceptable members ∧ config.Holds members := by
  have hperm : members.Perm members.reverse := members.reverse_perm.symm
  rw [parse_eq_ok_iff (opens_of_read h)]
  constructor
  · rintro ⟨members', d, hread, hdrawn, hfinish, hblank⟩
    cases h.symm.trans hread
    have hholds : config.Holds members := (hdrawn.finish?_eq_some_iff.mp hfinish).perm hperm.symm
    have hacceptable : Acceptable members.reverse := acceptable_iff.mpr
      ⟨⟨d, hdrawn⟩, _, hperm.mem_iff.mp hholds.path, isBlank_eq_false_iff.mp hblank⟩
    exact ⟨hacceptable.perm hperm.symm, hholds⟩
  · rintro ⟨hacceptable, hholds⟩
    obtain ⟨⟨d, hdrawn⟩, -⟩ := acceptable_iff.mp (hacceptable.perm hperm)
    exact ⟨members, d, h, hdrawn, hdrawn.finish?_eq_some_iff.mpr (hholds.perm hperm), hacceptable.path_not_blank hholds⟩

/-- Whatever is wrong with a text, it is an error of the configuration. -/
theorem code_of_parse_error {e : ServiceError} (h : parse text = .error e) : e.code = "MDB_CLI_CONFIG_ERROR" := by
  unfold parse at h
  split at h
  · cases h
    rfl
  · split at h
    · cases h
      rfl
    · cases h

end Objects

end ShipManifest.Config
