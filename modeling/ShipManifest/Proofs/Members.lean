import ShipManifest.Json.Basic

/-!
# Members of settled values

Settling puts an object's members in the order of their keys. It changes no value but by settling it, and of a repeated
key it keeps the last value (`Json.get?_settle`).
-/

namespace ShipManifest.Json

/-- The value of a key of an object. -/
def get? (key : String) : Json → Option Json
  | object members => member? key members
  | _ => none

variable {key : String}

theorem member?_cons (k : String) (v : Json) (members : List (String × Json)) :
    member? key ((k, v) :: members) = if key = k then some v else member? key members := by
  unfold member?
  by_cases h : key = k
  · subst h
    rw [if_pos rfl, List.lookup_cons_self]
  · rw [if_neg h, List.lookup_cons, beq_eq_false_iff_ne.mpr h]

/-- Putting a member sets its key and no other. -/
theorem member?_putMember (k : String) (v : Json) (members : List (String × Json)) :
    member? key (putMember k v members) = if key = k then some v else member? key members := by
  induction members with
  | nil => exact member?_cons k v []
  | cons m rest ih =>
    obtain ⟨k', v'⟩ := m
    by_cases hsame : k' = k
    · subst hsame
      rw [putMember, if_pos rfl, member?_cons, member?_cons]
      split <;> rfl
    · by_cases hlt : k < k'
      · rw [putMember, if_neg hsame, if_pos hlt, member?_cons]
      · rw [putMember, if_neg hsame, if_neg hlt, member?_cons, ih, member?_cons]
        by_cases hk : key = k'
        · rw [if_pos hk, if_pos hk, if_neg (hk ▸ hsame)]
        · rw [if_neg hk, if_neg hk]

theorem member?_append (xs ys : List (String × Json)) :
    member? key (xs ++ ys) = (member? key xs).or (member? key ys) :=
  List.lookup_append

/-- Members put one after the other hide what was there before, and the last one of a key hides the others. -/
theorem member?_foldl_putMember (members sorted : List (String × Json)) :
    member? key (members.foldl (fun sorted m => putMember m.1 m.2 sorted) sorted) =
      (member? key members.reverse).or (member? key sorted) := by
  induction members generalizing sorted with
  | nil => rfl
  | cons m rest ih =>
    rw [List.foldl_cons, ih, member?_putMember, List.reverse_cons, member?_append, Option.or_assoc, member?_cons]
    split <;> rfl

/-- Sorted members have each key's last value. -/
theorem member?_sortMembers (members : List (String × Json)) :
    member? key (sortMembers members) = member? key members.reverse := by
  rw [sortMembers, member?_foldl_putMember members []]
  exact Option.or_none

theorem settleItems_eq_map (items : List Json) : settleItems items = items.map settle := by
  induction items with
  | nil => rfl
  | cons item rest ih => rw [settleItems, ih, List.map_cons]

theorem settleMembers_eq_map (members : List (String × Json)) :
    settleMembers members = members.map fun m => (m.1, settle m.2) := by
  induction members with
  | nil => rfl
  | cons m rest ih => rw [settleMembers, ih, List.map_cons]

theorem member?_map (f : Json → Json) (members : List (String × Json)) :
    member? key (members.map fun m => (m.1, f m.2)) = (member? key members).map f := by
  induction members with
  | nil => rfl
  | cons m rest ih =>
    obtain ⟨k, v⟩ := m
    rw [List.map_cons, member?_cons, member?_cons, ih]
    split <;> rfl

/-- **A settled object has each key's last value, settled.** -/
theorem get?_settle (members : List (String × Json)) :
    (settle (object members)).get? key = (member? key members.reverse).map settle := by
  rw [settle, get?, member?_sortMembers, settleMembers_eq_map, ← List.map_reverse, member?_map]

end ShipManifest.Json
