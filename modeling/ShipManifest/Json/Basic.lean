import ShipManifest.Binary64.Basic

/-!
# JSON values

Numbers are integers where they are written as such and fit, else binary64. An object is its list of members. As a
text gives them, members are in textual order and a key may return; `settle` keeps each key once, with its last value,
in the order of the keys.
-/

namespace ShipManifest

/-- A JSON value. -/
inductive Json where
  | null
  | boolean (b : Bool)
  | integer (i : Int)
  | real (x : Binary64)
  | text (s : String)
  | list (items : List Json)
  | object (members : List (String × Json))

namespace Json

/-- The value of a key, if the members have it. -/
def member? (key : String) (members : List (String × Json)) : Option Json :=
  members.lookup key

/-- The members with `key` set to `value`, where the keys are in order. -/
def putMember (key : String) (value : Json) : List (String × Json) → List (String × Json)
  | [] => [(key, value)]
  | (k, v) :: rest =>
    if k = key then (key, value) :: rest
    else if key < k then (key, value) :: (k, v) :: rest
    else (k, v) :: putMember key value rest

/-- Members in any order, each key once with its last value, in the order of the keys. -/
def sortMembers (members : List (String × Json)) : List (String × Json) :=
  members.foldl (fun sorted (key, value) => putMember key value sorted) []

mutual

/-- The value with every object's members sorted, each key once. -/
def settle : Json → Json
  | list items => list (settleItems items)
  | object members => object (sortMembers (settleMembers members))
  | value => value

/-- The items, each settled. -/
def settleItems : List Json → List Json
  | [] => []
  | item :: rest => settle item :: settleItems rest

/-- The members, each value settled. -/
def settleMembers : List (String × Json) → List (String × Json)
  | [] => []
  | (key, value) :: rest => (key, settle value) :: settleMembers rest

end

end Json

end ShipManifest
