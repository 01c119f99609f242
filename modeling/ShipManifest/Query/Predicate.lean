import ShipManifest.Query.Basic
import ShipManifest.Text.Quoted
import ShipManifest.Text.Search

/-!
# Predicates

A directive becomes a test on records. A text key with a value holds if the field is there and the value occurs in it;
when letter case is ignored, both are compared in small letters. A text key without a value holds of every record, and a
flag is compared exactly in either mode.
-/

namespace ShipManifest

/-- Whether letter case counts when texts are compared. -/
inductive MatchMode where
  | exact
  | ignoreCase
  deriving DecidableEq

namespace MatchMode

/-- The mode's name. -/
def name : MatchMode → String
  | exact => "exact"
  | ignoreCase => "ignore_case"

/-- The mode as messages show it. -/
def label : MatchMode → String
  | exact => "Exact"
  | ignoreCase => "IgnoreCase"

/-- The form in which texts are compared. -/
def normalize : MatchMode → List Char → List Char
  | exact, cs => cs
  | ignoreCase, cs => Text.lower cs

/-- Whether a needle in compared form occurs in the text. -/
def contains (mode : MatchMode) (text : String) (needle : List Char) : Bool :=
  Text.occursIn needle (mode.normalize text.toList)

end MatchMode

/-- A test on records. The needle is in the form in which its mode compares. -/
inductive Predicate where
  | contains (key : TextKey) (needle : List Char) (mode : MatchMode)
  | flag (key : FlagKey)
  | always
  deriving DecidableEq

namespace Predicate

/-- The test of a directive; a value behind a flag is not looked at. -/
def ofDirective (mode : MatchMode) : Directive → Predicate
  | ⟨.text key, some value⟩ => contains key (mode.normalize value.toList) mode
  | ⟨.text _, none⟩ => always
  | ⟨.flag key, _⟩ => flag key

/-- Whether the record passes. -/
def test : Predicate → Record → Bool
  | contains key needle mode, r =>
    match key.field? r with
    | some text => mode.contains text needle
    | none => false
  | flag key, r => key.holds r
  | always, _ => true

/-- The test in words, for messages. -/
def describe : Predicate → String
  | contains key needle mode =>
    "Contains \x7b key: " ++ (Key.text key).label ++ ", needle: " ++ Text.quoted (String.ofList needle) ++ ", mode: " ++
      mode.label ++ " \x7d"
  | flag key => "Flag \x7b key: " ++ (Key.flag key).label ++ " \x7d"
  | always => "PassThrough"

end Predicate

end ShipManifest
