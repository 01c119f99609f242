import ShipManifest.Query.Key
import ShipManifest.Text.Blank

/-!
# Queries

A query is a line of tokens between colons. Tokens that name a key become directives, in order: a key that takes a value
takes the next token, whatever it says, and has no value if the line ends. Behind a flag or an unknown token the reader
goes on after one token more (`Stride.paired`, where the skipped token is a placeholder) or at once (`Stride.compact`).
-/

namespace ShipManifest

/-- How far a token that takes no value reaches. -/
inductive Stride where
  | paired
  | compact
  deriving DecidableEq

/-- The stride's name. -/
def Stride.name : Stride → String
  | paired => "paired"
  | compact => "compact"

/-- One condition of a query. -/
structure Directive where
  key : Key
  value : Option String
  deriving DecidableEq

/-- The conditions of a query, in order. -/
abbrev Query := List Directive

namespace Query

/-- The directives of a list of tokens. -/
def ofTokens (stride : Stride) : List (List Char) → Query
  | [] => []
  | [token] =>
    match Key.ofToken? token with
    | some key => [⟨key, none⟩]
    | none => []
  | token :: next :: rest =>
    match Key.ofToken? token, stride with
    | some (.text key), _ => ⟨.text key, some (String.ofList next)⟩ :: ofTokens stride rest
    | some (.flag key), .paired => ⟨.flag key, none⟩ :: ofTokens stride rest
    | some (.flag key), .compact => ⟨.flag key, none⟩ :: ofTokens stride (next :: rest)
    | none, .paired => ofTokens stride rest
    | none, .compact => ofTokens stride (next :: rest)

/-- Reads a query. A blank line has no directives. -/
def parse (stride : Stride) (input : String) : Query :=
  if Text.isBlank input.toList then [] else ofTokens stride (input.toList.splitOn ':')

end Query

end ShipManifest
