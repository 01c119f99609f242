import ShipManifest.Json.Variant

/-!
# Requests

A request is an object whose key `op` names the operation; `search` and `name` have an argument under a key of their
own, and further keys do not count. The list of the operation and its argument is the same request.
-/

namespace ShipManifest

/-- What the service is asked for. -/
inductive Request where
  | search (query : String)
  | all
  | name (name : String)
  | headers
  | info
  | reload
  deriving DecidableEq

/-- The operations. -/
inductive Operation where
  | search
  | all
  | name
  | headers
  | info
  | reload
  deriving DecidableEq

namespace Operation

/-- The operations under their names. -/
def variants : List (String × Operation) :=
  [("search", search), ("all", all), ("name", name), ("headers", headers), ("info", info), ("reload", reload)]

/-- The operation's name. -/
def label : Operation → String
  | search => "search"
  | all => "all"
  | name => "name"
  | headers => "headers"
  | info => "info"
  | reload => "reload"

/-- The operation that a value names. -/
def ofJson : Json → Except Json.Mismatch Operation
  | .text op => Json.variantOfName variants op
  | value => .error (.kind value.found "variant identifier")

end Operation

namespace Request

/-- The operation of a request. -/
def operation : Request → Operation
  | search _ => .search
  | all => .all
  | name _ => .name
  | headers => .headers
  | info => .info
  | reload => .reload

/-- The text of an argument. -/
def argument : Json → Except Json.Mismatch String
  | .text s => .ok s
  | value => .error (.kind value.found "a string")

/-- The argument under a key. -/
def keyArgument (key : String) (members : List (String × Json)) : Except Json.Mismatch String :=
  match Json.member? key members with
  | some value => argument value
  | none => .error (.missingField key)

/-- The only argument of a list. -/
def listArgument (expected : String) : List Json → Except Json.Mismatch String
  | [] => .error (.length 0 expected)
  | value :: rest => do
    let text ← argument value
    if rest.isEmpty then return text else .error (.length (rest.length + 1) "1 element in sequence")

/-- Refuses arguments. -/
def noArgument (request : Request) : List Json → Except Json.Mismatch Request
  | [] => .ok request
  | arguments => .error (.length arguments.length "0 elements in sequence")

/-- The request of an operation with its members. -/
def ofMembers (members : List (String × Json)) : Operation → Except Json.Mismatch Request
  | .search => (keyArgument "query" members).map search
  | .all => .ok all
  | .name => (keyArgument "name" members).map name
  | .headers => .ok headers
  | .info => .ok info
  | .reload => .ok reload

/-- The request of an operation with a list of arguments. -/
def ofArguments (arguments : List Json) : Operation → Except Json.Mismatch Request
  | .search => (listArgument "struct variant Request::Search with 1 element" arguments).map search
  | .all => noArgument all arguments
  | .name => (listArgument "struct variant Request::Name with 1 element" arguments).map name
  | .headers => noArgument headers arguments
  | .info => noArgument info arguments
  | .reload => noArgument reload arguments

/-- Reads a request from a value. -/
def ofJson : Json → Except Json.Mismatch Request
  | .object members =>
    match Json.member? "op" members with
    | none => .error (.missingField "op")
    | some op => (Operation.ofJson op).bind (ofMembers members)
  | .list [] => .error (.missingField "op")
  | .list (op :: arguments) => (Operation.ofJson op).bind (ofArguments arguments)
  | value => .error (.kind value.found "internally tagged enum Request")

end Request

end ShipManifest
