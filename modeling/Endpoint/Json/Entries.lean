import Endpoint.Json

/-!
Entries of objects by their keys. A missing entry is taken as null.
-/

namespace Endpoint.Json

/-- The entry with the key, or null. -/
def entry (json : Json) (key : String) : Json := (json.get? key).getD .null

def hasEntry (json : Json) (key : String) : Bool :=
  match json.entry key with
  | .null => false
  | _ => true

def textAt? (json : Json) (key : String) : Option String :=
  match json.entry key with
  | .text value => some value
  | _ => none

/-- The text at the key, or another one. -/
def textOr (default : String) (json : Json) (key : String) : String :=
  (json.textAt? key).getD default

def textAt (json : Json) (key : String) : String := textOr "" json key

def natAt? (json : Json) (key : String) : Option Nat :=
  match json.entry key with
  | .number (.natural value) => some value
  | _ => none

def natAt (json : Json) (key : String) : Nat := (json.natAt? key).getD 0

def boolOr (default : Bool) (json : Json) (key : String) : Bool :=
  match json.entry key with
  | .bool value => value
  | _ => default

def boolAt (json : Json) (key : String) : Bool := boolOr false json key

def items : Json → List Json
  | .list held => held
  | _ => []

def listAt (json : Json) (key : String) : List Json := (json.entry key).items

/-- The texts among the items of a list. -/
def textItems (json : Json) : List String :=
  json.items.filterMap fun item =>
    match item with
    | .text value => some value
    | _ => none

def textsAt (json : Json) (key : String) : List String := (json.entry key).textItems

/-- The names of a path: a list, or text with colons between them. -/
def names : Json → List String
  | .text value => (value.splitOn "::").filter (!·.isEmpty)
  | json => json.textItems

def namesAt (json : Json) (key : String) : List String := (json.entry key).names

end Endpoint.Json
