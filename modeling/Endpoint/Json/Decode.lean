import Endpoint.Json.Reader

/-!
Typed values from JSON, and the words for what was found instead.
-/

namespace Endpoint.Json

/-- A whole number below the bound. -/
def natBelow? (bound : Nat) : Json → Option Nat
  | .number (.natural n) => if n < bound then some n else none
  | _ => none

/-- A whole number of 64 bits with sign. -/
def int64? : Json → Option Int
  | .number (.natural n) => if n < Nat.pow 2 63 then some n else none
  | .number (.negative n) => some n
  | _ => none

def text? : Json → Option String
  | .text value => some value
  | _ => none

def bool? : Json → Option Bool
  | .bool value => some value
  | _ => none

def unit? : Json → Option Unit
  | .null => some ()
  | _ => none

/-- Null for nothing, else a value. -/
def optional? {α : Type} (read : Json → Option α) : Json → Option (Option α)
  | .null => some none
  | value => (read value).map some

def list? {α : Type} (read : Json → Option α) : Json → Option (List α)
  | .list items => items.mapM read
  | _ => none

/-- The values of named fields: of a record that holds none of them twice, or of a list in the
order of the names. -/
def fields? (names : List String) : Json → Option (List (Option Json))
  | .record entries =>
    if names.all fun name => (entries.filter (·.1 == name)).length ≤ 1 then
      some (names.map fun name => (entries.find? (·.1 == name)).map (·.2))
    else none
  | .list items =>
    if items.length ≤ names.length then
      some (items.map some ++ List.replicate (names.length - items.length) none)
    else none
  | _ => none

/-- How the values of a type are read: what is asked for, and the value that it is, if any. -/
structure Form (α : Type) where
  outline : Outline
  read : Json → Option α

/-- A form that asks for the whole text. -/
def Form.whole {α : Type} (read : Json → Option α) : Form α := ⟨.whole, read⟩

/-- A list of values of the form. -/
def Form.list {α : Type} (form : Form α) : Form (List α) :=
  ⟨.items form.outline, list? form.read⟩

def Form.map {α β : Type} (change : α → β) (form : Form α) : Form β :=
  ⟨form.outline, fun json => (form.read json).map change⟩

/-- The value of the form that the text is. -/
def Form.read? {α : Type} (form : Form α) (text : String) : Option α :=
  (readOutline? form.outline text).bind form.read

/-- What the value is, in an error message. -/
def described : Json → String
  | .null => "null"
  | .bool value => s!"boolean `{value}`"
  | .number (.natural n) => s!"integer `{n}`"
  | .number (.negative n) => s!"integer `{n}`"
  | .number (.real value) =>
    let text := Number.double.show value
    "floating point `" ++ (if text.contains '.' then text else text ++ ".0") ++ "`"
  | .text value => "string " ++ quoted value
  | .list _ => "sequence"
  | .record _ => "map"

end Endpoint.Json
