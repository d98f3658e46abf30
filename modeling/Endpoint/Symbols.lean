import Endpoint.SourceUnit
import Endpoint.Source.Literal
import Endpoint.Vocabulary

/-!
The structs with named fields that a run knows, for query parameters made of several values.
-/

namespace Endpoint

open Source (Item Struct Field Attribute Visibility)

/-- A field as written, and the query key that it is sent under. -/
structure FieldSymbol where
  field : Source.Ident
  key : String
deriving DecidableEq, Repr

/-- Structs by their path from the crate, with their public fields; the latest first. -/
abbrev Symbols := List (Names × List FieldSymbol)

namespace Symbols

/-- The text that an attribute renames a field to. The attribute is recognised by its written
path alone. -/
def aliasText? (held : Attribute) : Option String :=
  let marker := match held.path.names with
    | [only] => Marker.ofName? only
    | qualified => Marker.ofPath? qualified
  if marker == some .alias then held.stringArgument? else none

def isPublic : Visibility → Bool
  | .inherited => false
  | _ => true

/-- The symbol of a public field. -/
def fieldSymbol? (field : Field) : Option FieldSymbol := do
  if !isPublic field.visibility then failure
  let name ← field.name
  return ⟨name, (field.attributes.findSome? aliasText?).getD name.text⟩

/-- The symbols of a struct with named fields. -/
def structSymbols? (item : Struct) : Option (List FieldSymbol) :=
  match item.fields with
  | .named fields _ => some (fields.filterMap fieldSymbol?)
  | _ => none

mutual

def addItem (module : Names) (symbols : Symbols) : Item → Symbols
  | .struct item =>
    match structSymbols? item with
    | some fields => ("crate" :: (module ++ [item.name.written]), fields) :: symbols
    | none => symbols
  | .module _ _ _ name (some items) => addItems (module ++ [name.written]) symbols items
  | _ => symbols

def addItems (module : Names) (symbols : Symbols) : List Item → Symbols
  | [] => symbols
  | item :: rest => addItems module (addItem module symbols item) rest

end

/-- The structs of the units. -/
def ofUnits (units : List SourceUnit) : Symbols :=
  units.foldl (fun symbols unit => addItems unit.module symbols unit.file.items) []

/-- The fields of the struct at the path. -/
def get? (symbols : Symbols) (path : Names) : Option (List FieldSymbol) :=
  (symbols.find? (·.1 == path)).map (·.2)

/-- The fields of the first of the paths that is known. -/
def find? (symbols : Symbols) (paths : List Names) : Option (List FieldSymbol) :=
  paths.findSome? symbols.get?

/-- The number of paths that are known. -/
def count (symbols : Symbols) : Nat := (symbols.map (·.1)).eraseDups.length

end Symbols

end Endpoint
