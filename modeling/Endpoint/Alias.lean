import Endpoint.Json.Decode

/-!
Enumerations whose variants are written as aliases: the table of an enumeration, and reading and
writing by it.
-/

namespace Endpoint

/-- The variants of an enumeration, each with its alias. -/
abbrev AliasTable (α : Type) := List (α × String)

namespace AliasTable

variable {α : Type}

/-- The alias of a variant. -/
def alias? [BEq α] (table : AliasTable α) (variant : α) : Option String :=
  (table.find? (·.1 == variant)).map (·.2)

/-- The first variant with the alias. -/
def ofAlias? (table : AliasTable α) (text : String) : Option α :=
  (table.find? (·.2 == text)).map (·.1)

/-- The words for the aliases that are known. -/
def choices (table : AliasTable α) : String :=
  match table.map fun entry => s!"`{entry.2}`" with
  | [] => "there are no variants"
  | [only] => "expected " ++ only
  | [first, second] => "expected " ++ first ++ " or " ++ second
  | many => "expected one of " ++ ", ".intercalate many

/-- The variant that JSON names by its alias, or what is wrong with it. -/
def decode (table : AliasTable α) : Json → Except String α
  | .text text =>
    match table.ofAlias? text with
    | some variant => .ok variant
    | none => .error s!"unknown variant `{text}`, {table.choices}"
  | other => .error s!"invalid type: {other.described}, expected a string"

end AliasTable

end Endpoint
