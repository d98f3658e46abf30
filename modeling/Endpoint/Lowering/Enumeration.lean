import Endpoint.Lowering.Client

/-!
Understanding an enum as an enumeration with aliases. Every variant must be plain and have one
alias.
-/

namespace Endpoint.Lowering

open Source (Enum Variant)

def isUnitVariant (variant : Variant) : Bool :=
  match variant.fields with
  | .unit => true
  | _ => false

/-- The alias of a variant: its name if no marker gives another. -/
def aliasOf? (imports : Imports) (variant : Variant) : Option String :=
  match variant.attributes.filter (isHelper imports .alias) with
  | [] => some variant.name.text
  | [held] => held.stringArgument?.filter (!·.isEmpty)
  | _ => none

/-- The member that a variant declares, or its problem. -/
def enumerationMember (imports : Imports) (variant : Variant) :
    Except Problem EnumerationMember :=
  if !isUnitVariant variant then .error (.nonUnitVariant variant.name.text)
  else
    match aliasOf? imports variant with
    | some text => .ok ⟨variant.name, text⟩
    | none => .error (.invalidAlias variant.name.text)

/-- The problem of a variant. -/
def variantProblem? (imports : Imports) (identity : Identity) (variant : Variant) :
    Option Diagnostic :=
  match enumerationMember imports variant with
  | .ok _ => none
  | .error problem => some (.ofMember identity variant.name.text problem)

/-- The enumeration that an enum declares. -/
def enumeration (candidate : Candidate) (item : Enum) : Lowered Enumeration :=
  let identity := candidate.identity
  if !item.generics.parameters.isEmpty then
    .rejected [.ofDeclaration identity .genericDeclaration]
  else
    let imports := candidate.imports
    let diagnostics := item.variants.filterMap (variantProblem? imports identity)
    if diagnostics.isEmpty then
      let members := item.variants.filterMap fun variant =>
        (enumerationMember imports variant).toOption
      ⟨some ⟨identity, item.name, members⟩, []⟩
    else .rejected diagnostics

end Endpoint.Lowering
