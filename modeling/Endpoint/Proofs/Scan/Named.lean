import Endpoint.Proofs.Scan.Declarations
import Endpoint.Proofs.Source.Grammar.Item
import Endpoint.Proofs.Symbols

/-!
The traits that a scan finds in source files have names that can be written, and so do the fields of
their structs.
-/

namespace Endpoint

open Source (Item)

/-- An enum, or a trait whose name can be written. -/
def Declaration.IsNamed : Declaration → Prop
  | .trait item => item.name.IsProper
  | .enum _ => True

/-- A unit all of whose traits and fields have names that can be written. -/
def SourceUnit.IsNamed (unit : SourceUnit) : Prop := Source.Items.AreNamed unit.file.items

/-- A unit that is read from text is named. -/
theorem SourceUnit.read_named {path text : String} {module : List String} {unit : SourceUnit}
    (read : SourceUnit.read path module text = .ok unit) : unit.IsNamed := by
  unfold SourceUnit.read at read
  cases found : Source.File.read text with
  | error fault =>
    rw [found] at read
    cases read
  | ok file =>
    rw [found] at read
    cases read
    exact Source.File.read_named found

namespace Scan

mutual

theorem itemDeclarations_named (imports : Imports) :
    ∀ item : Item, item.IsNamed →
      ∀ found ∈ itemDeclarations imports item, found.declaration.IsNamed
  | .trait item, named => by
    unfold itemDeclarations
    simpa [Declaration.IsNamed, Item.IsNamed] using named
  | .enum item, _ => by
    unfold itemDeclarations
    simp [Declaration.IsNamed]
  | .module _ _ _ _ (some items), named => by
    unfold itemDeclarations
    exact declarations_named _ items named
  | .module _ _ _ _ none, _ | .constant _, _ | .externCrate .., _ | .function _, _
  | .foreign .., _ | .implementation _, _ | .invocation _, _ | .static .., _ | .struct _, _
  | .traitAlias .., _ | .alias _, _ | .union _, _ | .use .., _ | .verbatim _, _ => by
    simp [itemDeclarations]

theorem declarations_named (imports : Imports) :
    ∀ items : List Item, Source.Items.AreNamed items →
      ∀ found ∈ declarations imports items, found.declaration.IsNamed
  | [], _ => by simp [declarations]
  | item :: rest, named => by
    obtain ⟨first, later⟩ := named
    unfold declarations
    exact List.forall_mem_append.mpr
      ⟨itemDeclarations_named imports item first, declarations_named imports rest later⟩

end

/-- What a scan of named units finds is named. -/
theorem candidates_named {units : List SourceUnit} (named : ∀ unit ∈ units, unit.IsNamed) :
    ∀ candidate ∈ (ofUnits units).candidates, candidate.declaration.IsNamed := by
  intro candidate member
  rw [ofUnits_candidates] at member
  obtain ⟨found, first, same⟩ := List.mem_filterMap.mp member
  obtain ⟨-, made⟩ := Option.ite_none_left_eq_some.mp same
  cases made
  obtain ⟨unit, held, inside⟩ := List.mem_flatMap.mp (mem_firsts first).1
  exact declarations_named _ _ (named unit held) found inside

end Scan

namespace Symbols

/-- Structs whose fields have names that can be written. -/
def AreNamed (symbols : Symbols) : Prop :=
  ∀ entry ∈ symbols, ∀ held ∈ entry.2, held.field.IsProper

theorem fieldSymbol?_named {field : Source.Field} (named : field.IsNamed) {held : FieldSymbol}
    (found : fieldSymbol? field = some held) : held.field.IsProper := by
  have called : field.name = some held.field := by
    unfold fieldSymbol? at found
    split at found
    · cases found
    · obtain ⟨name, called, made⟩ := Option.bind_eq_some_iff.mp found
      obtain rfl := Option.some.inj made
      exact called
  exact named held.field called

theorem structSymbols?_named {item : Source.Struct} (named : item.fields.AreNamed)
    {symbols : List FieldSymbol} (found : structSymbols? item = some symbols) :
    ∀ held ∈ symbols, held.field.IsProper := by
  unfold structSymbols? at found
  split at found
  · rename_i fields comma given
    rw [given] at named
    obtain rfl := Option.some.inj found
    intro held member
    obtain ⟨field, inside, made⟩ := List.mem_filterMap.mp member
    exact fieldSymbol?_named (named field inside) made
  · cases found

mutual

theorem itemStructs_named (module : Names) :
    ∀ item : Item, item.IsNamed → AreNamed (itemStructs module item)
  | .struct item, named => by
    unfold itemStructs
    cases found : structSymbols? item with
    | none => simp [AreNamed]
    | some symbols => simpa [AreNamed] using structSymbols?_named named found
  | .module _ _ _ _ (some items), named => by
    unfold itemStructs
    exact structs_named _ items named
  | .module _ _ _ _ none, _ | .constant _, _ | .externCrate .., _ | .function _, _
  | .foreign .., _ | .implementation _, _ | .invocation _, _ | .static .., _ | .enum _, _
  | .trait _, _ | .traitAlias .., _ | .alias _, _ | .union _, _ | .use .., _ | .verbatim _, _ => by
    simp [itemStructs, AreNamed]

theorem structs_named (module : Names) :
    ∀ items : List Item, Source.Items.AreNamed items → AreNamed (structs module items)
  | [], _ => by simp [structs, AreNamed]
  | item :: rest, named => by
    obtain ⟨first, later⟩ := named
    unfold structs
    exact List.forall_mem_append.mpr
      ⟨itemStructs_named module item first, structs_named module rest later⟩

end

/-- The structs of named units have fields that are named. -/
theorem ofUnits_named {units : List SourceUnit} (named : ∀ unit ∈ units, unit.IsNamed) :
    AreNamed (ofUnits units) := by
  intro entry member
  rw [ofUnits_eq] at member
  obtain ⟨unit, held, inside⟩ := List.mem_flatMap.mp member
  exact structs_named _ _ (named unit (List.mem_reverse.mp held)) entry (List.mem_reverse.mp inside)

end Symbols

end Endpoint
