import Endpoint.Proofs.Table
import Endpoint.Symbols

/-!
The structs that a run knows, by the units that declare them.
-/

namespace Endpoint.Symbols

open Source (Field Ident Item Struct)

mutual

/-- The structs with named fields that an item is or holds, by their paths. -/
def itemStructs (module : Names) : Item → Symbols
  | .struct item =>
    match structSymbols? item with
    | some fields => [("crate" :: (module ++ [item.name.written]), fields)]
    | none => []
  | .module _ _ _ name (some items) => structs (module ++ [name.written]) items
  | _ => []

/-- The structs with named fields among items and in their modules, in order. -/
def structs (module : Names) : List Item → Symbols
  | [] => []
  | item :: rest => itemStructs module item ++ structs module rest

end

def unitStructs (unit : SourceUnit) : Symbols := structs unit.module unit.file.items

mutual

theorem addItem_eq (module : Names) (symbols : Symbols) :
    ∀ item, addItem module symbols item = (itemStructs module item).reverse ++ symbols
  | .struct item => by
    unfold addItem itemStructs
    cases structSymbols? item <;> rfl
  | .module _ _ _ _ (some items) => by
    unfold addItem itemStructs
    exact addItems_eq _ symbols items
  | .module _ _ _ _ none => rfl
  | .constant _ | .externCrate .. | .function _ | .foreign .. | .implementation _
  | .invocation _ | .static .. | .enum _ | .trait _ | .traitAlias .. | .alias _ | .union _
  | .use .. | .verbatim _ => rfl

theorem addItems_eq (module : Names) (symbols : Symbols) :
    ∀ items, addItems module symbols items = (structs module items).reverse ++ symbols
  | [] => rfl
  | item :: rest => by
    unfold addItems structs
    rw [addItems_eq, addItem_eq, List.reverse_append, List.append_assoc]

end

theorem ofUnits_eq (units : List SourceUnit) :
    ofUnits units = units.reverse.flatMap fun unit => (unitStructs unit).reverse := by
  suffices general : ∀ symbols : Symbols,
      units.foldl (fun symbols unit => addItems unit.module symbols unit.file.items) symbols =
        (units.reverse.flatMap fun unit => (unitStructs unit).reverse) ++ symbols by
    simpa [ofUnits] using general []
  induction units with
  | nil => simp
  | cons unit rest ih =>
    intro symbols
    rw [List.foldl_cons, ih, addItems_eq, List.reverse_cons, List.flatMap_append,
      List.flatMap_singleton, List.append_assoc]
    rfl

/-! ### Look-ups -/

theorem get?_append (first second : Symbols) (path : Names) :
    (first ++ second).get? path = (first.get? path).or (second.get? path) := by
  simp [get?, List.find?_append, Option.map_or]

theorem get?_flatMap (units : List SourceUnit) (f : SourceUnit → Symbols) (path : Names) :
    get? (units.flatMap f) path = units.findSome? fun unit => get? (f unit) path := by
  induction units with
  | nil => rfl
  | cons unit rest ih =>
    rw [List.flatMap_cons, get?_append, ih, List.findSome?_cons]
    cases get? (f unit) path <;> rfl

/-- Where no two units declare the struct at a path, it does not matter in what order they come. -/
theorem get?_ofUnits_perm {units others : List SourceUnit} (same : units.Perm others)
    (apart : units.Pairwise fun first second => ∀ path ∈ (unitStructs first).map Prod.fst,
      path ∉ (unitStructs second).map Prod.fst) (path : Names) :
    (ofUnits units).get? path = (ofUnits others).get? path := by
  rw [ofUnits_eq, ofUnits_eq, get?_flatMap, get?_flatMap]
  have missing : ∀ unit, path ∉ (unitStructs unit).map Prod.fst →
      get? (unitStructs unit).reverse path = none := by
    intro unit absent
    rw [get?, Table.get?_eq_none_iff, List.map_reverse, List.mem_reverse]
    exact absent
  refine Table.findSome?_eq_of_perm
    ((List.reverse_perm _).trans (same.trans (List.reverse_perm _).symm)) ?_
  rw [List.pairwise_reverse]
  refine apart.imp ?_
  intro first second different
  by_cases held : path ∈ (unitStructs first).map Prod.fst
  · exact .inl (missing second (different path held))
  · exact .inr (missing first held)

/-! ### Declared structs -/

/-- The struct is the item or stands in it, at the path. -/
inductive StandsAt : Names → Item → Names → Struct → Prop
  | struct (module : Names) (item : Struct) :
      StandsAt module (.struct item) ("crate" :: (module ++ [item.name.written])) item
  | inside (module : Names) {attributes : Source.Attributes} {visibility : Source.Visibility}
      {isUnsafe : Bool} {name : Ident} {items : List Item} {held : Item} {path : Names}
      {item : Struct} (member : held ∈ items)
      (below : StandsAt (module ++ [name.written]) held path item) :
      StandsAt module (.module attributes visibility isUnsafe name (some items)) path item

/-- The key of a field: the text of its first alias, or else its own name. -/
def IsKey (field : Field) (name : Ident) (key : String) : Prop :=
  (∃ before held behind, field.attributes = before ++ held :: behind ∧
      aliasText? held = some key ∧ ∀ other ∈ before, aliasText? other = none) ∨
    (∀ held ∈ field.attributes, aliasText? held = none) ∧ key = name.text

/-- The symbols are those of the public fields of the struct, in order. -/
def ListsPublic (item : Struct) (symbols : List FieldSymbol) : Prop :=
  ∃ fields comma, item.fields = .named fields comma ∧
    List.Forall₂
      (fun field symbol => field.name = some symbol.field ∧ IsKey field symbol.field symbol.key)
      (fields.filter fun field => isPublic field.visibility && field.name.isSome) symbols

/-- The struct in the table of the units for a list of paths, and its symbols. -/
structure Finds (units : List SourceUnit) (paths : List Names) (item : Struct)
    (symbols : List FieldSymbol) : Prop where
  found : (ofUnits units).find? paths = some symbols
  stands : ∃ path ∈ paths, ∃ unit ∈ units, ∃ held ∈ unit.file.items,
    StandsAt unit.module held path item
  lists : ListsPublic item symbols

theorem isKey_getD (field : Field) (name : Ident) :
    IsKey field name ((field.attributes.findSome? aliasText?).getD name.text) := by
  cases found : field.attributes.findSome? aliasText? with
  | none => exact .inr ⟨List.findSome?_eq_none_iff.mp found, rfl⟩
  | some key =>
    obtain ⟨before, held, behind, split, text, early⟩ := List.findSome?_eq_some_iff.mp found
    exact .inl ⟨before, held, behind, split, text, early⟩

theorem fieldSymbol?_eq (field : Field) :
    fieldSymbol? field = if isPublic field.visibility then
      field.name.map fun name => ⟨name, (field.attributes.findSome? aliasText?).getD name.text⟩
      else none := by
  unfold fieldSymbol?
  cases isPublic field.visibility <;> cases field.name <;> rfl

theorem structSymbols?_lists {item : Struct} {symbols : List FieldSymbol}
    (found : structSymbols? item = some symbols) : ListsPublic item symbols := by
  unfold structSymbols? at found
  split at found
  · rename_i fields comma shape
    cases found
    refine ⟨fields, comma, shape, ?_⟩
    clear shape
    induction fields with
    | nil => exact .nil
    | cons field rest ih =>
      rw [List.filterMap_cons, List.filter_cons, fieldSymbol?_eq]
      cases isPublic field.visibility with
      | false => exact ih
      | true =>
        cases called : field.name with
        | none => exact ih
        | some name => exact .cons ⟨called, isKey_getD field name⟩ ih
  · cases found

mutual

theorem stands_of_mem {module : Names} {path : Names} {symbols : List FieldSymbol} :
    ∀ {held : Item}, (path, symbols) ∈ itemStructs module held →
      ∃ item, StandsAt module held path item ∧ structSymbols? item = some symbols
  | .struct item, member => by
    unfold itemStructs at member
    split at member
    · rename_i fields known
      cases List.mem_singleton.mp member
      exact ⟨item, .struct module item, known⟩
    · cases member
  | .module _ _ _ name (some items), member => by
    unfold itemStructs at member
    obtain ⟨held, inside, item, below, known⟩ := stands_of_mem_structs member
    exact ⟨item, .inside module inside below, known⟩
  | .module _ _ _ _ none, member => by cases member
  | .constant _, member | .externCrate .., member | .function _, member | .foreign .., member
  | .implementation _, member | .invocation _, member | .static .., member | .enum _, member
  | .trait _, member | .traitAlias .., member | .alias _, member | .union _, member
  | .use .., member | .verbatim _, member => by cases member

theorem stands_of_mem_structs {module : Names} {path : Names} {symbols : List FieldSymbol} :
    ∀ {items : List Item}, (path, symbols) ∈ structs module items →
      ∃ held ∈ items, ∃ item, StandsAt module held path item ∧ structSymbols? item = some symbols
  | [], member => by cases member
  | first :: rest, member => by
    unfold structs at member
    rcases List.mem_append.mp member with here | later
    · obtain ⟨item, stands, known⟩ := stands_of_mem here
      exact ⟨first, by simp, item, stands, known⟩
    · obtain ⟨held, inside, item, stands, known⟩ := stands_of_mem_structs later
      exact ⟨held, List.mem_cons_of_mem _ inside, item, stands, known⟩

end

/-- What is found in the table of the units is a struct that one of them declares. -/
theorem finds_of_find? {units : List SourceUnit} {paths : List Names} {symbols : List FieldSymbol}
    (found : (ofUnits units).find? paths = some symbols) :
    ∃ item, Finds units paths item symbols := by
  obtain ⟨path, inside, entry⟩ := List.exists_of_findSome?_eq_some found
  have member := Table.mem_of_get? entry
  rw [ofUnits_eq] at member
  obtain ⟨unit, among, member⟩ := List.mem_flatMap.mp member
  obtain ⟨held, holds, item, stands, known⟩ := stands_of_mem_structs (List.mem_reverse.mp member)
  exact ⟨item, found, ⟨path, inside, unit, List.mem_reverse.mp among, held, holds, stands⟩,
    structSymbols?_lists known⟩

end Endpoint.Symbols
