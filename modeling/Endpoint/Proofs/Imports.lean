import Endpoint.Proofs.Expansion
import Mathlib.Data.List.Basic

/-!
The imports of a module as a list. A name stands for what it was last imported for, and a path for a
marker if it leads into the vocabulary as written, through such a name, or through a star.
-/

namespace Endpoint

open Source (Ident Item Path UseTree)

/-- One import: a path that a name stands for, or a module all of whose names are meant. -/
inductive Import
  | named (name : String) (path : Names)
  | all (path : Names)

namespace Import

def named? : Import → Option (String × Names)
  | .named name path => some (name, path)
  | .all _ => none

def all? : Import → Option Names
  | .named .. => none
  | .all path => some path

/-- The same import with another path. -/
def mapPath (change : Names → Names) : Import → Import
  | .named name path => .named name (change path)
  | .all path => .all (change path)

end Import

namespace Source

mutual

/-- What a tree imports, in order, with paths as they are written behind the given one. -/
def UseTree.imports (before : Names) : UseTree → List Import
  | .path step rest => rest.imports (before ++ [step.written])
  | .name held =>
    if held.written = "self" then (before.getLast?.map (.named · before)).toList
    else [.named held.written (before ++ [held.written])]
  | .rename held shown =>
    if shown.written = "_" then []
    else if held.written = "self" then [.named shown.written before]
    else [.named shown.written (before ++ [held.written])]
  | .glob => [.all before]
  | .group trees _ => importsOfAll before trees

def UseTree.importsOfAll (before : Names) : List UseTree → List Import
  | [] => []
  | tree :: rest => tree.imports before ++ importsOfAll before rest

end

/-- What an item of the module imports, with paths from their crates. -/
def Item.imports (module : Names) : Item → List Import
  | .use _ _ leading tree => (tree.imports []).map (.mapPath (Imports.absolute module leading))
  | _ => []

end Source

namespace Imports

/-- Imports with one more behind them. -/
def addImport (imports : Imports) : Import → Imports
  | .named name path => imports.addAlias name path
  | .all path => imports.addGlob path

theorem foldl_addImport (imports : Imports) (added : List Import) :
    added.foldl addImport imports =
      ⟨imports.module, (added.filterMap Import.named?).reverse ++ imports.aliases,
        imports.globs ++ added.filterMap Import.all?⟩ := by
  induction added generalizing imports with
  | nil => simp
  | cons first rest ih =>
    rw [List.foldl_cons, ih]
    cases first <;>
      simp [List.filterMap_cons, addImport, addAlias, addGlob, Import.named?, Import.all?]

mutual

theorem collect_eq (rooted : Bool) (before : Names) (imports : Imports) : ∀ tree : UseTree,
    collect rooted before imports tree =
      ((tree.imports before).map (.mapPath (absolute imports.module rooted))).foldl addImport imports
  | .path _ rest => by
    unfold collect UseTree.imports
    exact collect_eq rooted _ imports rest
  | .name held => by
    unfold collect UseTree.imports
    by_cases self : held.written = "self"
    · cases before.getLast? <;> simp [self, Import.mapPath, addImport]
    · simp [self, Import.mapPath, addImport]
  | .rename held shown => by
    unfold collect UseTree.imports
    by_cases hidden : shown.written = "_"
    · simp [hidden]
    · by_cases self : held.written = "self" <;> simp [hidden, self, Import.mapPath, addImport]
  | .glob => rfl
  | .group trees _ => by
    unfold collect UseTree.imports
    exact collectAll_eq rooted before imports trees

theorem collectAll_eq (rooted : Bool) (before : Names) (imports : Imports) :
    ∀ trees : List UseTree,
      collectAll rooted before imports trees =
        ((UseTree.importsOfAll before trees).map
          (.mapPath (absolute imports.module rooted))).foldl addImport imports
  | [] => rfl
  | tree :: rest => by
    unfold collectAll UseTree.importsOfAll
    rw [collectAll_eq, collect_eq, List.map_append, List.foldl_append]
    simp only [foldl_addImport]

end

theorem addItem_eq (imports : Imports) (item : Item) :
    imports.addItem item = (item.imports imports.module).foldl addImport imports := by
  cases item with
  | use _ _ leading tree => exact collect_eq leading [] imports tree
  | _ => rfl

/-- The imports of a module are what its items import: names the latest first, stars in order. -/
theorem ofItems_eq (module : Names) (items : List Item) :
    ofItems module items =
      (items.flatMap (Item.imports module)).foldl addImport ⟨module, [], []⟩ := by
  suffices general : ∀ imports : Imports, imports.module = module →
      items.foldl addItem imports =
        (items.flatMap (Item.imports module)).foldl addImport imports from general _ rfl
  induction items with
  | nil => exact fun _ _ => rfl
  | cons item rest ih =>
    intro imports own
    rw [List.foldl_cons, List.flatMap_cons, List.foldl_append, addItem_eq, own, ih]
    rw [foldl_addImport, own]

theorem ofItems_module (module : Names) (items : List Item) :
    (ofItems module items).module = module := by
  rw [ofItems_eq, foldl_addImport]

/-! ### Names and stars -/

/-- The names that the items of a module import, with their paths, in order. -/
def names (module : Names) (items : List Item) : List (String × Names) :=
  (items.flatMap (Item.imports module)).filterMap Import.named?

/-- The modules that they import as a whole. -/
def stars (module : Names) (items : List Item) : List Names :=
  (items.flatMap (Item.imports module)).filterMap Import.all?

theorem ofItems_globs (module : Names) (items : List Item) :
    (ofItems module items).globs = stars module items := by
  rw [ofItems_eq, foldl_addImport, List.nil_append, stars]

/-- The items import the path under the name, and nothing else under it after that. -/
def Brings (module : Names) (items : List Item) (name : String) (path : Names) : Prop :=
  ∃ before behind, names module items = before ++ (name, path) :: behind ∧
    ∀ entry ∈ behind, entry.1 ≠ name

/-- The items import nothing under the name. -/
def Lacks (module : Names) (items : List Item) (name : String) : Prop :=
  ∀ entry ∈ names module items, entry.1 ≠ name

theorem alias?_eq (module : Names) (items : List Item) (name : String) :
    (ofItems module items).alias? name =
      ((names module items).reverse.find? (·.1 == name)).map (·.2) := by
  rw [alias?, ofItems_eq, foldl_addImport, List.append_nil, names]

theorem alias?_eq_some_iff {module : Names} {items : List Item} {name : String} {path : Names} :
    (ofItems module items).alias? name = some path ↔ Brings module items name path := by
  rw [alias?_eq, Option.map_eq_some_iff]
  constructor
  · rintro ⟨⟨name', path'⟩, found, rfl⟩
    obtain ⟨same, behind, before, split, none⟩ := List.find?_eq_some_iff_append.mp found
    obtain rfl : name' = name := beq_iff_eq.mp same
    refine ⟨before.reverse, behind.reverse, ?_, ?_⟩
    · rw [← List.reverse_reverse (names module items), split]
      simp
    · simpa using none
  · rintro ⟨before, behind, split, none⟩
    refine ⟨(name, path), List.find?_eq_some_iff_append.mpr ⟨by simp, behind.reverse,
      before.reverse, ?_, ?_⟩, rfl⟩
    · rw [split]
      simp
    · simpa using none

theorem alias?_eq_none_iff {module : Names} {items : List Item} {name : String} :
    (ofItems module items).alias? name = none ↔ Lacks module items name := by
  simp [alias?_eq, Lacks]

/-! ### Paths into the vocabulary -/

/-- Whether names lead to the marker from a module that exports it. -/
def LeadTo (marker : Marker) (path : Names) : Prop :=
  ∃ home ∈ vocabularyModules, path = home ++ [marker.name]

/-- A path that stands for the marker among the items of a module. -/
inductive StandsFor (module : Names) (items : List Item) (marker : Marker) (path : Path) : Prop
  /-- It is written out from the root. -/
  | rooted (leading : path.leading = true) (leads : LeadTo marker path.names)
  /-- It is written out, and its first name is not imported. -/
  | written (leading : path.leading = false) (head : String) (rest : Names)
      (names : path.names = head :: rest) (unknown : Lacks module items head)
      (leads : LeadTo marker path.names)
  /-- Its first name is imported for what leads there. -/
  | named (leading : path.leading = false) (head : String) (rest whole : Names)
      (names : path.names = head :: rest) (known : Brings module items head whole)
      (leads : LeadTo marker (whole ++ rest))
  /-- It is the name of the marker, which only a star brings. -/
  | starred (leading : path.leading = false) (names : path.names = [marker.name])
      (unknown : Lacks module items marker.name) (home : Names)
      (exports : home ∈ vocabularyModules) (star : home ∈ stars module items)

theorem ofPath?_eq_some_iff_leadTo {path : Names} {marker : Marker} :
    Marker.ofPath? path = some marker ↔ LeadTo marker path := by
  rw [Marker.ofPath?_eq_some_iff]
  constructor
  · rintro ⟨last, inside⟩
    exact ⟨_, inside, (List.dropLast_append_getLast? _ (Option.mem_def.mpr last)).symm⟩
  · rintro ⟨home, inside, rfl⟩
    simpa using inside

/-- The modules that provide a name which a marker has are those of the vocabulary. -/
theorem moduleProvides_marker (marker : Marker) (module : Names) :
    moduleProvides module marker.name = true ↔ module ∈ vocabularyModules := by
  have known : ∀ type : KnownType, type.name ≠ marker.name := by
    intro type
    cases marker with
    | verb held => cases held <;> cases type <;> decide
    | _ => cases type <;> decide
  simp [moduleProvides, Marker.ofName?_name, known]

/-- The modules that provide a name which a known type has are those that export the type. -/
theorem moduleProvides_type (type : KnownType) (module : Names) :
    moduleProvides module type.name = true ↔ module ∈ type.modules := by
  cases type <;> simp [moduleProvides, Marker.ofName?, Marker.all, Verb.all, Marker.name,
    KnownType.all, KnownType.name]

theorem find?_moduleProvides {marker : Marker} {globs : List Names} :
    (∃ home, globs.find? (moduleProvides · marker.name) = some home) ↔
      ∃ home ∈ vocabularyModules, home ∈ globs := by
  rw [← Option.isSome_iff_exists, List.find?_isSome]
  simp [moduleProvides_marker, and_comm]

/-- Names that lead to a marker are at least two, and the first one is a crate. -/
theorem LeadTo.outside {marker : Marker} {head : String} {rest : Names}
    (leads : LeadTo marker (head :: rest)) :
    rest ≠ [] ∧ head ≠ "crate" ∧ head ≠ "self" ∧ head ≠ "super" := by
  obtain ⟨home, inside, split⟩ := leads
  simp only [vocabularyModules, List.mem_cons, List.not_mem_nil, or_false] at inside
  rcases inside with rfl | rfl | rfl <;> cases split <;> simp

theorem markerName_outside (marker : Marker) :
    marker.name ≠ "crate" ∧ marker.name ≠ "self" ∧ marker.name ≠ "super" := by
  cases marker with
  | verb held => cases held <;> decide
  | _ => decide

/-- What an attribute's path is taken for is what it stands for among the items of the module. -/
theorem marker?_eq_some_iff {module : Names} {items : List Item} {marker : Marker} {path : Path} :
    (ofItems module items).marker? path = some marker ↔ StandsFor module items marker path := by
  rw [marker?, Option.bind_eq_some_iff]
  simp only [ofPath?_eq_some_iff_leadTo]
  constructor
  · rintro ⟨resolved, found, leads⟩
    unfold resolve at found
    cases leading : path.leading with
    | true =>
      rw [leading] at found
      obtain rfl : path.names = resolved := Option.some.inj found
      exact .rooted leading leads
    | false =>
      rw [leading] at found
      obtain ⟨head, rest, written, ⟨whole, known, rfl⟩ | ⟨unknown, origin⟩⟩ :=
        resolveNames_cases found
      · exact .named leading head rest whole written (alias?_eq_some_iff.mp known) leads
      · rw [alias?_eq_none_iff] at unknown
        rcases origin with ⟨more, rfl⟩ | ⟨home, star, rfl, rfl⟩ | ⟨-, rfl⟩
        · exact absurd rfl leads.outside.2.1
        · obtain ⟨same, rfl⟩ : home ∈ vocabularyModules ∧ head = marker.name := by
            obtain ⟨other, inside, split⟩ := leads
            obtain ⟨rfl, ends⟩ := List.append_inj' split rfl
            exact ⟨inside, List.head_eq_of_cons_eq ends⟩
          exact .starred leading written unknown home same (ofItems_globs module items ▸ star)
        · exact .written leading head rest written unknown leads
  · rintro (⟨leading, leads⟩ | ⟨leading, head, rest, names, unknown, leads⟩ |
      ⟨leading, head, rest, whole, names, known, leads⟩ | ⟨leading, names, unknown, home, inside, star⟩)
    · exact ⟨path.names, by simp [resolve, resolveNames, leading], leads⟩
    · refine ⟨path.names, ?_, leads⟩
      rw [names] at leads
      simp [resolve, resolveNames, leading, names, alias?_eq_none_iff.mpr unknown, leads.outside]
    · exact ⟨_, by simp [resolve, resolveNames, leading, names, alias?_eq_some_iff.mpr known], leads⟩
    · rw [← ofItems_globs module items] at star
      obtain ⟨found, provides⟩ : ∃ found, (ofItems module items).globs.find?
          (moduleProvides · marker.name) = some found :=
        find?_moduleProvides.mpr ⟨home, inside, star⟩
      refine ⟨found ++ [marker.name], ?_, found, ?_, rfl⟩
      · simp [resolve, resolveNames, leading, names, alias?_eq_none_iff.mpr unknown,
          markerName_outside, provides]
      · exact (moduleProvides_marker marker found).mp
          (List.find?_some (p := (moduleProvides · marker.name)) provides)

instance (module : Names) (items : List Item) (marker : Marker) :
    DecidablePred (StandsFor module items marker) :=
  fun _ => decidable_of_iff _ marker?_eq_some_iff

end Imports

end Endpoint
