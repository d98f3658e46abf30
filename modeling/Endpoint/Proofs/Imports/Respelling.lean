import Endpoint.Proofs.Imports
import Endpoint.Proofs.Lowering.Naming
import Endpoint.Proofs.Table
import Mathlib.Data.List.Perm.Basic

/-!
Ways to write the same imports. Main statement: where no name is imported twice, items in another
order, groups split or merged and modules named by `self` in braces change nothing that a path is
known by.
-/

namespace Endpoint

open Source (Attribute Attributes Ident Item Path UseTree Visibility)

namespace Source

/-- Trees that stand beside each other write the same imports as others. -/
inductive UseTree.Respelled : List UseTree → List UseTree → Prop
  | reordered {trees others : List UseTree} (same : trees.Perm others) : Respelled trees others
  /-- `a::{x, y}` is `a::x` and `a::y`. -/
  | split (step : Ident) (trees : List UseTree) (comma : Bool) :
      Respelled [.path step (.group trees comma)] (trees.map (.path step))
  /-- `{x, y}` is `x` and `y`. -/
  | opened (trees : List UseTree) (comma : Bool) : Respelled [.group trees comma] trees
  /-- `b::{self}` is `b`. -/
  | itself (name : Ident) (comma : Bool) (other : name.written ≠ "self") :
      Respelled [.path name (.group [.name (.plain "self")] comma)] [.name name]
  /-- `b::{self as c}` is `b as c`. -/
  | itselfAs (name shown : Ident) (comma : Bool) (other : name.written ≠ "self") :
      Respelled [.path name (.group [.rename (.plain "self") shown] comma)] [.rename name shown]
  | under (step : Ident) {tree other : UseTree} (same : Respelled [tree] [other]) :
      Respelled [.path step tree] [.path step other]
  | beside (before behind : List UseTree) {trees others : List UseTree}
      (same : Respelled trees others) :
      Respelled (before ++ trees ++ behind) (before ++ others ++ behind)
  | symm {trees others : List UseTree} (same : Respelled trees others) : Respelled others trees
  | trans {trees others more : List UseTree} (first : Respelled trees others)
      (second : Respelled others more) : Respelled trees more

/-- The items of a module with their imports written in another way. -/
inductive Item.Respelled : List Item → List Item → Prop
  | reordered {items others : List Item} (same : items.Perm others) : Respelled items others
  | trees (attributes : Attributes) (visibility : Visibility) (leading : Bool)
      (before behind : List Item) {trees others : List UseTree}
      (same : UseTree.Respelled trees others) :
      Respelled (before ++ trees.map (.use attributes visibility leading) ++ behind)
        (before ++ others.map (.use attributes visibility leading) ++ behind)
  /-- What is written beside an import does not matter. -/
  | marked (attributes attributes' : Attributes) (visibility visibility' : Visibility)
      (leading : Bool) (tree : UseTree) (before behind : List Item) :
      Respelled (before ++ .use attributes visibility leading tree :: behind)
        (before ++ .use attributes' visibility' leading tree :: behind)
  | trans {items others more : List Item} (first : Respelled items others)
      (second : Respelled others more) : Respelled items more

/-- Trees behind a step are written in other ways as they are without it. -/
theorem UseTree.Respelled.behind (step : Ident) {trees others : List UseTree}
    (same : UseTree.Respelled trees others) :
    UseTree.Respelled (trees.map (.path step)) (others.map (.path step)) := by
  have grouped : UseTree.Respelled [.group trees false] [.group others false] :=
    ((opened trees false).trans same).trans (opened others false).symm
  exact ((split step trees false).symm.trans (grouped.under step)).trans (split step others false)

theorem UseTree.importsOfAll_eq (before : Names) (trees : List UseTree) :
    UseTree.importsOfAll before trees = trees.flatMap (UseTree.imports before) := by
  induction trees with
  | nil => rfl
  | cons tree rest ih => rw [importsOfAll, ih, List.flatMap_cons]

theorem UseTree.imports_path (before : Names) (step : Ident) (tree : UseTree) :
    (UseTree.path step tree).imports before = tree.imports (before ++ [step.written]) := by
  rw [UseTree.imports]

theorem UseTree.imports_group (before : Names) (trees : List UseTree) (comma : Bool) :
    (UseTree.group trees comma).imports before = trees.flatMap (UseTree.imports before) := by
  rw [UseTree.imports, UseTree.importsOfAll_eq]

/-- However trees are written, they import the same, behind any path. -/
theorem UseTree.Respelled.perm {trees others : List UseTree} (same : Respelled trees others)
    (before : Names) :
    (trees.flatMap (UseTree.imports before)).Perm (others.flatMap (UseTree.imports before)) := by
  induction same generalizing before with
  | reordered same => exact same.flatMap_right _
  | split step trees comma =>
    rw [List.flatMap_singleton, imports_path, imports_group, List.flatMap_map]
    simp only [imports_path]
    exact .refl _
  | opened trees comma =>
    rw [List.flatMap_singleton, imports_group]
  | itself name comma other =>
    have named : (Ident.plain "self").written = "self" := rfl
    simp only [List.flatMap_singleton, imports_path, imports_group]
    simp [UseTree.imports, other, named]
  | itselfAs name shown comma other =>
    have named : (Ident.plain "self").written = "self" := rfl
    simp only [List.flatMap_singleton, imports_path, imports_group]
    simp [UseTree.imports, other, named]
  | under step _ ih =>
    have behind := ih (before ++ [step.written])
    rw [List.flatMap_singleton, List.flatMap_singleton] at behind ⊢
    rw [imports_path, imports_path]
    exact behind
  | beside front back _ ih =>
    rw [List.flatMap_append, List.flatMap_append, List.flatMap_append, List.flatMap_append]
    exact ((ih before).append_left _).append_right _
  | symm _ ih => exact (ih before).symm
  | trans _ _ first second => exact (first before).trans (second before)

end Source

namespace Imports

/-- However the imports of a module are written, they are the same, in some order. -/
theorem respelled_perm {items others : List Item} (same : Item.Respelled items others)
    (module : Names) :
    (items.flatMap (Item.imports module)).Perm (others.flatMap (Item.imports module)) := by
  induction same with
  | reordered same => exact same.flatMap_right _
  | trees attributes visibility leading before behind same =>
    have each : ∀ trees : List UseTree,
        (trees.map (Item.use attributes visibility leading)).flatMap (Item.imports module) =
          (trees.flatMap (UseTree.imports [])).map (.mapPath (absolute module leading)) := by
      intro trees
      rw [List.flatMap_map, List.map_flatMap]
      rfl
    simp only [List.flatMap_append, each]
    exact (((same.perm []).map _).append_left _).append_right _
  | marked attributes attributes' visibility visibility' leading tree before behind =>
    rw [List.flatMap_append, List.flatMap_append, List.flatMap_cons, List.flatMap_cons]
    exact .refl _
  | trans _ _ first second => exact first.trans second

/-- A name imported once stands for what it is imported for. -/
theorem alias?_iff_mem {module : Names} {items : List Item}
    (once : ((names module items).map Prod.fst).Nodup) (name : String) (path : Names) :
    (ofItems module items).alias? name = some path ↔ (name, path) ∈ names module items := by
  have distinct : ((names module items).reverse.map Prod.fst).Nodup := by
    rw [List.map_reverse, List.nodup_reverse]
    exact once
  rw [alias?_eq, Table.get?_iff distinct, List.mem_reverse]

/-! ### Answers that differ in a star -/

/-- A path resolves to the same, or is a name alone that a module provides for each answer. -/
inductive Agree (first second : Imports) (path : Path) : Option Names → Option Names → Prop
  | same (resolved : Option Names) : Agree first second path resolved resolved
  | starred (name : String) (home other : Names) (inside : path.leading = false)
      (alone : path.names = [name]) (star : home ∈ first.globs)
      (provides : moduleProvides home name = true) (otherStar : other ∈ second.globs)
      (otherProvides : moduleProvides other name = true) :
      Agree first second path (some (home ++ [name])) (some (other ++ [name]))

/-- Two scopes in which every path is known as the same, and resolves to the same but for the star
that provides a name alone. -/
structure SameMeaning (first second : Imports) : Prop where
  marker : ∀ path, first.marker? path = second.marker? path
  type : ∀ path, first.knownType? path = second.knownType? path
  helper : ∀ held : Attribute, Lowering.helper first held = Lowering.helper second held
  resolved : ∀ path, Agree first second path (first.resolve path) (second.resolve path)

/-- A name that a module provides is known there by the name alone. -/
theorem ofPath?_provided {home : Names} {name : String}
    (provides : moduleProvides home name = true) :
    Marker.ofPath? (home ++ [name]) = Marker.ofName? name := by
  simp only [Marker.ofPath?, List.getLast?_concat, List.dropLast_concat]
  cases known : Marker.ofName? name with
  | none => simp
  | some marker =>
    obtain rfl := Marker.ofName?_eq_some_iff.mp known
    simp [(moduleProvides_marker marker home).mp provides]

theorem knownType?_provided {home : Names} {name : String}
    (provides : moduleProvides home name = true) (type : KnownType) :
    KnownType.ofPath? (home ++ [name]) = some type ↔ name = type.name := by
  rw [KnownType.ofPath?_eq_some_iff]
  constructor
  · rintro ⟨_, _, split⟩
    exact List.head_eq_of_cons_eq (List.append_inj' split rfl).2
  · rintro rfl
    exact ⟨home, (moduleProvides_type type home).mp provides, rfl⟩

section

variable {first second : Imports} {path : Path} {one two : Option Names}

theorem Agree.marker (agree : Agree first second path one two) :
    one.bind Marker.ofPath? = two.bind Marker.ofPath? := by
  cases agree with
  | same => rfl
  | starred name home other inside alone star provides otherStar otherProvides =>
    simp only [Option.bind_some, ofPath?_provided provides, ofPath?_provided otherProvides]

theorem Agree.type (agree : Agree first second path one two) :
    one.bind KnownType.ofPath? = two.bind KnownType.ofPath? := by
  cases agree with
  | same => rfl
  | starred name home other inside alone star provides otherStar otherProvides =>
    refine Option.ext fun type => ?_
    simp only [Option.bind_some, knownType?_provided provides, knownType?_provided otherProvides]

theorem Agree.helper {held : Attribute}
    (agree : Agree first second held.path (first.resolve held.path) (second.resolve held.path)) :
    Lowering.helper first held = Lowering.helper second held := by
  unfold Lowering.helper
  generalize first.resolve held.path = one at agree
  generalize second.resolve held.path = two at agree
  cases agree with
  | same => rfl
  | starred name home other inside alone star provides otherStar otherProvides =>
    simp only [ofPath?_provided provides, ofPath?_provided otherProvides, List.getLast?_concat]
    cases known : Marker.ofName? name with
    | none => simp [known, Lowering.helperOnly]
    | some marker => rfl

end

/-- A name alone is provided by a star in either order, or in none. -/
theorem agree_stars {first second : Imports} (stars : first.globs.Perm second.globs) {path : Path}
    {name : String} (inside : path.leading = false) (alone : path.names = [name]) :
    Agree first second path
      ((first.globs.find? fun home => moduleProvides home name).map (· ++ [name]))
      ((second.globs.find? fun home => moduleProvides home name).map (· ++ [name])) := by
  cases found : first.globs.find? fun home => moduleProvides home name with
  | none =>
    have missing : (second.globs.find? fun home => moduleProvides home name) = none := by
      rw [List.find?_eq_none] at found ⊢
      exact fun home star => found home (stars.mem_iff.mpr star)
    rw [missing]
    exact .same none
  | some home =>
    have star := List.mem_of_find?_eq_some found
    have provides := List.find?_some (p := (moduleProvides · name)) found
    obtain ⟨other, otherFound⟩ :
        ∃ other, (second.globs.find? fun home => moduleProvides home name) = some other := by
      rw [← Option.isSome_iff_exists, List.find?_isSome]
      exact ⟨home, stars.mem_iff.mp star, provides⟩
    rw [otherFound]
    exact .starred name home other inside alone star provides
      (List.mem_of_find?_eq_some otherFound)
      (List.find?_some (p := (moduleProvides · name)) otherFound)

/-- Scopes with the same names, and the same stars in some order, agree on every path. -/
theorem agree_of_perm {first second : Imports} (module : first.module = second.module)
    (known : ∀ name, first.alias? name = second.alias? name)
    (stars : first.globs.Perm second.globs) (path : Path) :
    Agree first second path (first.resolve path) (second.resolve path) := by
  unfold resolve resolveNames
  cases inside : path.leading with
  | true => exact .same _
  | false =>
    simp only [Bool.false_eq_true, if_false]
    cases written : path.names with
    | nil => exact .same _
    | cons head rest =>
      dsimp only
      rw [known head]
      cases second.alias? head with
      | some full => exact .same _
      | none =>
        dsimp only
        split
        · rw [module]
          exact .same _
        · cases rest with
          | nil => exact agree_stars stars inside written
          | cons => exact .same _

/-- Imports written in another way mean the same, where no name is imported twice. -/
theorem respelled_same_meaning {module : Names} {items others : List Item}
    (same : Item.Respelled items others)
    (once : ((names module items).map Prod.fst).Nodup) :
    SameMeaning (ofItems module items) (ofItems module others) := by
  have imports := respelled_perm same module
  have named : (names module items).Perm (names module others) := imports.filterMap _
  have starred : (ofItems module items).globs.Perm (ofItems module others).globs := by
    rw [ofItems_globs, ofItems_globs]
    exact imports.filterMap _
  have otherOnce : ((names module others).map Prod.fst).Nodup :=
    (named.map Prod.fst).nodup_iff.mp once
  have known : ∀ name, (ofItems module items).alias? name = (ofItems module others).alias? name := by
    intro name
    refine Option.ext fun path => ?_
    rw [alias?_iff_mem once, alias?_iff_mem otherOnce, named.mem_iff]
  have agree := agree_of_perm
    ((ofItems_module module items).trans (ofItems_module module others).symm) known starred
  exact ⟨fun path => (agree path).marker, fun path => (agree path).type,
    fun held => Agree.helper (agree held.path), agree⟩

/-- The item `use restgen::{*, prelude::{self, *}};`. -/
def groupedImports : List Item :=
  [.use [] .inherited false (.path (.plain "restgen") (.group
    [.glob, .path (.plain "prelude") (.group [.name (.plain "self"), .glob] false)] false))]

/-- The items `use restgen::prelude;`, `use restgen::prelude::*;` and `use restgen::*;`. -/
def separateImports : List Item :=
  ([.path (.plain "restgen") (.name (.plain "prelude")),
    .path (.plain "restgen") (.path (.plain "prelude") .glob),
    .path (.plain "restgen") .glob] : List UseTree).map (.use [] .inherited false)

theorem respelled_same_meaning_prelude :
    Item.Respelled groupedImports separateImports ∧
      ((names [] groupedImports).map Prod.fst).Nodup ∧
      SameMeaning (ofItems [] groupedImports) (ofItems [] separateImports) := by
  have itself : UseTree.Respelled [.path (.plain "prelude") (.name (.plain "self"))]
      [.name (.plain "prelude")] :=
    (UseTree.Respelled.split (.plain "prelude") [.name (.plain "self")] false).symm.trans
      (.itself _ false (by decide))
  have inner : UseTree.Respelled
      [.path (.plain "prelude") (.group [.name (.plain "self"), .glob] false)]
      [.name (.plain "prelude"), .path (.plain "prelude") .glob] :=
    (UseTree.Respelled.split (.plain "prelude") [.name (.plain "self"), .glob] false).trans
      (itself.beside [] [.path (.plain "prelude") .glob])
  have trees := (UseTree.Respelled.split (.plain "restgen")
      [.glob, .path (.plain "prelude") (.group [.name (.plain "self"), .glob] false)] false).trans
    ((inner.behind (.plain "restgen")).beside [.path (.plain "restgen") .glob] [])
  have items : Item.Respelled groupedImports separateImports :=
    (Item.Respelled.trees [] .inherited false [] [] trees).trans
      (.reordered (List.perm_append_singleton _ _).symm)
  have once : ((names [] groupedImports).map Prod.fst).Nodup := by decide +kernel
  exact ⟨items, once, respelled_same_meaning items once⟩

end Imports

end Endpoint
