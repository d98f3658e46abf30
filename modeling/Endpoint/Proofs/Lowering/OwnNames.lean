import Endpoint.Proofs.Imports
import Endpoint.Proofs.Lowering.Returns
import Endpoint.Proofs.Lowering.Roles
import Endpoint.Proofs.Source.Ident

/-!
Types that a module declares itself. Main statement: their names alone are answered by a star that
the vocabulary exports them through, if there is one, and by no other star; the module's own struct
is found in either case.
-/

namespace Endpoint

open Source (Ident Item Path Signature Ty)

namespace Source

/-- The name of the type or trait that an item declares. -/
def Item.typeName? : Item → Option Ident
  | .struct item | .union item => some item.name
  | .enum item => some item.name
  | .alias item => some item.name
  | .trait item => some item.name
  | .traitAlias _ _ name _ _ _ => some name
  | _ => none

/-- The name is one, and an item declares a type under it. -/
def Declares (items : List Item) (name : Ident) : Prop :=
  name.isName = true ∧ ∃ item ∈ items, ∃ declared, item.typeName? = some declared ∧
    declared.text = name.text

/-- A name is none of the words that lead into the crate. -/
theorem Ident.isName_ne {name : Ident} (named : name.isName = true) :
    name.written ≠ "crate" ∧ name.written ≠ "self" ∧ name.written ≠ "super" := by
  cases raw : name.raw with
  | true =>
    have mark : ∀ word : String, word.toList[1]? ≠ some '#' → "r#" ++ name.text ≠ word := by
      rintro _ other rfl
      simp at other
    rw [Ident.written_raw raw]
    exact ⟨mark _ (by decide), mark _ (by decide), mark _ (by decide)⟩
  | false =>
    have free : keywords.contains name.text = false := by simpa [isName, raw] using named
    rw [Ident.written_plain raw]
    refine ⟨?_, ?_, ?_⟩ <;>
    · intro same
      rw [same] at free
      revert free
      decide

end Source

/-- The module is known to export a marker or a type of the name. -/
def Exports (home : Names) (name : String) : Prop :=
  (∃ marker : Marker, name = marker.name ∧ home ∈ vocabularyModules) ∨
    ∃ type : KnownType, name = type.name ∧ home ∈ type.modules

theorem moduleProvides_iff {home : Names} {name : String} :
    moduleProvides home name = true ↔ Exports home name := by
  constructor
  · intro provides
    unfold moduleProvides at provides
    rw [Bool.or_eq_true, Bool.and_eq_true] at provides
    rcases provides with ⟨inside, named⟩ | typed
    · obtain ⟨marker, known⟩ := Option.isSome_iff_exists.mp named
      exact .inl ⟨marker, Marker.ofName?_eq_some_iff.mp known, List.contains_iff_mem.mp inside⟩
    · obtain ⟨type, _, known⟩ := List.any_eq_true.mp typed
      rw [Bool.and_eq_true, beq_iff_eq, List.contains_iff_mem] at known
      exact .inr ⟨type, known.1.symm, known.2⟩
  · rintro (⟨marker, rfl, inside⟩ | ⟨type, rfl, inside⟩)
    · exact (Imports.moduleProvides_marker marker home).mpr inside
    · exact (Imports.moduleProvides_type type home).mpr inside

/-- What exports anything is not in the crate at hand. -/
theorem Exports.outside {home : Names} {name : String} (exports : Exports home name) :
    home.head? ≠ some "crate" := by
  rcases exports with ⟨_, _, inside⟩ | ⟨type, _, inside⟩
  · simp only [vocabularyModules, List.mem_cons, List.not_mem_nil, or_false] at inside
    rcases inside with rfl | rfl | rfl <;> simp
  · cases type <;>
      simp only [KnownType.modules, List.mem_cons, List.not_mem_nil, or_false] at inside
    · rcases inside with rfl | rfl <;> simp
    · rcases inside with rfl | rfl | rfl <;> simp

namespace Symbols

theorem StandsAt.path_start {module path : Names} {held : Item} {item : Source.Struct}
    (stands : StandsAt module held path item) : path.head? = some "crate" := by
  induction stands with
  | struct => rfl
  | inside _ _ _ ih => exact ih

/-- All structs that are known stand in the crate. -/
theorem get?_outside {units : List SourceUnit} {path : Names} (outside : path.head? ≠ some "crate") :
    (ofUnits units).get? path = none := by
  refine Option.eq_none_iff_forall_ne_some.mpr fun fields found => ?_
  have known : (ofUnits units).find? [path] = some fields := by
    simp [find?, found]
  obtain ⟨item, finds⟩ := finds_of_find? known
  obtain ⟨other, inside, unit, _, held, _, stands⟩ := finds.stands
  rw [List.mem_singleton.mp inside] at stands
  exact outside stands.path_start

theorem findSome?_withoutRepeats {f : Names → Option β} (paths : List Names) :
    (Imports.withoutRepeats paths).findSome? f = paths.findSome? f := by
  fun_induction Imports.withoutRepeats paths with
  | case1 a b rest same ih =>
    rw [ih]
    obtain rfl := beq_iff_eq.mp same
    simp only [List.findSome?_cons]
    cases f a <;> rfl
  | case2 a b rest other ih => rw [List.findSome?_cons, List.findSome?_cons, ih]
  | case3 => rfl

end Symbols

namespace Imports

/-- The path is the name alone. -/
def IsBare (name : Ident) (path : Path) : Prop :=
  path.leading = false ∧ path.names = [name.written]

/-- The items import a module as a whole that exports the known type. -/
def Stars (module : Names) (items : List Item) (type : KnownType) : Prop :=
  ∃ home ∈ type.modules, home ∈ stars module items

/-- The path leads to the name in the first module imported as a whole that exports it. -/
def FirstStar (module : Names) (items : List Item) (name : String) (path : Names) : Prop :=
  ∃ before home behind, stars module items = before ++ home :: behind ∧ Exports home name ∧
    (∀ other ∈ before, ¬Exports other name) ∧ path = home ++ [name]

section

variable {module : Names} {items : List Item} {name : Ident} {path : Path}

/-- A name that is not imported is looked for among the stars. -/
theorem resolve_bare (named : name.isName = true) (unknown : Lacks module items name.written)
    (bare : IsBare name path) : (ofItems module items).resolve path =
      ((stars module items).find? (moduleProvides · name.written)).map (· ++ [name.written]) := by
  rw [resolve, bare.1, bare.2, resolveNames]
  simp [alias?_eq_none_iff.mpr unknown, Ident.isName_ne named, ofItems_globs]

theorem resolve_bare_eq_some (named : name.isName = true)
    (unknown : Lacks module items name.written) (bare : IsBare name path) (full : Names) :
    (ofItems module items).resolve path = some full ↔
      FirstStar module items name.written full := by
  rw [resolve_bare named unknown bare, Option.map_eq_some_iff]
  constructor
  · rintro ⟨home, found, rfl⟩
    obtain ⟨exports, before, behind, split, others⟩ := List.find?_eq_some_iff_append.mp found
    refine ⟨before, home, behind, split, moduleProvides_iff.mp exports, ?_, rfl⟩
    intro other inside provides
    simpa [moduleProvides_iff.mpr provides] using others other inside
  · rintro ⟨before, home, behind, split, exports, others, rfl⟩
    refine ⟨home, List.find?_eq_some_iff_append.mpr ⟨moduleProvides_iff.mpr exports, before,
      behind, split, ?_⟩, rfl⟩
    intro other inside
    rw [Bool.not_eq_true', Bool.eq_false_iff, ne_eq, moduleProvides_iff]
    exact others other inside

theorem resolve_bare_eq_none (named : name.isName = true)
    (unknown : Lacks module items name.written) (bare : IsBare name path) :
    (ofItems module items).resolve path = none ↔
      ∀ home ∈ stars module items, ¬Exports home name.written := by
  rw [resolve_bare named unknown bare, Option.map_eq_none_iff, List.find?_eq_none]
  simp only [moduleProvides_iff]

/-- A name alone is known as a type exactly if a star brings it. -/
theorem knownType?_bare (named : name.isName = true)
    (unknown : Lacks module items name.written) (bare : IsBare name path) (type : KnownType) :
    (ofItems module items).knownType? path = some type ↔
      name.written = type.name ∧ Stars module items type := by
  rw [knownType?_eq_some_iff]
  constructor
  · rintro ⟨home, exports, found⟩
    obtain ⟨before, star, behind, split, _, _, same⟩ :=
      (resolve_bare_eq_some named unknown bare _).mp found
    obtain ⟨rfl, ends⟩ := List.append_inj' same rfl
    exact ⟨(List.head_eq_of_cons_eq ends).symm, home, exports, by simp [split]⟩
  · rintro ⟨called, home, exports, star⟩
    obtain ⟨first, found⟩ :
        ∃ first, (stars module items).find? (moduleProvides · name.written) = some first := by
      rw [← Option.isSome_iff_exists, List.find?_isSome, called]
      exact ⟨home, star, (moduleProvides_type type home).mpr exports⟩
    have provides := List.find?_some (p := (moduleProvides · name.written)) found
    rw [called] at provides
    refine ⟨first, (moduleProvides_type type first).mp provides, ?_⟩
    rw [resolve_bare named unknown bare, found, called, Option.map_some]

/-- A struct of the module is found under its name, whatever the module imports as a whole. -/
theorem find?_bare (named : name.isName = true) (unknown : Lacks module items name.written)
    (bare : IsBare name path) {units : List SourceUnit} {fields : List FieldSymbol}
    (own : (Symbols.ofUnits units).get? (cratePath module [name.written]) = some fields) :
    (Symbols.ofUnits units).find? ((ofItems module items).typeCandidates path) = some fields := by
  have outside : ∀ full ∈ (ofItems module items).resolve path,
      (Symbols.ofUnits units).get? full = none := by
    intro full found
    obtain ⟨_, home, _, _, exports, _, rfl⟩ := (resolve_bare_eq_some named unknown bare full).mp found
    refine Symbols.get?_outside ?_
    cases home with
    | nil => simpa using (Ident.isName_ne named).1
    | cons => exact exports.outside
  have free : ((ofItems module items).alias? name.written).isNone = true := by
    rw [alias?_eq_none_iff.mpr unknown]
    rfl
  rw [Symbols.find?, typeCandidates, Symbols.findSome?_withoutRepeats, List.findSome?_append]
  have first : ((ofItems module items).resolve path).toList.findSome? (Symbols.ofUnits units).get? =
      none := by
    rw [List.findSome?_eq_none_iff]
    exact fun full inside => outside full (Option.mem_toList.mp inside)
  simp [first, bare.1, bare.2, free, ofItems_module, own]

end

end Imports

namespace Lowering

open Imports (FirstStar IsBare Lacks Stars)

/-- A return type that is a path is that of a task exactly if the path stands for one. -/
theorem classify_path (imports : Imports) {signature : Signature} {ty : Ty} {path : Path}
    (declared : signature.output = some ty) (own : Encloses ty (.path path)) :
    classify imports signature =
      if imports.knownType? path = some .task then
        if signature.isAsync then .error .asyncTask else taskReturns (typeArguments path)
      else plainReturns (some (.path path)) signature.isAsync
        (if signature.isAsync then .asyncFn else .blocking) := by
  have core : bare ty = .path path := own.bare_eq
  unfold classify
  rw [declared, Option.map_some, core]
  cases signature.isAsync <;> by_cases task : imports.knownType? path = some .task <;>
    simp [taskArguments?, task, futureOutput, bind, Except.bind]

/-- A parameter that is neither in the route nor the body is a cancellation token exactly if the
path that its type is judged by stands for one. -/
theorem roleOf_judged (imports : Imports) (symbols : Symbols) {placeholders : List String}
    {name : String} (free : name ∉ placeholders) {ty : Ty} {optional : Bool} {path : Path}
    (judged : Judged ty optional path) :
    roleOf imports symbols placeholders false name ty =
      if imports.knownType? path = some .token then .cancellation optional
      else queryRole imports symbols name ty := by
  have token : tokenType? imports ty =
      if imports.knownType? path = some .token then some optional else none := by
    rw [tokenType?_eq, judged?_eq_some_iff.mpr judged, Option.bind_some]
  unfold roleOf
  by_cases known : imports.knownType? path = some .token <;> simp [free, token, known]

/-- What the name of a type that the module declares, and does not import, comes to in it. -/
structure OwnName (module : Names) (items : List Item) (name : Ident) : Prop where
  /-- Only a star that exports the name answers for it, the first one. -/
  answered : ∀ path, IsBare name path → ∀ full,
    (Imports.ofItems module items).resolve path = some full ↔
      FirstStar module items name.written full
  unanswered : ∀ path, IsBare name path →
    ((Imports.ofItems module items).resolve path = none ↔
      ∀ home ∈ Imports.stars module items, ¬Exports home name.written)
  known : ∀ path, IsBare name path → ∀ type,
    (Imports.ofItems module items).knownType? path = some type ↔
      name.written = type.name ∧ Stars module items type
  /-- As a return type it is a task if a star brings the task, and else an ordinary type. -/
  returned : ∀ (path : Path) (signature : Signature) (ty : Ty), IsBare name path →
    signature.output = some ty → Encloses ty (.path path) →
    (name.written = KnownType.task.name ∧ Stars module items .task →
      classify (Imports.ofItems module items) signature =
        if signature.isAsync then .error .asyncTask else taskReturns (typeArguments path)) ∧
    (¬(name.written = KnownType.task.name ∧ Stars module items .task) →
      classify (Imports.ofItems module items) signature =
        plainReturns (some (.path path)) signature.isAsync
          (if signature.isAsync then .asyncFn else .blocking))
  /-- As the type of a parameter it is a token if a star brings the token, and else a value. -/
  passed : ∀ (path : Path) (symbols : Symbols) (placeholders : List String) (called : String)
    (ty : Ty) (optional : Bool), IsBare name path → called ∉ placeholders →
    Judged ty optional path →
    (name.written = KnownType.token.name ∧ Stars module items .token →
      roleOf (Imports.ofItems module items) symbols placeholders false called ty =
        .cancellation optional) ∧
    (¬(name.written = KnownType.token.name ∧ Stars module items .token) →
      roleOf (Imports.ofItems module items) symbols placeholders false called ty =
        queryRole (Imports.ofItems module items) symbols called ty)
  /-- A struct of the module is found under it in front of those that stars may bring. -/
  found : ∀ (path : Path) (units : List SourceUnit) (fields : List FieldSymbol), IsBare name path →
    (Symbols.ofUnits units).get? (Imports.cratePath module [name.written]) = some fields →
    (Symbols.ofUnits units).find? ((Imports.ofItems module items).typeCandidates path) = some fields

/-- The items `use restgen::prelude::*;`, `struct Task;` and `struct CancellationToken;`. -/
def shadowing : List Item :=
  [.use [] .inherited false (.path (.plain "restgen") (.path (.plain "prelude") .glob)),
    .struct ⟨[], .inherited, .plain "Task", ⟨[], false, none⟩, .unit⟩,
    .struct ⟨[], .inherited, .plain "CancellationToken", ⟨[], false, none⟩, .unit⟩]

end Lowering

end Endpoint
