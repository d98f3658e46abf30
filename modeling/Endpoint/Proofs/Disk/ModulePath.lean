import Endpoint.Proofs.Disk.Path

/-!
Modules of files under other spellings of their paths. Main statement: a point in front of the path
or of the root changes nothing exactly if the file stands right in the root, or not below it, or no
spelling of the two hides that it does.
-/

namespace Endpoint.Disk

/-- A relative path without steps up. -/
structure IsStraight (path : String) : Prop where
  relative : path.startsWith "/" = false
  noParent : ".." ∉ parts path

/-- The names on the way. -/
def namesOf (path : String) : List String :=
  ((parts path).filter (!·.isEmpty)).filter (· != ".")

/-- Whether a point stands in front. -/
def isDotted (path : String) : Bool := ((parts path).filter (!·.isEmpty)).head? == some "."

/-- The component that the point in front is. -/
def point (dotted : Bool) : List Component := if dotted then [.current] else []

theorem components_straight {path : String} (straight : IsStraight path) :
    components path = point (isDotted path) ++ (namesOf path).map .normal := by
  have names : (namesOf path).map Component.ofPart = (namesOf path).map .normal := by
    refine List.map_congr_left fun part member => ?_
    simp only [namesOf, List.mem_filter, bne_iff_ne] at member
    have other : part ≠ ".." := fun same => straight.noParent (same ▸ member.1.1)
    simp [Component.ofPart, other, member.2]
  rw [components, ← namesOf, names, straight.relative]
  simp [point, isDotted]

/-! ### Modules by names -/

/-- The module of a file by the names that lead to it. -/
def moduleOf (names : List String) : List String :=
  match names.getLast? with
  | none => []
  | some last =>
    let front := names.dropLast
    let name := stem last
    if name == "mod" || (front.isEmpty && (name == "lib" || name == "main")) then front
    else front ++ [name]

/-- The path begins with the root as it is spelled. -/
def BeginsWith (path root : String) : Prop :=
  namesOf root <+: namesOf path ∧
    (isDotted path = isDotted root ∨ namesOf root = [] ∧ isDotted root = false)

instance (path root : String) : Decidable (BeginsWith path root) :=
  inferInstanceAs (Decidable (_ ∧ _))

theorem prefix_components_iff {path root : String} (straight : IsStraight path)
    (rooted : IsStraight root) :
    components root <+: components path ↔ BeginsWith path root := by
  have inj : Function.Injective Component.normal := fun _ _ same => Component.normal.inj same
  rw [components_straight straight, components_straight rooted, BeginsWith]
  cases isDotted path <;> cases isDotted root
  · simp [point, List.prefix_map_iff_of_injective inj]
  · cases namesOf path <;> simp [point]
  · cases namesOf root <;> simp [point]
  · simp [point, List.cons_prefix_cons, List.prefix_map_iff_of_injective inj]

/-- The name that a component is, if it is one. -/
def Component.name? : Component → Option String
  | .normal name => some name
  | _ => none

theorem filterMap_name? (dotted : Bool) (names : List String) :
    (point dotted ++ names.map Component.normal).filterMap Component.name? = names := by
  have held : (names.map Component.normal).filterMap Component.name? = names := by
    simp [List.filterMap_map, Function.comp_def, Component.name?]
  cases dotted
  · exact held
  · exact held

/-- The names of a file that its module is made of: those behind the root, or else its own. -/
def namesBelow (path root : String) : List String :=
  if BeginsWith path root then (namesOf path).drop (namesOf root).length
  else (namesOf path).getLast?.toList

theorem fileName?_straight {path : String} (straight : IsStraight path) :
    fileName? path = (namesOf path).getLast? := by
  rw [fileName?, components_straight straight]
  cases last : (namesOf path).getLast? with
  | none =>
    rw [List.getLast?_eq_none_iff] at last
    cases isDotted path <;> simp [point, last]
  | some name => simp [List.getLast?_append, last]

theorem modulePath_eq_moduleOf {path root : String} (straight : IsStraight path)
    (rooted : IsStraight root) :
    modulePath path (some root) = moduleOf (namesBelow path root) := by
  have whole : modulePath path (some root) =
      moduleOf (((stripRoot? path root).getD
        (((fileName? path).map fun name => [Component.normal name]).getD [])).filterMap
          Component.name?) := by
    rw [modulePath, Option.bind_some]
    cases stripRoot? path root <;> rfl
  rw [whole, stripRoot?, namesBelow]
  simp only [List.isPrefixOf_iff_prefix, prefix_components_iff straight rooted]
  split
  · rename_i begins
    rw [Option.getD_some, components_straight straight, components_straight rooted]
    congr 1
    obtain ⟨-, same | ⟨none, plain⟩⟩ := begins
    · rw [same, List.length_append, List.drop_length_add_append, List.length_map, ← List.map_drop]
      exact filterMap_name? false _
    · rw [none, plain]
      exact filterMap_name? _ _
  · rw [Option.getD_none, fileName?_straight straight]
    cases (namesOf path).getLast? <;> rfl

/-! ### A point in front -/

theorem parts_dotted (path : String) : parts ("./" ++ path) = "." :: parts path := by
  have whole : "./" ++ path = "." ++ "/" ++ path := rfl
  rw [whole, parts_append, parts_of_noSlash (by decide), List.singleton_append]

theorem IsStraight.dotted {path : String} (straight : IsStraight path) :
    IsStraight ("./" ++ path) where
  relative := by simp [Bool.eq_false_iff]
  noParent := by simp [parts_dotted, straight.noParent]

@[simp] theorem namesOf_dotted (path : String) : namesOf ("./" ++ path) = namesOf path := by
  simp [namesOf, parts_dotted]

@[simp] theorem isDotted_dotted (path : String) : isDotted ("./" ++ path) = true := by
  simp [isDotted, parts_dotted]

/-! ### Files that keep their module -/

/-- Whether the name is one that adds no segment to the crate's own module. -/
def IsCrateFile (name : String) : Prop := stem name = "mod" ∨ stem name = "lib" ∨ stem name = "main"

theorem moduleOf_concat (front : List String) (last : String) :
    moduleOf (front ++ [last]) =
      if stem last = "mod" ∨ front = [] ∧ (stem last = "lib" ∨ stem last = "main") then front
      else front ++ [stem last] := by
  simp [moduleOf]

theorem moduleOf_single_eq_nil_iff {name : String} : moduleOf [name] = [] ↔ IsCrateFile name := by
  rw [← List.nil_append [name], moduleOf_concat, IsCrateFile]
  by_cases named : stem name = "mod" ∨ stem name = "lib" ∨ stem name = "main" <;> simp [named]

/-- The directories in front of a name always show in its module. -/
theorem moduleOf_eq_single_iff {front : List String} {last : String} :
    moduleOf (front ++ [last]) = moduleOf [last] ↔ front = [] := by
  constructor
  · rw [moduleOf_concat, ← List.nil_append [last], moduleOf_concat]
    intro same
    by_cases directory : stem last = "mod"
    · simpa [directory] using same
    · by_cases crate : front = []
      · exact crate
      · by_cases named : stem last = "lib" ∨ stem last = "main" <;>
          simp [directory, crate, named] at same
  · rintro rfl
    rfl

/-- A file right in the root, and the root itself if it is named for the crate, have the modules of
their names alone. -/
inductive IsShallow (path root : String) : Prop
  | child (name : String) (ends : namesOf path = namesOf root ++ [name])
  | root (same : namesOf path = namesOf root)
      (named : ∀ name ∈ (namesOf path).getLast?, IsCrateFile name)

theorem moduleOf_last_iff {path root : String} (below : namesOf root <+: namesOf path) :
    moduleOf ((namesOf path).drop (namesOf root).length) =
        moduleOf (namesOf path).getLast?.toList ↔ IsShallow path root := by
  obtain ⟨rest, split⟩ := below
  rw [← split, List.drop_left]
  rcases List.eq_nil_or_concat rest with rfl | ⟨front, last, rfl⟩
  · rw [List.append_nil] at split ⊢
    constructor
    · intro bare
      refine .root split.symm fun name last => ?_
      rw [split, Option.mem_def.mp last] at bare
      exact moduleOf_single_eq_nil_iff.mp bare.symm
    · rintro (⟨name, ends⟩ | ⟨-, named⟩)
      · simp [← split] at ends
      · rw [split]
        cases last : (namesOf path).getLast? with
        | none => rfl
        | some name => exact (moduleOf_single_eq_nil_iff.mpr (named name last)).symm
  · rw [List.concat_eq_append] at split ⊢
    rw [← List.append_assoc, List.getLast?_concat, Option.toList_some, moduleOf_eq_single_iff]
    constructor
    · rintro rfl
      exact .child last split.symm
    · rintro (⟨name, ends⟩ | ⟨same, -⟩)
      · rw [← split, List.append_cancel_left_eq] at ends
        have alone : front ++ [last] = [] ++ [name] := ends
        exact (List.append_inj' alone rfl).1
      · simp [← split] at same

/-- The module of a file is that of its names below the root if the path begins with the root as it
is spelled, and that of its name alone if not. A point in front of either makes no difference
exactly if the file is not below the root, or the points that are there already make the path begin
with the root in every spelling, or its name alone says as much. -/
theorem modulePath_spellings {path root : String} (straight : IsStraight path)
    (rooted : IsStraight root) :
    modulePath path (some root) = moduleOf (namesBelow path root) ∧
    ((∀ path' ∈ [path, "./" ++ path], ∀ root' ∈ [root, "./" ++ root],
        modulePath path' (some root') = modulePath path (some root)) ↔
      ¬ namesOf root <+: namesOf path ∨
        isDotted path = true ∧ (isDotted root = true ∨ namesOf root = []) ∨
        IsShallow path root) := by
  refine ⟨modulePath_eq_moduleOf straight rooted, ?_⟩
  simp only [List.forall_mem_cons, List.not_mem_nil, false_imp_iff, implies_true, and_true,
    modulePath_eq_moduleOf straight rooted, modulePath_eq_moduleOf straight rooted.dotted,
    modulePath_eq_moduleOf straight.dotted rooted,
    modulePath_eq_moduleOf straight.dotted rooted.dotted]
  simp only [namesBelow, BeginsWith, namesOf_dotted, isDotted_dotted]
  by_cases below : namesOf root <+: namesOf path
  · rw [← moduleOf_last_iff below]
    by_cases dotted : isDotted path = true <;> by_cases pointed : isDotted root = true <;>
      by_cases bare : namesOf root = [] <;> simp [below, bare, dotted, pointed, eq_comm]
  · simp [below]

theorem modulePath_spellings_dotted :
    modulePath "./src/api/github.rs" (some "./src") = ["api", "github"] ∧
      modulePath "./src/api/github.rs" (some "././src") = ["api", "github"] ∧
      modulePath "././src/api/github.rs" (some "./src") = ["api", "github"] ∧
      modulePath "././src/api/github.rs" (some "././src") = ["api", "github"] := by
  have straight : IsStraight "./src/api/github.rs" := ⟨by simp, by decide⟩
  have rooted : IsStraight "./src" := ⟨by simp, by decide⟩
  obtain ⟨module, alike⟩ := modulePath_spellings straight rooted
  have named : modulePath "./src/api/github.rs" (some "./src") = ["api", "github"] :=
    module.trans (by decide)
  have same := alike.mpr (.inr (.inl ⟨by decide, .inl (by decide)⟩))
  simp only [List.forall_mem_cons, List.not_mem_nil, false_imp_iff, implies_true, and_true,
    named] at same
  exact ⟨named, same.1.2, same.2⟩

/-- A point in front of the path alone takes the file out of its directory, and every `mod.rs` below
the root is then the crate itself. -/
theorem modulePath_point_lost :
    modulePath "src/api/github.rs" (some "src") = ["api", "github"] ∧
      modulePath "./src/api/github.rs" (some "src") = ["github"] ∧
      modulePath "./src/a/mod.rs" (some "src") = [] ∧
      modulePath "./src/b/mod.rs" (some "src") = [] := by
  have module {path : String} {names : List String} (straight : IsStraight path)
      (named : moduleOf (namesBelow path "src") = names) :
      modulePath path (some "src") = names :=
    (modulePath_eq_moduleOf straight ⟨by simp, by decide⟩).trans named
  exact ⟨module ⟨by simp, by decide⟩ (by decide), module ⟨by simp, by decide⟩ (by decide),
    module ⟨by simp, by decide⟩ (by decide), module ⟨by simp, by decide⟩ (by decide)⟩

end Endpoint.Disk
