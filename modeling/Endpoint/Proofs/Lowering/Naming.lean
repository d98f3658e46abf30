import Endpoint.Lowering.Method
import Mathlib.Data.List.Basic

/-!
What a path is known by: where it leads, by its names alone, and its generic arguments.
-/

namespace Endpoint

open Source (Argument Ident Path Segment Ty)

theorem KnownType.ofPath?_eq_some_iff {path : Names} {type : KnownType} :
    ofPath? path = some type ↔ ∃ home ∈ type.modules, path = home ++ [type.name] := by
  constructor
  · intro found
    unfold ofPath? at found
    split at found
    · rename_i last ends
      have known := List.find?_some found
      simp only [Bool.and_eq_true, beq_iff_eq, List.contains_iff_mem] at known
      refine ⟨_, known.2, ?_⟩
      rw [known.1]
      exact (List.dropLast_append_getLast? _ ends).symm
    · cases found
  · rintro ⟨home, inside, rfl⟩
    simp only [ofPath?, List.getLast?_concat, List.dropLast_concat]
    cases type <;> simp_all [all, name]

/-- The path stands for the known type: it resolves to its name in a module that exports it. -/
def Imports.StandsForType (imports : Imports) (type : KnownType) (path : Path) : Prop :=
  ∃ home ∈ type.modules, imports.resolve path = some (home ++ [type.name])

theorem Imports.knownType?_eq_some_iff {imports : Imports} {type : KnownType} {path : Path} :
    imports.knownType? path = some type ↔ imports.StandsForType type path := by
  rw [knownType?, Option.bind_eq_some_iff]
  simp only [KnownType.ofPath?_eq_some_iff]
  constructor
  · rintro ⟨_, found, home, inside, rfl⟩
    exact ⟨home, inside, found⟩
  · rintro ⟨home, inside, found⟩
    exact ⟨_, found, home, inside, rfl⟩

namespace Lowering

/-- How a path is written, but for its generic arguments. -/
def spelling (path : Path) : Bool × Names := (path.leading, path.names)

theorem knownType?_congr {path path' : Path} (same : spelling path = spelling path')
    (imports : Imports) : imports.knownType? path = imports.knownType? path' := by
  obtain ⟨leading, names⟩ := Prod.mk.inj same
  simp only [Imports.knownType?, Imports.resolve, leading, names]

theorem standsForType_congr {path path' : Path} (same : spelling path = spelling path')
    {imports : Imports} {type : KnownType} (stands : imports.StandsForType type path) :
    imports.StandsForType type path' := by
  rw [← Imports.knownType?_eq_some_iff] at stands ⊢
  rw [← knownType?_congr same, stands]

theorem typeCandidates_congr {path path' : Path} (same : spelling path = spelling path')
    (imports : Imports) : imports.typeCandidates path = imports.typeCandidates path' := by
  obtain ⟨leading, names⟩ := Prod.mk.inj same
  simp only [Imports.typeCandidates, Imports.resolve, leading, names]

/-- A path whose last segment has the generic arguments. -/
structure Applied where
  leading : Bool
  before : List Segment
  name : Ident
  turbofish : Bool
  comma : Bool

namespace Applied

/-- The names of the path. -/
def names (applied : Applied) : Names :=
  applied.before.map (·.name.written) ++ [applied.name.written]

/-- The path with the generic arguments. -/
def path (applied : Applied) (held : List Argument) : Path :=
  ⟨applied.leading, applied.before ++ [⟨applied.name, .angle applied.turbofish held applied.comma⟩]⟩

variable (applied : Applied) (held : List Argument)

@[simp]
theorem names_path : (applied.path held).names = applied.names := by
  simp [path, names, Path.names]

theorem spelling_path (held' : List Argument) :
    spelling (applied.path held) = spelling (applied.path held') := by
  simp [spelling, path, Path.names]

@[simp]
theorem getLast?_path : (applied.path held).segments.getLast? =
    some ⟨applied.name, .angle applied.turbofish held applied.comma⟩ := by
  simp [path]

end Applied

theorem exists_applied {path : Path} {turbofish comma : Bool} {held : List Argument}
    (last : path.segments.getLast?.map Segment.arguments = some (.angle turbofish held comma)) :
    ∃ applied : Applied, path = applied.path held := by
  obtain ⟨⟨name, arguments⟩, ends, shape⟩ := Option.map_eq_some_iff.mp last
  cases shape
  obtain ⟨before, split⟩ := List.getLast?_eq_some_iff.mp ends
  cases path
  exact ⟨⟨_, before, name, turbofish, comma⟩, congrArg _ split⟩

/-- A type that is a name, with type arguments. -/
def namedTy (name : String) (arguments : List Ty) : Ty :=
  .path ⟨false, [⟨.plain name,
    if arguments.isEmpty then .none else .angle false (arguments.map .type) false⟩]⟩

end Lowering

end Endpoint
