import Endpoint.Proofs.Imports
import Endpoint.Proofs.Scan.Declarations
import Endpoint.Proofs.Symbols
import Mathlib.Data.List.Forall2

/-!
Units that differ only in the methods of one trait: what is found in them differs only in that
trait.
-/

namespace Endpoint

open Source (Associated Item Trait UseTree)

/-- Whether a member of a trait is something else than a method. -/
def Source.Associated.isOther : Associated → Bool
  | .method _ => false
  | _ => true

/-- Traits that differ at most in the methods between their braces. -/
structure Source.Trait.SameButMethods (first second : Trait) : Prop where
  outside : second = { first with items := second.items }
  others : first.items.filter Associated.isOther = second.items.filter Associated.isOther

/-- Items of a module that are the same but for one trait, which stands in the module `home`. -/
inductive Varied (first second : Trait) (home : Names) : Names → List Item → List Item → Prop
  | here (rest : List Item) :
      Varied first second home home (.trait first :: rest) (.trait second :: rest)
  | inside (attributes : Source.Attributes) (visibility : Source.Visibility) (isUnsafe : Bool)
      (name : Source.Ident) (rest : List Item)
      (varied : Varied first second home (module ++ [name.written]) items others) :
      Varied first second home module
        (.module attributes visibility isUnsafe name (some items) :: rest)
        (.module attributes visibility isUnsafe name (some others) :: rest)
  | behind (item : Item) (varied : Varied first second home module items others) :
      Varied first second home module (item :: items) (item :: others)

/-- Units that are the same but for one trait in one of them. -/
structure UnitsVaried (first second : Trait) (home : Names) (units others : List SourceUnit) :
    Prop where
  exists_unit : ∃ before unit items behind, units = before ++ unit :: behind ∧
    others = before ++ { unit with file := { unit.file with items := items } } :: behind ∧
    Varied first second home unit.module unit.file.items items

/-! ### Imports and structs -/

namespace Imports

/-- Traits have no part in the imports of a module. -/
theorem ofItems_of_varied {first second : Trait} {home module : Names} {items others : List Item}
    (varied : Varied first second home module items others) (path : Names) :
    ofItems path items = ofItems path others := by
  suffices general : ∀ imports : Imports, items.foldl addItem imports = others.foldl addItem imports
    from general _
  induction varied with
  | here _ => exact fun _ => rfl
  | inside _ _ _ _ _ _ _ => exact fun _ => rfl
  | behind item _ ih => exact fun imports => ih (imports.addItem item)

end Imports

namespace Symbols

theorem structs_of_varied {first second : Trait} {home module : Names} {items others : List Item}
    (varied : Varied first second home module items others) :
    structs module items = structs module others := by
  induction varied with
  | here _ => rfl
  | inside _ _ _ _ _ _ ih => simp only [structs, itemStructs, ih]
  | behind _ _ ih => simp only [structs, ih]

/-- Methods have no part in the structs of a run. -/
theorem ofUnits_of_varied {first second : Trait} {home : Names} {units others : List SourceUnit}
    (varied : UnitsVaried first second home units others) : ofUnits units = ofUnits others := by
  obtain ⟨before, unit, items, behind, rfl, rfl, inner⟩ := varied.exists_unit
  simp only [ofUnits_eq, List.reverse_append, List.reverse_cons, List.flatMap_append,
    List.flatMap_singleton, unitStructs, structs_of_varied inner]

end Symbols

/-! ### Declarations -/

namespace Scan

variable {first second : Trait} {home : Names}

/-- The same declaration found twice, or the trait with its methods changed. -/
inductive Found.Varied (first second : Trait) (home : Names) : Found → Found → Prop
  | same (found : Found) : Found.Varied first second home found found
  | changed (scope : Imports) (module : scope.module = home) :
      Found.Varied first second home ⟨scope, .trait first⟩ ⟨scope, .trait second⟩

theorem forall₂_same (founds : List Found) :
    List.Forall₂ (Found.Varied first second home) founds founds :=
  List.forall₂_same.mpr fun found _ => .same found

theorem declarations_varied {module : Names} {items others : List Item}
    (varied : Endpoint.Varied first second home module items others) (imports : Imports)
    (own : imports.module = module) :
    List.Forall₂ (Found.Varied first second home) (declarations imports items)
      (declarations imports others) := by
  induction varied generalizing imports with
  | here rest => exact .cons (.changed imports own) (forall₂_same _)
  | inside _ _ _ name rest varied ih =>
    simp only [declarations, itemDeclarations, own]
    refine List.rel_append ?_ (forall₂_same _)
    rw [← Imports.ofItems_of_varied varied]
    exact ih _ (Imports.ofItems_module ..)
  | behind item _ ih =>
    simp only [declarations]
    exact List.rel_append (forall₂_same _) (ih imports own)

theorem unitDeclarations_varied {units others : List SourceUnit}
    (varied : UnitsVaried first second home units others) :
    List.Forall₂ (Found.Varied first second home) (units.flatMap unitDeclarations)
      (others.flatMap unitDeclarations) := by
  obtain ⟨before, unit, items, behind, rfl, rfl, inner⟩ := varied.exists_unit
  simp only [List.flatMap_append, List.flatMap_cons]
  refine List.rel_append (forall₂_same _) (List.rel_append ?_ (forall₂_same _))
  simp only [unitDeclarations, ← Imports.ofItems_of_varied inner]
  exact declarations_varied inner _ (Imports.ofItems_module ..)

/-- Methods have no part in how a declaration is found. -/
theorem Found.Varied.key_eq (traits : first.SameButMethods second) {found other : Found}
    (varied : Found.Varied first second home found other) :
    found.key = other.key ∧ found.hits = other.hits := by
  cases varied with
  | same => exact ⟨rfl, rfl⟩
  | changed scope module =>
    rw [traits.outside]
    exact ⟨rfl, rfl⟩

theorem Found.Varied.isRepeated_eq (traits : first.SameButMethods second) {found other : Found}
    (varied : Found.Varied first second home found other) :
    found.isRepeated = other.isRepeated := by
  obtain ⟨key, hits⟩ := varied.key_eq traits
  have kind : found.declaration.kind = other.declaration.kind := congrArg Prod.fst key
  rw [Found.isRepeated, Found.isRepeated, hits, kind]

theorem firsts_varied (traits : first.SameButMethods second) {founds others : List Found}
    (varied : List.Forall₂ (Found.Varied first second home) founds others)
    (seen : List (Kind × Identity)) :
    List.Forall₂ (Found.Varied first second home) (firsts seen founds) (firsts seen others) := by
  induction varied generalizing seen with
  | nil => exact .nil
  | @cons found other _ _ here _ ih =>
    obtain ⟨key, hits⟩ := here.key_eq traits
    have asked : found.isMarked = other.isMarked := by simp only [Found.isMarked, hits]
    by_cases new : found.isMarked = true ∧ found.key ∉ seen
    · rw [firsts_of_new new.1 new.2, firsts_of_new (asked ▸ new.1) (key ▸ new.2), key]
      exact .cons here (ih _)
    · have passed : found.isMarked = true → found.key ∈ seen := by simpa using new
      rw [firsts_of_passed passed, firsts_of_passed (asked ▸ key ▸ passed)]
      exact ih seen

/-- A trait of the module as a candidate. -/
def traitCandidate (home : Names) (scope : Imports) (name : String) (item : Trait) : Candidate :=
  ⟨⟨home, name⟩, .client, scope, .trait item⟩

/-- The same candidate, or the trait with its methods changed. -/
inductive CandidateVaried (first second : Trait) (home : Names) : Candidate → Candidate → Prop
  | same (candidate : Candidate) : CandidateVaried first second home candidate candidate
  | changed (scope : Imports) :
      CandidateVaried first second home (traitCandidate home scope first.name.written first)
        (traitCandidate home scope first.name.written second)

theorem CandidateVaried.same_owner {candidate other : Candidate}
    (varied : CandidateVaried first second home candidate other) :
    candidate.identity = other.identity ∧ candidate.kind = other.kind := by
  cases varied <;> exact ⟨rfl, rfl⟩

theorem candidates_varied (traits : first.SameButMethods second) {units others : List SourceUnit}
    (varied : UnitsVaried first second home units others) :
    List.Forall₂ (CandidateVaried first second home) (ofUnits units).candidates
      (ofUnits others).candidates := by
  rw [ofUnits_candidates, ofUnits_candidates]
  refine List.rel_filterMap ?_ (firsts_varied traits (unitDeclarations_varied varied) [])
  intro found other here
  cases here with
  | same =>
    cases found.candidate? with
    | none => exact .none
    | some candidate => exact .some (.same candidate)
  | changed scope module =>
    have varied : Found.Varied first second home _ _ := .changed scope module
    rw [Found.candidate?, Found.candidate?, ← varied.isRepeated_eq traits]
    split
    · exact .none
    · have identity : (Found.mk scope (.trait second)).identity =
          (Found.mk scope (.trait first)).identity := congrArg Prod.snd (varied.key_eq traits).1.symm
      rw [identity]
      subst module
      exact .some (.changed scope)

/-- Scanning has the same diagnostics. -/
theorem diagnostics_of_varied (traits : first.SameButMethods second)
    {units others : List SourceUnit} (varied : UnitsVaried first second home units others) :
    (ofUnits units).diagnostics = (ofUnits others).diagnostics := by
  have problems : ∀ founds others : List Found,
      List.Forall₂ (Found.Varied first second home) founds others →
        founds.filterMap Found.problem? = others.filterMap Found.problem? := by
    intro founds others related
    induction related with
    | nil => rfl
    | @cons found other _ _ here _ ih =>
      have identity : found.identity = other.identity := congrArg Prod.snd (here.key_eq traits).1
      have same : found.problem? = other.problem? := by
        rw [Found.problem?, Found.problem?, here.isRepeated_eq traits, identity]
      rw [List.filterMap_cons, List.filterMap_cons, same, ih]
  rw [ofUnits_diagnostics, ofUnits_diagnostics]
  exact problems _ _ (firsts_varied traits (unitDeclarations_varied varied) [])

end Scan

end Endpoint
