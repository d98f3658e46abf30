import Endpoint.Proofs.Run.Processing
import Endpoint.Proofs.Scan
import Endpoint.Proofs.Scan.Declarations
import Endpoint.Proofs.Sorting
import Endpoint.Proofs.Symbols
import Endpoint.Run
import Mathlib.Data.List.Lex
import Mathlib.Data.String.Basic

/-!
The order in which units come does not matter for a run, as long as no two of them declare the
same: known structs count only through look-ups, and the order in which declarations get their
hints is total.
-/

namespace Endpoint

/-! ### Known structs by look-ups -/

section

open Source (Associated Input Method Trait Ty)

variable {first second : Symbols}

namespace Lowering

theorem compositeFields?_congr (same : first.get? = second.get?) (imports : Imports) (ty : Ty) :
    compositeFields? imports first ty = compositeFields? imports second ty := by
  simp only [compositeFields?, structFields?, Symbols.find?, same]

theorem bindingsOf_congr (same : first.get? = second.get?) (imports : Imports)
    (placeholders : List String) (body : Option String) (inputs : List Input) :
    bindingsOf imports first placeholders body inputs =
      bindingsOf imports second placeholders body inputs := by
  induction inputs generalizing body with
  | nil => rfl
  | cons input rest ih =>
    cases input with
    | receiver _ => exact ih body
    | typed attributes pattern ty =>
      simp only [bindingsOf, roleOf, queryRole, compositeFields?_congr same, ih]

theorem method_congr (same : first.get? = second.get?) (imports : Imports) (declared : Method) :
    method imports first declared = method imports second declared := by
  simp only [method, bindingsOf_congr same]

theorem member?_congr (same : first.get? = second.get?) (imports : Imports) (item : Associated) :
    member? imports first item = member? imports second item := by
  cases item <;> simp only [member?, method_congr same]

theorem client_congr (same : first.get? = second.get?) (candidate : Candidate) (item : Trait)
    (config : Config) : client candidate item first config = client candidate item second config := by
  have members : member? candidate.imports first = member? candidate.imports second :=
    funext (member?_congr same candidate.imports)
  simp only [client, members]

end Lowering

/-- Tables that give the same structs give the same results for every declaration. -/
theorem Run.process_congr (same : first.get? = second.get?) (config : Config)
    (job : String × Candidate) : process config first job = process config second job := by
  simp only [process, processClient, Lowering.client_congr same]

end

/-! ### The order of hints -/

namespace Identity

theorem precedesList_iff (as bs : List String) : precedesList as bs = true ↔ as < bs := by
  induction as generalizing bs with
  | nil => cases bs <;> simp [precedesList]
  | cons a as ih => cases bs <;> simp [precedesList, ih, List.cons_lt_cons_iff]

theorem precedes_iff (a b : Identity) :
    a.precedes b = true ↔ a.module < b.module ∨ a.module = b.module ∧ a.name < b.name := by
  simp [precedes, precedesList_iff]

theorem precedes_irrefl (a : Identity) : ¬ a.precedes a = true := by
  simp [precedes_iff]

theorem precedes_trans {a b c : Identity} (first : a.precedes b = true)
    (second : b.precedes c = true) : a.precedes c = true := by
  rw [precedes_iff] at first second ⊢
  rcases first with before | ⟨same, before⟩ <;> rcases second with behind | ⟨equal, behind⟩
  · exact .inl (before.trans behind)
  · exact .inl (equal ▸ before)
  · exact .inl (same ▸ behind)
  · exact .inr ⟨same.trans equal, before.trans behind⟩

theorem precedes_total (a b : Identity) :
    a.precedes b = true ∨ a = b ∨ b.precedes a = true := by
  simp only [precedes_iff]
  rcases lt_trichotomy a.module b.module with less | same | more
  · exact .inl (.inl less)
  · rcases lt_trichotomy a.name b.name with small | equal | large
    · exact .inl (.inr ⟨same, small⟩)
    · cases a
      cases b
      exact .inr (.inl (congrArg₂ _ same equal))
    · exact .inr (.inr (.inr ⟨same.symm, large⟩))
  · exact .inr (.inr (.inl more))

end Identity

namespace Run

theorem sortsBefore_iff (a b : Candidate) :
    sortsBefore a b = true ↔ a.identity.precedes b.identity = true ∨
      a.identity = b.identity ∧ (a.kind = .client ∨ b.kind = .serializer) := by
  simp [sortsBefore]

theorem sortsBefore_total (a b : Candidate) : (sortsBefore a b || sortsBefore b a) = true := by
  rw [Bool.or_eq_true, sortsBefore_iff, sortsBefore_iff]
  rcases a.identity.precedes_total b.identity with less | same | more
  · exact .inl (.inl less)
  · cases own : a.kind with
    | client => exact .inl (.inr ⟨same, .inl rfl⟩)
    | serializer => exact .inr (.inr ⟨same.symm, .inr rfl⟩)
  · exact .inr (.inl more)

theorem sortsBefore_trans (a b c : Candidate) (first : sortsBefore a b = true)
    (second : sortsBefore b c = true) : sortsBefore a c = true := by
  rw [sortsBefore_iff] at first second ⊢
  rcases first with before | ⟨same, kinds⟩ <;> rcases second with behind | ⟨equal, others⟩
  · exact .inl (Identity.precedes_trans before behind)
  · exact .inl (equal ▸ before)
  · exact .inl (same ▸ behind)
  · refine .inr ⟨same.trans equal, ?_⟩
    rcases kinds with client | serializer
    · exact .inl client
    · rcases others with client | last
      · rw [serializer] at client
        cases client
      · exact .inr last

/-- Declarations that come before each other are of one kind and identity. -/
theorem key_eq_of_sortsBefore {a b : Candidate} (first : sortsBefore a b = true)
    (second : sortsBefore b a = true) : Scan.key a = Scan.key b := by
  rw [sortsBefore_iff] at first second
  rcases first with before | ⟨same, kinds⟩ <;> rcases second with behind | ⟨equal, others⟩
  · exact absurd (Identity.precedes_trans before behind) (Identity.precedes_irrefl _)
  · exact absurd (equal ▸ before) (Identity.precedes_irrefl _)
  · exact absurd (same ▸ behind) (Identity.precedes_irrefl _)
  · refine Prod.ext ?_ same
    cases own : a.kind <;> cases other : b.kind <;> simp_all [Scan.key]

/-- Distinct declarations are sorted in one way. -/
theorem sorted_eq_of_perm {first second : List Candidate} (same : first.Perm second)
    (keys : (first.map Scan.key).Nodup) :
    first.mergeSort sortsBefore = second.mergeSort sortsBefore :=
  Sorting.mergeSort_eq_of_perm sortsBefore_trans sortsBefore_total same
    fun _ one _ two before behind =>
      List.inj_on_of_nodup_map keys one two (key_eq_of_sortsBefore before behind)

end Run

/-! ### Units that are apart -/

/-- The paths of the structs with named fields that a unit declares. -/
def SourceUnit.structPaths (unit : SourceUnit) : List Names :=
  (Symbols.unitStructs unit).map Prod.fst

/-- The kinds and identities of the marked declarations of a unit. -/
def SourceUnit.markedKeys (unit : SourceUnit) : List (Kind × Identity) :=
  ((Scan.unitDeclarations unit).filter Scan.Found.isMarked).map Scan.Found.key

/-- Units that do not declare a struct with named fields at the same path or a marked trait or enum
of the same kind and identity. -/
structure SourceUnit.Apart (first second : SourceUnit) : Prop where
  structs : ∀ path ∈ first.structPaths, path ∉ second.structPaths
  marked : ∀ key ∈ first.markedKeys, key ∉ second.markedKeys

namespace Scan

/-- The marked declarations of units that are apart are those of each unit by itself. -/
theorem firsts_units {units : List SourceUnit} (apart : units.Pairwise SourceUnit.Apart)
    (seen : List (Kind × Identity))
    (new : ∀ unit ∈ units, ∀ key ∈ unit.markedKeys, key ∉ seen) :
    firsts seen (units.flatMap unitDeclarations) =
      units.flatMap fun unit => firsts [] (unitDeclarations unit) := by
  induction units generalizing seen with
  | nil => rfl
  | cons unit rest ih =>
    obtain ⟨ahead, behind⟩ := List.pairwise_cons.mp apart
    have fresh : firsts seen (unitDeclarations unit) = firsts [] (unitDeclarations unit) := by
      refine firsts_congr fun found member asked => ?_
      have key : found.key ∈ unit.markedKeys :=
        List.mem_map.mpr ⟨found, List.mem_filter.mpr ⟨member, asked⟩, rfl⟩
      simp [new unit (by simp) _ key]
    rw [List.flatMap_cons, List.flatMap_cons, firsts_append, fresh]
    refine congrArg _ (ih behind _ ?_)
    intro other member key held old
    rcases List.mem_append.mp old with earlier | here
    · exact new other (List.mem_cons_of_mem _ member) key held earlier
    · obtain ⟨found, first, rfl⟩ := List.mem_map.mp here
      obtain ⟨declared, asked, _⟩ := mem_firsts first
      have own : found.key ∈ unit.markedKeys :=
        List.mem_map.mpr ⟨found, List.mem_filter.mpr ⟨declared, asked⟩, rfl⟩
      exact (ahead other member).marked _ own held

theorem marked_perm {units others : List SourceUnit} (same : units.Perm others)
    (apart : units.Pairwise SourceUnit.Apart) : (marked units).Perm (marked others) := by
  have symmetric : ∀ {a b : SourceUnit}, a.Apart b → b.Apart a := fun held =>
    ⟨fun path one two => held.structs path two one, fun key one two => held.marked key two one⟩
  rw [marked, marked, firsts_units apart [] (by simp),
    firsts_units (same.pairwise apart symmetric) [] (by simp)]
  exact same.flatMap_right _

end Scan

namespace Run

/-- Runs that end alike: with the same failure, or with reports that differ at most in the order of
the diagnostics that come from scanning and stand in front. -/
inductive SameOutcome (scanned others : List Diagnostic) :
    Except Failure Report → Except Failure Report → Prop
  | failed (failure : Failure) : SameOutcome scanned others (.error failure) (.error failure)
  | done (units : List GeneratedUnit) (behind : List Diagnostic) (cancelled : Bool)
      (permuted : scanned.Perm others) :
      SameOutcome scanned others (.ok ⟨units, scanned ++ behind, cancelled⟩)
        (.ok ⟨units, others ++ behind, cancelled⟩)

/-- A run does the same with units in another order, and reserves the same hints. -/
theorem generate_perm {units others : List SourceUnit} (same : units.Perm others)
    (apart : units.Pairwise SourceUnit.Apart) (config : Config) (cancelled : Bool)
    (hints : Hints) :
    SameOutcome (Scan.ofUnits units).diagnostics (Scan.ofUnits others).diagnostics
        (generate config cancelled hints units).1 (generate config cancelled hints others).1 ∧
      (generate config cancelled hints units).2 = (generate config cancelled hints others).2 := by
  have marked := Scan.marked_perm same apart
  have scanned : (Scan.ofUnits units).diagnostics.Perm (Scan.ofUnits others).diagnostics := by
    rw [Scan.ofUnits_diagnostics, Scan.ofUnits_diagnostics]
    exact marked.filterMap _
  have candidates : (Scan.ofUnits units).candidates.mergeSort sortsBefore =
      (Scan.ofUnits others).candidates.mergeSort sortsBefore := by
    apply sorted_eq_of_perm _ (Scan.ofUnits_distinct units).keys
    rw [Scan.ofUnits_candidates, Scan.ofUnits_candidates]
    exact marked.filterMap _
  have symbols : (Symbols.ofUnits units).get? = (Symbols.ofUnits others).get? :=
    funext (Symbols.get?_ofUnits_perm same (apart.imp SourceUnit.Apart.structs))
  have processed : process config (Symbols.ofUnits units) =
      process config (Symbols.ofUnits others) := funext (process_congr symbols config)
  simp only [generate, candidates, processed]
  cases cancelled with
  | true =>
    have outcome := fun started => SameOutcome.done [] [] started scanned
    simp only [List.append_nil] at outcome
    exact ⟨outcome _, rfl⟩
  | false =>
    refine ⟨?_, rfl⟩
    simp only [Bool.false_eq_true, if_false]
    cases settle (((reserveAll hints ((Scan.ofUnits others).candidates.mergeSort sortsBefore)).1).map
        (process config (Symbols.ofUnits others))) with
    | error failure => exact .failed failure
    | ok found =>
      simp only [bind, Except.bind, pure, Except.pure, collect_units, collect_diagnostics]
      exact .done _ _ _ scanned

/-- A file of the module with the trait `Api`, which carries `#[restgen::api_client]` as often as
given. -/
def markedUnit (module : String) (markers : Nat) : SourceUnit where
  path := module ++ ".rs"
  module := [module]
  file := ⟨[], [.trait {
    attributes := List.replicate markers
      ⟨false, ⟨false, [⟨.plain "restgen", .none⟩, ⟨.plain "api_client", .none⟩]⟩, .none⟩
    visibility := .inherited
    isUnsafe := false
    isAuto := false
    name := .plain "Api"
    generics := ⟨[], false, none⟩
    bounds := []
    plus := false
    items := [] }]⟩

theorem generate_perm_repeated :
    [markedUnit "a" 2, markedUnit "b" 2].Perm [markedUnit "b" 2, markedUnit "a" 2] ∧
      (markedUnit "a" 2).Apart (markedUnit "b" 2) ∧
      (Scan.ofUnits [markedUnit "a" 2, markedUnit "b" 2]).diagnostics ≠
        (Scan.ofUnits [markedUnit "b" 2, markedUnit "a" 2]).diagnostics ∧
      SameOutcome (Scan.ofUnits [markedUnit "a" 2, markedUnit "b" 2]).diagnostics
        (Scan.ofUnits [markedUnit "b" 2, markedUnit "a" 2]).diagnostics
        (generate {} false .empty [markedUnit "a" 2, markedUnit "b" 2]).1
        (generate {} false .empty [markedUnit "b" 2, markedUnit "a" 2]).1 := by
  have apart : (markedUnit "a" 2).Apart (markedUnit "b" 2) := ⟨by decide, by decide⟩
  have swapped : [markedUnit "a" 2, markedUnit "b" 2].Perm [markedUnit "b" 2, markedUnit "a" 2] :=
    .swap _ _ _
  exact ⟨swapped, apart, by decide, (generate_perm swapped (by simpa using apart) {} false .empty).1⟩

end Run

end Endpoint
