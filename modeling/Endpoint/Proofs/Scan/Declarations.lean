import Endpoint.Scan
import Mathlib.Data.List.Nodup

/-!
A scan as a choice among all declarations of the units: of the marked ones, the first of each kind
and identity.
-/

namespace Endpoint.Scan

open Source (Item)

/-- A declaration with the imports of the module that it stands in. -/
structure Found where
  imports : Imports
  declaration : Declaration

namespace Found

def identity (found : Found) : Identity := ⟨found.imports.module, found.declaration.name⟩

def key (found : Found) : Kind × Identity := (found.declaration.kind, found.identity)

def hits (found : Found) : Nat :=
  markerCount found.imports found.declaration.attributes found.declaration.kind.marker

/-- Whether code is asked for. -/
def isMarked (found : Found) : Bool := found.hits != 0

/-- Whether it is a trait that carries its marker again. -/
def isRepeated (found : Found) : Bool := found.hits > 1 && found.declaration.kind == .client

def candidate? (found : Found) : Option Candidate :=
  if found.isRepeated then none
  else some ⟨found.identity, found.declaration.kind, found.imports, found.declaration⟩

def problem? (found : Found) : Option Diagnostic :=
  if found.isRepeated then some (.ofDeclaration found.identity .duplicateClientMarker) else none

end Found

mutual

/-- The traits and enums that an item is or holds. -/
def itemDeclarations (imports : Imports) : Item → List Found
  | .trait item => [⟨imports, .trait item⟩]
  | .enum item => [⟨imports, .enum item⟩]
  | .module _ _ _ name (some items) =>
    declarations (Imports.ofItems (imports.module ++ [name.written]) items) items
  | _ => []

/-- The traits and enums among items and in their modules, in order. -/
def declarations (imports : Imports) : List Item → List Found
  | [] => []
  | item :: rest => itemDeclarations imports item ++ declarations imports rest

end

def unitDeclarations (unit : SourceUnit) : List Found :=
  declarations (Imports.ofItems unit.module unit.file.items) unit.file.items

/-- The marked declarations whose keys are new, the first of each key. -/
def firsts : List (Kind × Identity) → List Found → List Found
  | _, [] => []
  | seen, found :: rest =>
    if found.isMarked && !seen.contains found.key then
      found :: firsts (seen ++ [found.key]) rest
    else firsts seen rest

/-- What a scan comes to when it takes note of a declaration. -/
def note (scan : Scan) (found : Found) : Scan := add found.imports found.declaration scan

/-! ### Scans as folds over declarations -/

mutual

theorem addItem_eq (imports : Imports) (scan : Scan) :
    ∀ item, addItem imports scan item = (itemDeclarations imports item).foldl note scan
  | .trait _ | .enum _ => rfl
  | .module _ _ _ _ (some items) => by
    unfold addItem itemDeclarations
    exact addItems_eq _ scan items
  | .module _ _ _ _ none => rfl
  | .constant _ | .externCrate .. | .function _ | .foreign .. | .implementation _
  | .invocation _ | .static .. | .struct _ | .traitAlias .. | .alias _ | .union _ | .use ..
  | .verbatim _ => rfl

theorem addItems_eq (imports : Imports) (scan : Scan) :
    ∀ items, addItems imports scan items = (declarations imports items).foldl note scan
  | [] => rfl
  | item :: rest => by
    unfold addItems declarations
    rw [List.foldl_append, ← addItem_eq, addItems_eq]

end

theorem ofUnits_eq_foldl (units : List SourceUnit) :
    ofUnits units = (units.flatMap unitDeclarations).foldl note empty := by
  rw [List.foldl_flatMap]
  exact congrArg (fun step => units.foldl step empty)
    (funext fun scan => funext fun unit => addItems_eq ..)

theorem note_eq (scan : Scan) (found : Found) :
    note scan found =
      if found.isMarked && !scan.seen.contains found.key then
        ⟨scan.candidates ++ found.candidate?.toList, scan.diagnostics ++ found.problem?.toList,
          scan.seen ++ [found.key]⟩
      else scan := by
  have passed : (found.hits = 0 || scan.seen.contains found.key) =
      !(found.isMarked && !scan.seen.contains found.key) := by
    simp [Found.isMarked, Bool.not_and, bne, ← Bool.beq_eq_decide_eq]
  change (if found.hits = 0 || scan.seen.contains found.key then scan
    else if found.isRepeated then _ else _) = _
  rw [passed]
  cases found.isMarked && !scan.seen.contains found.key with
  | false => rfl
  | true =>
    cases repeated : found.isRepeated <;>
      simp [Found.candidate?, Found.problem?, repeated, Found.key, Found.identity]

theorem firsts_of_new {seen : List (Kind × Identity)} {found : Found}
    (asked : found.isMarked = true) (new : found.key ∉ seen) (rest : List Found) :
    firsts seen (found :: rest) = found :: firsts (seen ++ [found.key]) rest := by
  simp [firsts, asked, new]

theorem firsts_of_passed {seen : List (Kind × Identity)} {found : Found}
    (passed : found.isMarked = true → found.key ∈ seen) (rest : List Found) :
    firsts seen (found :: rest) = firsts seen rest := by
  cases asked : found.isMarked with
  | false => simp [firsts, asked]
  | true => simp [firsts, passed asked]

/-- Of a list of declarations, a scan takes note of the first ones that are new. -/
theorem foldl_note (founds : List Found) (scan : Scan) :
    founds.foldl note scan =
      ⟨scan.candidates ++ (firsts scan.seen founds).filterMap Found.candidate?,
        scan.diagnostics ++ (firsts scan.seen founds).filterMap Found.problem?,
        scan.seen ++ (firsts scan.seen founds).map Found.key⟩ := by
  induction founds generalizing scan with
  | nil => simp [firsts]
  | cons found rest ih =>
    rw [List.foldl_cons, ih, note_eq, firsts]
    by_cases new : (found.isMarked && !scan.seen.contains found.key) = true
    · cases candidate : found.candidate? <;> cases problem : found.problem? <;>
        simp only [if_pos new, List.filterMap_cons, candidate, problem, List.map_cons,
          List.append_assoc, Option.toList, List.nil_append, List.append_nil, List.cons_append]
    · simp only [if_neg new]

/-- The first marked declarations of the units, one for each kind and identity. -/
def marked (units : List SourceUnit) : List Found := firsts [] (units.flatMap unitDeclarations)

theorem ofUnits_candidates (units : List SourceUnit) :
    (ofUnits units).candidates = (marked units).filterMap Found.candidate? := by
  simp [ofUnits_eq_foldl, foldl_note, empty, marked]

theorem ofUnits_diagnostics (units : List SourceUnit) :
    (ofUnits units).diagnostics = (marked units).filterMap Found.problem? := by
  simp [ofUnits_eq_foldl, foldl_note, empty, marked]

/-! ### First declarations -/

theorem firsts_append (seen : List (Kind × Identity)) (founds others : List Found) :
    firsts seen (founds ++ others) =
      firsts seen founds ++ firsts (seen ++ (firsts seen founds).map Found.key) others := by
  induction founds generalizing seen with
  | nil => simp [firsts]
  | cons found rest ih =>
    by_cases new : found.isMarked = true ∧ found.key ∉ seen
    · simp [firsts_of_new new.1 new.2, ih]
    · have passed : found.isMarked = true → found.key ∈ seen := by simpa using new
      rw [List.cons_append, firsts_of_passed passed, firsts_of_passed passed, ih]

/-- Only the keys of marked declarations matter among those that have come before. -/
theorem firsts_congr {seen others : List (Kind × Identity)} {founds : List Found}
    (same : ∀ found ∈ founds, found.isMarked = true → (found.key ∈ seen ↔ found.key ∈ others)) :
    firsts seen founds = firsts others founds := by
  induction founds generalizing seen others with
  | nil => rfl
  | cons found rest ih =>
    have here := same found (by simp)
    have later : ∀ one ∈ rest, one.isMarked = true → (one.key ∈ seen ↔ one.key ∈ others) :=
      fun one member => same one (List.mem_cons_of_mem _ member)
    by_cases new : found.isMarked = true ∧ found.key ∉ seen
    · rw [firsts_of_new new.1 new.2, firsts_of_new new.1 ((here new.1).not.mp new.2)]
      refine congrArg _ (ih ?_)
      intro one member asked
      simp only [List.mem_append, later one member asked]
    · have passed : found.isMarked = true → found.key ∈ seen := by simpa using new
      rw [firsts_of_passed passed, firsts_of_passed fun asked => (here asked).mp (passed asked),
        ih later]

theorem mem_firsts {seen : List (Kind × Identity)} {founds : List Found} {found : Found}
    (member : found ∈ firsts seen founds) :
    found ∈ founds ∧ found.isMarked = true ∧ found.key ∉ seen := by
  induction founds generalizing seen with
  | nil => simp [firsts] at member
  | cons first rest ih =>
    by_cases new : first.isMarked = true ∧ first.key ∉ seen
    · rw [firsts_of_new new.1 new.2] at member
      rcases List.mem_cons.mp member with rfl | later
      · exact ⟨by simp, new⟩
      · obtain ⟨held, asked, fresh⟩ := ih later
        exact ⟨List.mem_cons_of_mem _ held, asked,
          fun old => fresh (List.mem_append_left _ old)⟩
    · rw [firsts_of_passed (by simpa using new)] at member
      obtain ⟨held, asked, fresh⟩ := ih member
      exact ⟨List.mem_cons_of_mem _ held, asked, fresh⟩

end Endpoint.Scan
