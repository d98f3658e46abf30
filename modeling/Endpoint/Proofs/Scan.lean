import Endpoint.Scan
import Mathlib.Data.List.Nodup

/-!
A scan finds each declaration once: no kind and identity stand for two candidates.
-/

namespace Endpoint.Scan

open Source (Item)

/-- What a candidate is told apart by. -/
def key (candidate : Candidate) : Kind × Identity := (candidate.kind, candidate.identity)

/-- Noting a declaration leaves a scan as it is, or enters its key for the first time and adds a
candidate or a diagnostic. -/
theorem add_cases (imports : Imports) (found : Declaration) (scan : Scan) :
    add imports found scan = scan ∨
      (found.kind, ⟨imports.module, found.name⟩) ∉ scan.seen ∧
      (add imports found scan).seen =
        scan.seen ++ [(found.kind, ⟨imports.module, found.name⟩)] ∧
      ((add imports found scan).candidates = scan.candidates ++
          [⟨⟨imports.module, found.name⟩, found.kind, imports, found⟩] ∧
          (add imports found scan).diagnostics = scan.diagnostics ∨
        (add imports found scan).candidates = scan.candidates ∧
          (add imports found scan).diagnostics = scan.diagnostics ++
            [.ofDeclaration ⟨imports.module, found.name⟩ .duplicateClientMarker]) := by
  unfold add
  dsimp only
  split
  · exact .inl rfl
  · rename_i fresh
    have absent : (found.kind, (⟨imports.module, found.name⟩ : Identity)) ∉ scan.seen := by
      simp only [Bool.or_eq_true, decide_eq_true_eq, List.contains_iff_mem, not_or] at fresh
      exact fresh.2
    right
    split
    · exact ⟨absent, rfl, .inr ⟨rfl, rfl⟩⟩
    · exact ⟨absent, rfl, .inl ⟨rfl, rfl⟩⟩

/-! ### What every scan keeps -/

mutual

theorem addItem_preserves {P : Scan → Prop}
    (step : ∀ imports found scan, P scan → P (add imports found scan)) (imports : Imports)
    (scan : Scan) (holds : P scan) : ∀ item, P (addItem imports scan item)
  | .trait _ => step _ _ _ holds
  | .enum _ => step _ _ _ holds
  | .module _ _ _ _ (some items) => by
    unfold addItem
    exact addItems_preserves step _ scan holds items
  | .module _ _ _ _ none => holds
  | .constant _ | .externCrate .. | .function _ | .foreign .. | .implementation _
  | .invocation _ | .static .. | .struct _ | .traitAlias .. | .alias _ | .union _ | .use ..
  | .verbatim _ => holds

theorem addItems_preserves {P : Scan → Prop}
    (step : ∀ imports found scan, P scan → P (add imports found scan)) (imports : Imports)
    (scan : Scan) (holds : P scan) : ∀ items, P (addItems imports scan items)
  | [] => holds
  | item :: rest => by
    unfold addItems
    exact addItems_preserves step imports _ (addItem_preserves step imports scan holds item) rest

end

/-- What holds of the empty scan and is kept by noting one declaration holds of every scan. -/
theorem ofUnits_preserves {P : Scan → Prop}
    (step : ∀ imports found scan, P scan → P (add imports found scan)) (start : P empty)
    (units : List SourceUnit) : P (ofUnits units) := by
  suffices general : ∀ scan, P scan → P (units.foldl addUnit scan) from general empty start
  induction units with
  | nil => exact fun _ holds => holds
  | cons unit rest ih =>
    intro scan holds
    exact ih _ (addItems_preserves step _ scan holds _)

/-- No two candidates have one key, and a candidate is of the kind of its declaration. -/
structure Distinct (scan : Scan) : Prop where
  keys : (scan.candidates.map key).Nodup
  seen : scan.candidates.map key ⊆ scan.seen
  kinds : ∀ candidate ∈ scan.candidates, candidate.kind = candidate.declaration.kind

theorem Distinct.add {scan : Scan} (valid : scan.Distinct) (imports : Imports)
    (found : Declaration) : (Scan.add imports found scan).Distinct := by
  rcases add_cases imports found scan with same | ⟨fresh, entered, added | kept⟩
  · rwa [same]
  · obtain ⟨candidates, _⟩ := added
    refine ⟨?_, ?_, ?_⟩
    · rw [candidates, List.map_append, List.map_singleton, ← List.concat_eq_append]
      exact List.Nodup.concat (fun member => fresh (valid.seen member)) valid.keys
    · rw [candidates, entered, List.map_append]
      exact List.append_subset.mpr ⟨fun _ member => List.mem_append_left _ (valid.seen member),
        List.subset_append_right ..⟩
    · intro candidate member
      rw [candidates] at member
      rcases List.mem_append.mp member with old | new
      · exact valid.kinds candidate old
      · rw [List.mem_singleton.mp new]
  · obtain ⟨candidates, _⟩ := kept
    refine ⟨by rw [candidates]; exact valid.keys, ?_, by rw [candidates]; exact valid.kinds⟩
    rw [candidates, entered]
    exact fun _ member => List.mem_append_left _ (valid.seen member)

/-- Every scan finds distinct candidates. -/
theorem ofUnits_distinct (units : List SourceUnit) : (ofUnits units).Distinct :=
  ofUnits_preserves (fun imports found _ valid => valid.add imports found)
    ⟨List.nodup_nil, by simp [empty], by simp [empty]⟩ units

end Endpoint.Scan
