import Endpoint.Proofs.Outcome
import Endpoint.Validation
import Mathlib.Data.List.Nodup

/-!
What a validated method is known to satisfy.
-/

namespace Endpoint

/-! ### Placeholders of a route -/

private theorem mem_withoutRepetition (names found : List String) (name : String) :
    name ∈ names.foldl (fun found name => if found.contains name then found else found ++ [name])
      found ↔ name ∈ found ∨ name ∈ names := by
  induction names generalizing found with
  | nil => simp
  | cons first rest ih =>
    rw [List.foldl_cons, ih]
    by_cases known : found.contains first = true
    · have held : first ∈ found := by simpa using known
      simp only [known, if_true, List.mem_cons]
      constructor
      · rintro (before | after)
        · exact .inl before
        · exact .inr (.inr after)
      · rintro (before | rfl | after)
        · exact .inl before
        · exact .inl held
        · exact .inr after
    · simp only [known, Bool.false_eq_true, if_false, List.mem_append, List.mem_cons,
        List.not_mem_nil, or_false, or_assoc]

theorem Route.mem_placeholders (route : Route) (name : String) :
    name ∈ route.placeholders ↔ .placeholder name ∈ route.segments := by
  rw [Route.placeholders, mem_withoutRepetition]
  simp only [List.not_mem_nil, false_or, List.mem_filterMap]
  constructor
  · rintro ⟨segment, member, named⟩
    cases segment with
    | literal text => cases named
    | placeholder other =>
      cases named
      exact member
  · exact fun member => ⟨_, member, rfl⟩

namespace MethodDefinition

/-! ### Checks -/

/-- All checks of a validated method have passed. -/
structure Checked (method : MethodDefinition) : Prop where
  route : method.checkRoute = .ok ()
  body : method.checkBody = .ok ()
  cancellation : method.checkCancellation = .ok ()
  keys : method.checkKeys = .ok ()
  errors : method.checkErrors = .ok ()

theorem validate_ok_iff (method : MethodDefinition) :
    method.validate = .ok () ↔ method.Checked := by
  simp only [validate, bind_eq_ok]
  constructor
  · rintro ⟨_, route, _, body, _, cancellation, _, keys, errors⟩
    exact ⟨route, body, cancellation, keys, errors⟩
  · intro checked
    exact ⟨_, checked.route, _, checked.body, _, checked.cancellation, _, checked.keys,
      checked.errors⟩

/-- Route parameters that are all used have placeholders of their own. -/
theorem unusedParameter?_eq_none {placeholders seen : List String} {bindings : List Binding}
    (none : unusedParameter? placeholders seen bindings = none) :
    (bindings.filterMap (·.role.placeholder?)).Nodup ∧
      ∀ name ∈ bindings.filterMap (·.role.placeholder?), name ∈ placeholders ∧ name ∉ seen := by
  induction bindings generalizing seen with
  | nil => simp
  | cons binding rest ih =>
    simp only [unusedParameter?] at none
    cases bound : binding.role.placeholder? with
    | none =>
      simp only [bound] at none
      simpa [bound] using ih none
    | some name =>
      simp only [bound] at none
      split at none
      · cases none
      · rename_i fresh
        simp only [Bool.or_eq_true, Bool.not_eq_true', List.contains_eq_mem, decide_eq_false_iff_not,
          decide_eq_true_eq, not_or, Decidable.not_not] at fresh
        obtain ⟨distinct, own⟩ := ih none
        simp only [List.filterMap_cons, bound]
        refine ⟨List.nodup_cons.mpr ⟨?_, distinct⟩, ?_⟩
        · intro again
          exact (own name again).2 List.mem_cons_self
        · intro other member
          rcases List.mem_cons.mp member with rfl | later
          · exact fresh
          · exact ⟨(own other later).1, fun old => (own other later).2 (List.mem_cons_of_mem _ old)⟩

/-- What the check of the route has found: all placeholders are bound, and all route parameters
are used. -/
theorem Checked.placeholders {method : MethodDefinition} (checked : method.Checked) :
    (∀ name ∈ method.route.placeholders, name ∈ method.boundPlaceholders) ∧
      unusedParameter? method.route.placeholders [] method.bindings = none := by
  have route := checked.route
  simp only [checkRoute] at route
  split at route
  · cases route
  · rename_i bound
    split at route
    · cases route
    · rename_i own
      refine ⟨?_, own⟩
      intro name used
      simpa using List.find?_eq_none.mp bound name used

/-- A placeholder of a validated method is bound to exactly one parameter. -/
theorem Checked.binding {method : MethodDefinition} (checked : method.Checked) {name : String}
    (used : .placeholder name ∈ method.route.segments) :
    ∃ binding, method.bindings.filter (fun binding => binding.role == .route name) =
      [binding] := by
  obtain ⟨bound, own⟩ := checked.placeholders
  have held := bound name ((method.route.mem_placeholders name).mpr used)
  have once : (method.bindings.filterMap (·.role.placeholder?)).count name = 1 :=
    List.count_eq_one_of_mem (unusedParameter?_eq_none own).1 held
  have same : ∀ binding : Binding, (binding.role == .route name) =
      ((binding.role.placeholder?).map (· == name)).getD false := by
    intro binding
    cases shape : binding.role with
    | route placeholder => exact Bool.eq_iff_iff.mpr (by simp [Role.placeholder?])
    | _ => rfl
  rw [List.count, List.countP_filterMap, List.countP_eq_length_filter] at once
  simp only [← same] at once
  exact List.length_eq_one_iff.mp once

/-- A route parameter of a validated method has a placeholder in the route. -/
theorem Checked.used {method : MethodDefinition} (checked : method.Checked) {binding : Binding}
    (member : binding ∈ method.bindings) {name : String} (role : binding.role = .route name) :
    .placeholder name ∈ method.route.segments := by
  rw [← Route.mem_placeholders]
  have own := (unusedParameter?_eq_none checked.placeholders.2).2 name
  exact (own (List.mem_filterMap.mpr ⟨binding, member, by simp [role, Role.placeholder?]⟩)).1

end MethodDefinition

/-! ### Aliases -/

/-- No member is refused exactly if every alias is some text that has not come before. -/
theorem memberDiagnostics_eq_nil_iff (identity : Identity) (members : List EnumerationMember)
    (seen : List String) :
    memberDiagnostics identity seen members = [] ↔
      (members.map EnumerationMember.wireName).Nodup ∧
        ∀ member ∈ members, member.wireName ≠ "" ∧ member.wireName ∉ seen := by
  induction members generalizing seen with
  | nil => simp [memberDiagnostics]
  | cons member rest ih =>
    by_cases empty : member.wireName = ""
    · simp [memberDiagnostics, empty]
    by_cases known : member.wireName ∈ seen
    · simp [memberDiagnostics, empty, known]
    simp only [memberDiagnostics, String.isEmpty_iff, empty, if_false,
      List.contains_eq_mem, known, decide_false, Bool.false_eq_true, ih, List.map_cons,
      List.nodup_cons, List.mem_cons, forall_eq_or_imp, not_or, not_false_eq_true, ne_eq,
      true_and]
    constructor
    · rintro ⟨distinct, fresh⟩
      refine ⟨⟨?_, distinct⟩, fun other later => ⟨(fresh other later).1, (fresh other later).2.2⟩⟩
      intro again
      obtain ⟨other, later, same⟩ := List.mem_map.mp again
      exact (fresh other later).2.1 same
    · rintro ⟨⟨own, distinct⟩, fresh⟩
      refine ⟨distinct, fun other later => ⟨(fresh other later).1, ?_, (fresh other later).2⟩⟩
      intro same
      exact own (List.mem_map.mpr ⟨other, later, same⟩)

/-- An enumeration is accepted exactly if its aliases are some texts, no two of them the same. -/
theorem Enumeration.problems_eq_nil_iff (enumeration : Enumeration) :
    enumeration.problems = [] ↔
      (enumeration.members.map EnumerationMember.wireName).Nodup ∧
        ∀ member ∈ enumeration.members, member.wireName ≠ "" := by
  simp [Enumeration.problems, memberDiagnostics_eq_nil_iff]

end Endpoint
