import Endpoint.Proofs.Source.Grammar.Path
import Endpoint.Source.Grammar.Type

/-!
What the rules for types, generic parameters, where clauses and visibilities leave can be written.
-/

set_option mvcgen.warning false

namespace Endpoint.Source.Grammar

open Source.Parser

variable (g : Grammar) [g.Keeping]

@[spec]
theorem steps_keeps : Keeps steps := by
  mvcgen [steps]

@[spec]
theorem fullPath_keeps (inExpr : Bool) : Keeps (fullPath g inExpr) := by
  mvcgen [fullPath]

@[spec]
theorem plainBound_keeps : Keeps (plainBound g) := by
  mvcgen [plainBound]

@[spec]
theorem anyBound_keeps : Keeps (anyBound g) := by
  mvcgen [anyBound]

@[spec]
theorem qualifiedSegments_keeps (inExpr : Bool) (fuel : Nat) :
    Keeps (qualifiedSegments g inExpr fuel) := by
  induction fuel generalizing inExpr with
  | zero => mvcgen [qualifiedSegments]
  | succ fuel ih => mvcgen [qualifiedSegments, ih]

@[spec]
theorem qualifiedPath_keeps (inExpr : Bool) : Keeps (qualifiedPath g inExpr) := by
  mvcgen [qualifiedPath]

/-! ### Bounds of types -/

@[spec]
theorem seesBoundStart_keeps (constness : Bool) : Keeps (seesBoundStart constness) := by
  mvcgen [seesBoundStart]

@[spec]
theorem furtherBounds_keeps (captures constness : Bool) :
    Keeps (furtherBounds g captures constness) := by
  mvcgen [furtherBounds]

@[spec]
theorem typeBounds_keeps (plus captures constness : Bool) :
    Keeps (typeBounds g plus captures constness) := by
  mvcgen [typeBounds]

@[spec]
theorem objectBounds_keeps (plus : Bool) : Keeps (objectBounds g plus) := by
  mvcgen [objectBounds]

/-! ### Pointers to functions -/

@[spec]
theorem linkage?_keeps : Keeps linkage? := by
  mvcgen [linkage?] <;> grind

@[spec]
theorem inputName?_keeps (first : Bool) : Keeps (inputName? first) := by
  mvcgen [inputName?]

@[spec]
theorem seesMutableSelf_keeps : Keeps seesMutableSelf := by
  mvcgen [seesMutableSelf]

@[spec]
theorem functionInput_keeps (first : Bool) (attributes : Attributes) :
    Keeps (functionInput g first attributes) := by
  mvcgen [functionInput]

@[spec]
theorem functionInputs_keeps (first : Bool) (fuel : Nat) : Keeps (functionInputs g first fuel) := by
  induction fuel generalizing first with
  | zero => mvcgen [functionInputs]
  | succ fuel ih => mvcgen [functionInputs, ih]

@[spec]
theorem functionTy_keeps (binder : Option Binder) : Keeps (functionTy g binder) := by
  mvcgen [functionTy]

/-! ### Types -/

@[spec]
theorem invocationGroup_keeps : Keeps invocationGroup := by
  mvcgen [invocationGroup]
  grind

@[spec]
theorem moreBounds_keeps (first : Bound) : Keeps (moreBounds g first) := by
  mvcgen [moreBounds]

@[spec]
theorem parenTy_keeps (plus : Bool) : Keeps (parenTy g plus) := by
  mvcgen [parenTy]

@[spec]
theorem pathTy_keeps (plus : Bool) (binder : Option Binder) : Keeps (pathTy g plus binder) := by
  mvcgen [pathTy]

@[spec]
theorem typeRule_keeps (plus : Bool) : Keeps (typeRule g plus) := by
  mvcgen [typeRule]

/-! ### Generic parameters -/

@[spec]
theorem lifetimeParameter_keeps (attributes : Attributes) :
    Keeps (lifetimeParameter attributes) := by
  mvcgen [lifetimeParameter]

@[spec]
theorem typeParameter_keeps (attributes : Attributes) : Keeps (typeParameter g attributes) := by
  mvcgen [typeParameter]

@[spec]
theorem constantParameter_keeps (attributes : Attributes) :
    Keeps (constantParameter g attributes) := by
  mvcgen [constantParameter]

@[spec]
theorem parameterRule_keeps : Keeps (parameterRule g) := by
  mvcgen [parameterRule]

@[spec]
theorem genericParameter_keeps : Keeps (genericParameter g) := by
  mvcgen [genericParameter]

@[spec]
theorem genericParameters_keeps : Keeps (genericParameters g) := by
  mvcgen [genericParameters]

/-! ### Where clauses -/

@[spec]
theorem endsClause_keeps : Keeps endsClause := by
  mvcgen [endsClause]

@[spec]
theorem condition_keeps : Keeps (condition g) := by
  mvcgen [condition]

@[spec]
theorem conditions_keeps (fuel : Nat) : Keeps (conditions g fuel) := by
  induction fuel with
  | zero => mvcgen [conditions]
  | succ fuel ih => mvcgen [conditions, ih]

@[spec]
theorem whereClause?_keeps : Keeps (whereClause? g) := by
  mvcgen [whereClause?]

/-! ### Visibilities -/

@[spec]
theorem visibility_keeps : Keeps visibility := by
  mvcgen [visibility] <;> grind

end Endpoint.Source.Grammar
