import Endpoint.Proofs.Source.Grammar.Type
import Endpoint.Source.Grammar.Expression

/-!
What the rules for patterns, expressions and statements leave can be written.
-/

set_option mvcgen.warning false

namespace Endpoint.Source.Grammar

open Source.Parser

variable (g : Grammar) [g.Keeping]

/-! ### Fields of patterns -/

@[spec]
theorem fieldPosition_keeps (text : String) : Keeps (fieldPosition text) := by
  mvcgen [fieldPosition]

@[spec]
theorem member_keeps : Keeps member := by
  mvcgen [member] <;> grind

/-! ### Alternatives and ranges -/

@[spec]
theorem alternatives_keeps : Keeps (alternatives g) := by
  mvcgen [alternatives]

@[spec]
theorem constantBlock_keeps : Keeps (constantBlock g) := by
  mvcgen [constantBlock]

@[spec]
theorem rangeBound_keeps : Keeps (rangeBound g) := by
  mvcgen [rangeBound]

@[spec]
theorem rangeEnd_keeps : Keeps (rangeEnd g) := by
  mvcgen [rangeEnd]

@[spec]
theorem rangeMark?_keeps : Keeps rangeMark? := by
  mvcgen [rangeMark?]

@[spec]
theorem rangeFrom_keeps (low : Option Fragment) (mark : RangeMark) :
    Keeps (rangeFrom g low mark) := by
  mvcgen [rangeFrom]

@[spec]
theorem constantPattern_keeps : Keeps (constantPattern g) := by
  mvcgen [constantPattern]

@[spec]
theorem binding_keeps : Keeps (binding g) := by
  mvcgen [binding]

/-! ### Patterns of structs -/

@[spec]
theorem patternField_keeps (attributes : Attributes) : Keeps (patternField g attributes) := by
  mvcgen [patternField]

@[spec]
theorem patternFields_keeps (fuel : Nat) : Keeps (patternFields g fuel) := by
  induction fuel with
  | zero => mvcgen [patternFields]
  | succ fuel ih => mvcgen [patternFields, ih]

@[spec]
theorem pathPattern_keeps : Keeps (pathPattern g) := by
  mvcgen [pathPattern]

/-! ### Patterns -/

@[spec]
theorem sliceElement_keeps : Keeps (sliceElement g) := by
  mvcgen [sliceElement]

@[spec]
theorem parenPattern_keeps : Keeps (parenPattern g) := by
  mvcgen [parenPattern]

@[spec]
theorem openPattern_keeps : Keeps (openPattern g) := by
  mvcgen [openPattern]

@[spec]
theorem seesPathPattern_keeps : Keeps seesPathPattern := by
  mvcgen [seesPathPattern]

@[spec]
theorem patternRule_keeps : Keeps (patternRule g) := by
  mvcgen [patternRule]

/-! ### Signs of expressions -/

@[spec]
theorem nextPrecedence_keeps : Keeps nextPrecedence := by
  mvcgen [nextPrecedence]

@[spec]
theorem rangeSign_keeps : Keeps rangeSign := by
  mvcgen [rangeSign]

@[spec]
theorem endsRange_keeps (struct : Bool) : Keeps (endsRange struct) := by
  mvcgen [endsRange]

/-! ### Blocks and control flow -/

@[spec]
theorem branch_keeps (fuel : Nat) : Keeps (branch g fuel) := by
  induction fuel with
  | zero => mvcgen [branch]
  | succ fuel ih => mvcgen [branch, ih]

@[spec]
theorem whileLoop_keeps (label : Option Ident) : Keeps (labelled.whileLoop g label) := by
  mvcgen [labelled.whileLoop]

@[spec]
theorem forLoop_keeps (label : Option Ident) : Keeps (labelled.forLoop g label) := by
  mvcgen [labelled.forLoop]

@[spec]
theorem endlessLoop_keeps (label : Option Ident) : Keeps (labelled.endlessLoop g label) := by
  mvcgen [labelled.endlessLoop]

@[spec]
theorem labelled_keeps : Keeps (labelled g) := by
  mvcgen [labelled]

/-! ### Trailers -/

@[spec]
theorem fieldPositions_keeps (text : String) : Keeps (fieldPositions text) :=
  mapM_keeps fieldPosition_keeps _

@[spec]
theorem trailers_keeps (fuel : Nat) (base : Expr) : Keeps (trailers g fuel base) := by
  induction fuel generalizing base with
  | zero => mvcgen [trailers]
  | succ fuel ih =>
    have named (base : Expr) : Keeps (trailers.named g fuel base) := by
      mvcgen [trailers.named, ih]
    mvcgen [trailers, ih, named] <;> grind

/-! ### Atoms -/

@[spec]
theorem closureInput_keeps : Keeps (closureInput g) := by
  mvcgen [closureInput]

@[spec]
theorem closure_keeps (struct : Bool) : Keeps (closure g struct) := by
  mvcgen [closure]

@[spec]
theorem fieldValues_keeps (fuel : Nat) : Keeps (fieldValues g fuel) := by
  induction fuel with
  | zero => mvcgen [fieldValues]
  | succ fuel ih => mvcgen [fieldValues, ih]

@[spec]
theorem pathExpr_keeps (struct : Bool) : Keeps (pathExpr g struct) := by
  mvcgen [pathExpr]

@[spec]
theorem arm_keeps : Keeps (arm g) := by
  mvcgen [arm]

@[spec]
theorem letCondition_keeps {value : Parser Expr} (keeps : Keeps value) :
    Keeps (letCondition g value) := by
  mvcgen [letCondition, keeps]

@[spec]
theorem parenExpr_keeps : Keeps (parenExpr g) := by
  mvcgen [parenExpr]

@[spec]
theorem arrayExpr_keeps : Keeps (arrayExpr g) := by
  mvcgen [arrayExpr]

@[spec]
theorem jumpLabel?_keeps : Keeps (jumpLabel? g) := by
  mvcgen [jumpLabel?]

@[spec]
theorem builtin_keeps : Keeps builtin := by
  mvcgen [builtin]

@[spec]
theorem tailCall_keeps : Keeps (tailCall g) := by
  mvcgen [tailCall]

@[spec]
theorem verbatim_keeps {parser : Parser Unit} (keeps : Keeps parser) :
    Keeps (verbatim parser) := by
  mvcgen [verbatim, keeps]

/-! ### Operators -/

/-- The rules for operators, which call one another on fewer steps. -/
structure OperatorKeeping (fuel : Nat) : Prop where
  atom : ∀ struct, Keeps (atom g struct fuel)
  unary : ∀ struct, Keeps (unary g struct fuel)
  climb : ∀ struct least left, Keeps (climb g struct least fuel left)
  rightSide : ∀ struct operator, Keeps (rightSide g struct operator fuel)
  tighten : ∀ struct operator value, Keeps (tighten g struct operator fuel value)
  expression : ∀ struct, Keeps (expression g struct fuel)
  bounded : Keeps (bounded g fuel)

theorem operatorKeeping (fuel : Nat) : OperatorKeeping g fuel := by
  induction fuel with
  | zero =>
    constructor
    · intro struct
      mvcgen [atom]
    · intro struct
      mvcgen [unary]
    · intro struct least left
      mvcgen [climb]
    · intro struct operator
      mvcgen [rightSide]
    · intro struct operator value
      mvcgen [tighten]
    · intro struct
      mvcgen [expression]
    · mvcgen [bounded]
  | succ fuel ih =>
    obtain ⟨atoms, unaries, climbs, rights, tightens, expressions, -⟩ := ih
    constructor
    · intro struct
      mvcgen [atom, unaries, climbs, rights, expressions] <;> grind
    · intro struct
      mvcgen [unary, atoms, unaries]
    · intro struct least left
      mvcgen [climb, climbs, rights]
    · intro struct operator
      mvcgen [rightSide, unaries, tightens]
    · intro struct operator value
      mvcgen [tighten, climbs, tightens]
    · intro struct
      mvcgen [expression, unaries, climbs]
    · mvcgen [bounded, atoms, unaries, climbs]

@[spec]
theorem exprSteps_keeps : Keeps exprSteps := by
  mvcgen [exprSteps]

@[spec]
theorem exprRule_keeps (struct : Bool) : Keeps (exprRule g struct) := by
  have expression (fuel : Nat) := (operatorKeeping g fuel).expression struct
  mvcgen [exprRule, expression]

@[spec]
theorem aloneRule_keeps : Keeps (aloneRule g) := by
  have bounded (fuel : Nat) := (operatorKeeping g fuel).bounded
  mvcgen [aloneRule, bounded]

/-! ### Statements -/

@[spec]
theorem letStatement_keeps (attributes : Attributes) : Keeps (letStatement g attributes) := by
  mvcgen [letStatement]

@[spec]
theorem seesItem_keeps : Keeps seesItem := by
  mvcgen [seesItem]

/-- What stands behind a call in front can be written too. -/
theorem invocationAhead_gives :
    Gives invocationAhead fun call => ∀ found, call = some found → found.2.AreProper := by
  have looks (parser : Parser (Path × Tokens))
      (gives : Gives parser fun found => found.2.AreProper) := ahead_gives _ gives
  mvcgen [invocationAhead, looks, -ahead_keeps]
  grind

@[spec]
theorem statement_keeps : Keeps (statement g) := by
  mvcgen [statement, invocationAhead_gives] <;> grind

@[spec]
theorem stmtsFor_keeps (fuel : Nat) : Keeps (stmtsFor g fuel) := by
  induction fuel with
  | zero => mvcgen [stmtsFor]
  | succ fuel ih => mvcgen [stmtsFor, ih]

@[spec]
theorem stmtsRule_keeps : Keeps (stmtsRule g) := by
  mvcgen [stmtsRule]

end Endpoint.Source.Grammar
