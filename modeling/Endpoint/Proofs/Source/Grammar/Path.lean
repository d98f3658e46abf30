import Endpoint.Proofs.Source.Parser
import Endpoint.Source.Grammar.Path

/-!
What the rules for attributes, paths, generic arguments and bounds leave can be written, over rules
of which this is so.
-/

set_option mvcgen.warning false

namespace Endpoint.Source

open Source.Parser

/-- A field without a name, or with one that can be written. -/
def Field.IsNamed (field : Field) : Prop := ∀ name, field.name = some name → name.IsProper

/-- Fields without names, or with names that can be written. -/
def Fields.AreNamed : Fields → Prop
  | .named fields _ => ∀ field ∈ fields, field.IsNamed
  | _ => True

mutual

/-- An item all of whose traits and fields have names that can be written. -/
def Item.IsNamed : Item → Prop
  | .trait item => item.name.IsProper
  | .struct item => item.fields.AreNamed
  | .module _ _ _ _ (some items) => Items.AreNamed items
  | _ => True

/-- Items all of whose traits and fields have names that can be written, also those inside
modules. -/
def Items.AreNamed : List Item → Prop
  | [] => True
  | item :: rest => item.IsNamed ∧ Items.AreNamed rest

end

theorem Items.areNamed_iff {items : List Item} :
    Items.AreNamed items ↔ ∀ item ∈ items, item.IsNamed := by
  induction items with
  | nil => simp [Items.AreNamed]
  | cons item rest ih => simp [Items.AreNamed, ih]

namespace Grammar

/-- Rules that leave only identifiers which can be written where they find no others, and give items
that are named by such. -/
class Keeping (g : Grammar) : Prop where
  ty : ∀ plus, Keeps (g.ty plus)
  parameter : Keeps g.parameter
  expr : ∀ struct, Keeps (g.expr struct)
  alone : Keeps g.alone
  pattern : Keeps g.pattern
  stmts : Keeps g.stmts
  item : Gives g.item Item.IsNamed

attribute [spec] Keeping.ty Keeping.parameter Keeping.expr Keeping.alone Keeping.pattern
  Keeping.stmts

variable {α : Type} (g : Grammar) [g.Keeping]

@[spec]
theorem item_keeps : Keeps g.item := Keeping.item.keeps

/-! ### Fragments and blocks -/

@[spec]
theorem since_keeps (start : Tokens) : Keeps (since start) := by
  mvcgen [since]

@[spec]
theorem fragment_keeps (write : α → Tokens) {parser : Parser α} (keeps : Keeps parser) :
    Keeps (fragment write parser) := by
  mvcgen [fragment, keeps]

@[spec]
theorem constant_keeps : Keeps g.constant := by
  mvcgen [constant]

@[spec]
theorem block_keeps : Keeps g.block := by
  mvcgen [block]

/-! ### Attributes -/

@[spec]
theorem seesPathStart_keeps : Keeps seesPathStart := sees_keeps _

@[spec]
theorem segments_keeps (fuel : Nat) : Keeps (plainPath.segments fuel) := by
  induction fuel with
  | zero => mvcgen [plainPath.segments]
  | succ fuel ih => mvcgen [plainPath.segments, ih]

@[spec]
theorem plainPath_keeps : Keeps plainPath := by
  mvcgen [plainPath]

@[spec]
theorem attributeGroup?_keeps : Keeps attributeGroup? := by
  mvcgen [attributeGroup?] <;> grind

@[spec]
theorem attributeBody_keeps : Keeps (attributeBody g) := by
  mvcgen [attributeBody]

@[spec]
theorem outerAttributes_keeps : Keeps (outerAttributes g) := by
  mvcgen [outerAttributes]

@[spec]
theorem innerAttributes_keeps : Keeps (innerAttributes g) := by
  mvcgen [innerAttributes]

@[spec]
theorem attributedBlock_keeps : Keeps (attributedBlock g) := by
  mvcgen [attributedBlock]

/-! ### Generic arguments -/

@[spec]
theorem binder?_keeps : Keeps (binder? g) := by
  mvcgen [binder?]

@[spec]
theorem constantArgument_keeps : Keeps (constantArgument g) := by
  mvcgen [constantArgument]

@[spec]
theorem result?_keeps (plus : Bool) : Keeps (result? g plus) := by
  mvcgen [result?]

@[spec]
theorem parenArguments_keeps : Keeps (parenArguments g) := by
  mvcgen [parenArguments]

@[spec]
theorem seesParenArguments_keeps : Keeps seesParenArguments := sees_keeps _

@[spec]
theorem withParenArguments_keeps (found : Path) : Keeps (withParenArguments g found) := by
  mvcgen [withParenArguments]

@[spec]
theorem capturedNames_keeps (fuel : Nat) : Keeps (capturedNames fuel) := by
  induction fuel with
  | zero => mvcgen [capturedNames]
  | succ fuel ih => mvcgen [capturedNames, ih]

@[spec]
theorem capture_keeps : Keeps capture := by
  mvcgen [capture]

@[spec]
theorem constness?_keeps (allowed : Bool) : Keeps (constness? allowed) := by
  mvcgen [constness?]

/-! ### Paths and bounds -/

/-- The rules for paths, which call one another on fewer steps. -/
structure PathKeeping (fuel : Nat) : Prop where
  angleArguments : Keeps (angleArguments g fuel)
  argument : Keeps (argument g fuel)
  segment : ∀ inExpr, Keeps (segment g inExpr fuel)
  furtherSegments : ∀ inExpr, Keeps (furtherSegments g inExpr fuel)
  path : ∀ inExpr, Keeps (path g inExpr fuel)
  bound : ∀ captures constness, Keeps (bound g captures constness fuel)
  traitBound : ∀ paren constness, Keeps (traitBound g paren constness fuel)

theorem pathKeeping (fuel : Nat) : PathKeeping g fuel := by
  induction fuel with
  | zero =>
    constructor
    · mvcgen [angleArguments]
    · mvcgen [argument]
    · intro inExpr
      mvcgen [segment]
    · intro inExpr
      mvcgen [furtherSegments]
    · intro inExpr
      mvcgen [path]
    · intro captures constness
      mvcgen [bound]
    · intro paren constness
      mvcgen [traitBound]
  | succ fuel ih =>
    obtain ⟨angles, argues, segments, further, paths, bounds, traits⟩ := ih
    constructor
    · mvcgen [angleArguments]
    · mvcgen [argument]
      exact bounds false true
    · intro inExpr
      mvcgen [segment, angles]
    · intro inExpr
      mvcgen [furtherSegments, segments, further]
    · intro inExpr
      mvcgen [path, segments, further]
    · intro captures constness
      mvcgen [bound, traits]
    · intro paren constness
      mvcgen [traitBound, paths]

@[spec]
theorem angleArguments_keeps (fuel : Nat) : Keeps (angleArguments g fuel) :=
  (pathKeeping g fuel).angleArguments

@[spec]
theorem segment_keeps (inExpr : Bool) (fuel : Nat) : Keeps (segment g inExpr fuel) :=
  (pathKeeping g fuel).segment inExpr

@[spec]
theorem path_keeps (inExpr : Bool) (fuel : Nat) : Keeps (path g inExpr fuel) :=
  (pathKeeping g fuel).path inExpr

@[spec]
theorem bound_keeps (captures constness : Bool) (fuel : Nat) :
    Keeps (bound g captures constness fuel) :=
  (pathKeeping g fuel).bound captures constness

@[spec]
theorem traitBound_keeps (paren constness : Bool) (fuel : Nat) :
    Keeps (traitBound g paren constness fuel) :=
  (pathKeeping g fuel).traitBound paren constness

end Grammar

end Endpoint.Source
