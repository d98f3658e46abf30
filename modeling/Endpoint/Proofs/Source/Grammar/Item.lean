import Endpoint.Proofs.Source.Grammar.Expression
import Endpoint.Source.Grammar

/-!
What the rules for signatures and items leave can be written, and so can the names of the traits
and fields that they give. Main statement: every trait of a file that is read has a name that can be
written.
-/

set_option mvcgen.warning false

namespace Endpoint.Source.Grammar

open Source.Parser

variable (g : Grammar) [g.Keeping]

/-! ### Signatures -/

@[spec]
theorem receiver_keeps (attributes : Attributes) : Keeps (receiver g attributes) := by
  mvcgen [receiver]

@[spec]
theorem variadicComma_keeps : Keeps variadicComma := by
  mvcgen [variadicComma]

@[spec]
theorem inputsFor_keeps (first received : Bool) (fuel : Nat) :
    Keeps (inputsFor g first received fuel) := by
  induction fuel generalizing first received with
  | zero => mvcgen [inputsFor]
  | succ fuel ih =>
    have goesOn (received : Bool) (input : Input) :
        Keeps (inputsFor.goOn g fuel received input) := by
      mvcgen [inputsFor.goOn, ih]
    mvcgen [inputsFor, goesOn]

@[spec]
theorem signatureWords_keeps (allowSafe : Bool) : Keeps (signatureWords allowSafe) := by
  mvcgen [signatureWords]

@[spec]
theorem seesSignature_keeps (allowSafe : Bool) : Keeps (seesSignature allowSafe) := by
  mvcgen [seesSignature]

@[spec]
theorem signature_keeps (allowSafe : Bool) : Keeps (signature g allowSafe) := by
  mvcgen [signature]

@[spec]
theorem body_keeps : Keeps (body g) := by
  mvcgen [body]

@[spec]
theorem bodied_keeps (attributes : Attributes) (visibility : Visibility) (isDefault : Bool)
    (signature : Signature) :
    Keeps (bodied g attributes visibility isDefault signature) := by
  mvcgen [bodied]

@[spec]
theorem method_keeps (attributes : Attributes) (visibility : Visibility) (isDefault : Bool) :
    Keeps (method g attributes visibility isDefault) := by
  mvcgen [method]

/-! ### Members of items -/

theorem namedField_gives (fuel : Nat) : Gives (namedField g fuel) Field.IsNamed := by
  induction fuel with
  | zero => mvcgen [namedField]
  | succ fuel ih =>
    have inner := ih.keeps
    mvcgen [namedField, inner, anyIdent_gives, ident_gives, -anyIdent_keeps, -ident_keeps] <;>
      grind [Field.IsNamed]

@[spec]
theorem positionalField_keeps : Keeps (positionalField g) := by
  mvcgen [positionalField]

theorem namedFields_gives : Gives (namedFields g) Fields.AreNamed := by
  have fields (depth : Nat) :=
    group_gives .brace (commasToEnd_gives (namedField_gives g depth))
  mvcgen [namedFields, fields, -group_keeps]

@[spec]
theorem namedFields_keeps : Keeps (namedFields g) := (namedFields_gives g).keeps

theorem positionalFields_gives : Gives (positionalFields g) Fields.AreNamed := by
  mvcgen [positionalFields]

@[spec]
theorem positionalFields_keeps : Keeps (positionalFields g) := (positionalFields_gives g).keeps

@[spec]
theorem variant_keeps : Keeps (variant g) := by
  mvcgen [variant]

theorem structBody_gives : Gives (structBody g) fun found => found.2.AreNamed := by
  have named := namedFields_gives g
  have positional := positionalFields_gives g
  mvcgen [structBody, named, positional, -namedFields_keeps, -positionalFields_keeps] <;> grind

theorem structRest_gives (attributes : Attributes) (visibility : Visibility) :
    Gives (structRest g attributes visibility) fun item => item.fields.AreNamed := by
  have body := structBody_gives g
  mvcgen [structRest, body]

@[spec]
theorem unionRest_keeps (attributes : Attributes) (visibility : Visibility) :
    Keeps (unionRest g attributes visibility) := by
  mvcgen [unionRest]

@[spec]
theorem enumRest_keeps (attributes : Attributes) (visibility : Visibility) :
    Keeps (enumRest g attributes visibility) := by
  mvcgen [enumRest]

@[spec]
theorem seesInvocation_keeps : Keeps seesInvocation := by
  mvcgen [seesInvocation]

@[spec]
theorem invocationItem_keeps (named : Bool) (attributes : Attributes) :
    Keeps (invocationItem named attributes) := by
  mvcgen [invocationItem]

@[spec]
theorem seesNameOrUnderscore_keeps : Keeps seesNameOrUnderscore := by
  mvcgen [seesNameOrUnderscore]

@[spec]
theorem constantRest_keeps (attributes : Attributes) (visibility : Visibility)
    (isDefault : Bool) :
    Keeps (constantRest g attributes visibility isDefault) := by
  mvcgen [constantRest]

@[spec]
theorem aliasRest_keeps (attributes : Attributes) (visibility : Visibility) (isDefault : Bool)
    (place : ClausePlace) :
    Keeps (aliasRest g attributes visibility isDefault place) := by
  mvcgen [aliasRest]

@[spec]
theorem traitConstant_keeps (start : Tokens) (attributes : Attributes) (shown : Visibility)
    (isDefault : Bool) :
    Keeps (traitConstant g start attributes shown isDefault) := by
  mvcgen [traitConstant]

@[spec]
theorem traitItem_keeps : Keeps (traitItem g) := by
  mvcgen [traitItem]

@[spec]
theorem associatedItems_keeps {item : Parser Associated} (keeps : Keeps item) :
    Keeps (associatedItems g item) := by
  mvcgen [associatedItems, keeps]

@[spec]
theorem implementationItem_keeps : Keeps (implementationItem g) := by
  mvcgen [implementationItem]

@[spec]
theorem foreignFunction_keeps (start : Tokens) (attributes : Attributes) (shown : Visibility) :
    Keeps (foreignFunction g start attributes shown) := by
  mvcgen [foreignFunction]

@[spec]
theorem seesForeignStatic_keeps : Keeps seesForeignStatic := by
  mvcgen [seesForeignStatic]

@[spec]
theorem foreignStatic_keeps (start : Tokens) (attributes : Attributes) (shown : Visibility) :
    Keeps (foreignStatic g start attributes shown) := by
  mvcgen [foreignStatic]

@[spec]
theorem foreignItem_keeps : Keeps (foreignItem g) := by
  mvcgen [foreignItem]

/-! ### Imports -/

@[spec]
theorem useTree_keeps (rootAllowed : Bool) (fuel : Nat) : Keeps (useTree rootAllowed fuel) := by
  induction fuel generalizing rootAllowed with
  | zero => mvcgen [useTree]
  | succ fuel ih => mvcgen [useTree, ih]

/-! ### Items -/

theorem useItem_gives (start : Tokens) (attributes : Attributes) (visibility : Visibility) :
    Gives (useItem start attributes visibility) Item.IsNamed := by
  mvcgen [useItem]

theorem staticRest_gives (start : Tokens) (attributes : Attributes) (visibility : Visibility) :
    Gives (staticRest g start attributes visibility) Item.IsNamed := by
  mvcgen [staticRest]

theorem foreignBlock_gives (attributes : Attributes) :
    Gives (foreignBlock g attributes) Item.IsNamed := by
  mvcgen [foreignBlock]

theorem foreignMod_gives (attributes : Attributes) (hidden : Bool) :
    Gives (foreignMod g attributes hidden) Item.IsNamed := by
  have block := foreignBlock_gives g attributes
  mvcgen [foreignMod, block, -Std.Do.Spec.throw_MonadExcept]

theorem traitRest_gives (attributes : Attributes) (visibility : Visibility)
    (isUnsafe isAuto : Bool) {name : Ident} (proper : name.IsProper) (generics : Generics) :
    Gives (traitRest g attributes visibility isUnsafe isAuto name generics)
      fun item => item.name.IsProper := by
  mvcgen [traitRest]

/-- A trait has the name that is read for it. -/
theorem traitItemRest_gives (attributes : Attributes) (visibility : Visibility) :
    Gives (traitItemRest g attributes visibility) fun item => item.name.IsProper := by
  have rest {name : Ident} (proper : name.IsProper) (isUnsafe isAuto : Bool)
      (generics : Generics) :=
    traitRest_gives g attributes visibility isUnsafe isAuto proper generics
  mvcgen [traitItemRest, ident_gives, rest, -ident_keeps] <;> grind

theorem traitOrAlias_gives (attributes : Attributes) (visibility : Visibility) :
    Gives (traitOrAlias g attributes visibility) Item.IsNamed := by
  have rest {name : Ident} (proper : name.IsProper) (generics : Generics) :=
    traitRest_gives g attributes visibility false false proper generics
  mvcgen [traitOrAlias, ident_gives, rest, -ident_keeps] <;> grind [Item.IsNamed]

/-- Items up to the end of a group or file. -/
theorem items_give :
    Gives (many do
      if ← atEnd then return none
      return some (← g.item)) Items.AreNamed := by
  have each : Gives (do
      if ← atEnd then return none
      return some (← g.item)) fun found => ∀ item, found = some item → item.IsNamed := by
    have item := Keeping.item (g := g)
    mvcgen [item, -item_keeps] <;> grind
  simpa only [← Items.areNamed_iff] using many_gives each

theorem moduleRest_gives (attributes : Attributes) (visibility : Visibility) :
    Gives (moduleRest g attributes visibility) Item.IsNamed := by
  have items := items_give g
  have body : Gives (group .brace do
      let inner ← innerAttributes g
      let items ← many do
        if ← atEnd then return none
        return some (← g.item)
      return (inner, items)) fun found => Items.AreNamed found.2 := by
    refine group_gives .brace ?_
    mvcgen [items, -many_keeps]
  mvcgen [moduleRest, body, -group_keeps]

theorem fileRule_gives : Gives (fileRule g) fun file => Items.AreNamed file.items := by
  have items := items_give g
  mvcgen [fileRule, items, -many_keeps]

theorem implementation_gives (start : Tokens) (attributes : Attributes) (visibility : Visibility) :
    Gives (implementation g start attributes visibility) Item.IsNamed := by
  unfold implementation
  refine (word?_keeps _).bind_gives fun isDefault => ?_
  refine (word?_keeps _).bind_gives fun isUnsafe => ?_
  refine (word_keeps _).bind_gives fun _ => ?_
  refine (sees_keeps _).bind_gives fun opens => ?_
  extract_lets -underBinder afterGenerics
  have generic (generics : Generics) : Gives (afterGenerics generics) Item.IsNamed := by
    refine (sees_keeps _).bind_gives fun isConst => ?_
    extract_lets -underBinder afterConst
    have constant (mark : Unit) : Gives (afterConst mark) Item.IsNamed := by
      unfold afterConst
      mvcgen
    clear_value afterConst
    mvcgen [constant]
  clear_value afterGenerics
  mvcgen [generic]

theorem itemRest_gives (start : Tokens) (attributes : Attributes) (visibility : Visibility) :
    Gives (itemRest g start attributes visibility) Item.IsNamed := by
  have ofUse := useItem_gives start attributes visibility
  have ofStatic := staticRest_gives g start attributes visibility
  have ofBlock := foreignBlock_gives g attributes
  have ofForeign := foreignMod_gives g attributes
  have ofStruct := structRest_gives g attributes visibility
  have ofTrait := traitItemRest_gives g attributes visibility
  have ofAlias := traitOrAlias_gives g attributes visibility
  have ofModule := moduleRest_gives g attributes visibility
  have ofImplementation := implementation_gives g start attributes visibility
  mvcgen [itemRest, ofUse, ofStatic, ofBlock, ofForeign, ofStruct, ofTrait, ofAlias, ofModule,
    ofImplementation]

theorem itemRule_gives : Gives (itemRule g) Item.IsNamed := by
  have rest (start : Tokens) (attributes : Attributes) (visibility : Visibility) :=
    itemRest_gives g start attributes visibility
  mvcgen [itemRule, rest]

end Endpoint.Source.Grammar

namespace Endpoint.Source

namespace Grammar

open Source.Parser

theorem default_keeping : Keeping (default : Grammar) where
  ty _ := fun _ _ _ => trivial
  parameter := fun _ _ _ => trivial
  expr _ := fun _ _ _ => trivial
  alone := fun _ _ _ => trivial
  pattern := fun _ _ _ => trivial
  stmts := fun _ _ _ => trivial
  item := fun _ _ _ => trivial

/-- The rules of every depth leave only identifiers that can be written. -/
instance level_keeping (depth : Nat) : Keeping (level depth) := by
  induction depth with
  | zero => exact default_keeping
  | succ depth ih =>
    exact {
      ty := typeRule_keeps _
      parameter := parameterRule_keeps _
      expr := exprRule_keeps _
      alone := aloneRule_keeps _
      pattern := patternRule_keeps _
      stmts := stmtsRule_keeps _
      item := itemRule_gives _ }

instance covering_keeping (tokens : Tokens) : Keeping (covering tokens) := level_keeping _

end Grammar

theorem Parser.Gives.whole {α : Type} {parser : Parser α} {stated : α → Prop}
    (gives : Gives parser stated) {tokens : Tokens} (proper : tokens.AreProper) {value : α}
    (read : whole parser tokens = .ok value) : stated value := by
  have ended := triple_iff.mp gives tokens none proper
  unfold Parser.whole at read
  split at read
  · rename_i ran
    obtain rfl := Except.ok.inj read
    rw [ran] at ended
    exact ended.1
  · cases read
  · cases read
  · cases read

/-- What the rules give of text is as stated where they find no identifiers but such as can be
written. -/
theorem parseText_gives {α : Type} {rule : Grammar → Parser α} (stated : α → Prop)
    (gives : ∀ (g : Grammar) [g.Keeping], Parser.Gives (rule g) stated) {text : String} {value : α}
    (done : parseText rule text = .ok value) : stated value := by
  unfold parseText at done
  split at done
  · rename_i tokens read
    exact (gives (.covering tokens)).whole (Tokens.read?_proper read) done
  · cases done

theorem File.read_named {text : String} {file : File} (done : read text = .ok file) :
    Items.AreNamed file.items :=
  parseText_gives (fun file => Items.AreNamed file.items) (fun g _ => Grammar.fileRule_gives g) done

end Endpoint.Source
