import Endpoint.Proofs.Lowering.Client
import Endpoint.Proofs.Lowering.Naming
import Endpoint.Proofs.Lowering.Parameters
import Endpoint.Proofs.Symbols
import Mathlib.Logic.Relation

/-!
The parts that parameters play. Main statement: each parameter of an understood method is bound by
itself, as its name, its marker and the path that its type is judged by tell, and references and
parentheses around its type make no difference.
-/

namespace Endpoint

open Source (Ident Input Method Path Struct Ty)

namespace Lowering

/-! ### What a type is judged by -/

/-- The type is the path, with any references and parentheses around it. -/
inductive IsPath : Ty → Path → Prop
  | path (path : Path) : IsPath (.path path) path
  | reference (lifetime : Option Ident) (mutable : Bool) {inner : Ty} {path : Path}
      (behind : IsPath inner path) : IsPath (.reference lifetime mutable inner) path
  | paren {inner : Ty} {path : Path} (behind : IsPath inner path) : IsPath (.paren inner) path

/-- The names that options are written with. -/
def optionNames : List Names :=
  [["Option"], ["std", "option", "Option"], ["core", "option", "Option"]]

/-- The path is written as an option, with the type as its only argument. -/
def IsOptionOf (path : Path) (inner : Ty) : Prop :=
  ∃ applied : Applied, applied.names ∈ optionNames ∧ path = applied.path [.type inner]

/-- The path that a type is judged by: its own, or that of its argument if it is an option. -/
inductive Judged (ty : Ty) : Bool → Path → Prop
  | itself (path : Path) (own : IsPath ty path) (single : ∀ inner, ¬IsOptionOf path inner) :
      Judged ty false path
  | argument (outer : Path) (inner : Ty) (path : Path) (own : IsPath ty outer)
      (option : IsOptionOf outer inner) (behind : IsPath inner path) : Judged ty true path

theorem target_eq_path_iff {ty : Ty} {path : Path} : target ty = .path path ↔ IsPath ty path := by
  constructor
  · intro same
    fun_induction target ty with
    | case1 lifetime mutable inner ih => exact .reference lifetime mutable (ih same)
    | case2 inner ih => exact .paren (ih same)
    | case3 ty => exact same ▸ .path path
  · intro own
    induction own with
    | path => rfl
    | reference _ _ _ ih => exact ih
    | paren _ ih => exact ih

theorem namesOption_iff {names : Names} : namesOption names = true ↔ names ∈ optionNames := by
  unfold namesOption optionNames
  split
  · simp
  · simp [or_and_right, and_assoc]
  · rename_i single triple
    refine iff_of_false (by simp) fun inside => ?_
    simp only [List.mem_cons, List.not_mem_nil, or_false] at inside
    rcases inside with rfl | rfl | rfl
    · exact single _ rfl
    · exact triple _ _ _ rfl
    · exact triple _ _ _ rfl

theorem optionArgument?_eq_some_iff {path : Path} {inner : Ty} :
    optionArgument? path = some inner ↔ IsOptionOf path inner := by
  constructor
  · intro found
    unfold optionArgument? at found
    split at found
    · rename_i option
      split at found
      · rename_i last
        cases found
        obtain ⟨applied, rfl⟩ := exists_applied last
        rw [namesOption_iff, applied.names_path] at option
        exact ⟨applied, option, rfl⟩
      · cases found
    · cases found
  · rintro ⟨applied, option, rfl⟩
    simp [optionArgument?, namesOption_iff.mpr option]

/-- The path that a type is, with any references and parentheses around it. -/
def path? (ty : Ty) : Option Path :=
  match target ty with
  | .path path => some path
  | _ => none

theorem path?_eq_some_iff {ty : Ty} {path : Path} : path? ty = some path ↔ IsPath ty path := by
  rw [← target_eq_path_iff, path?]
  cases target ty <;> simp

/-- The path that a type is judged by, and whether it is that of an argument. -/
def judged? (ty : Ty) : Option (Bool × Path) :=
  (path? ty).bind fun path =>
    match optionArgument? path with
    | some inner => (path? inner).map (true, ·)
    | none => some (false, path)

theorem judged?_eq_some_iff {ty : Ty} {optional : Bool} {path : Path} :
    judged? ty = some (optional, path) ↔ Judged ty optional path := by
  simp only [judged?, Option.bind_eq_some_iff, path?_eq_some_iff]
  constructor
  · rintro ⟨outer, own, found⟩
    split at found
    · rename_i inner option
      obtain ⟨_, behind, same⟩ := Option.map_eq_some_iff.mp found
      cases same
      exact .argument outer inner path own (optionArgument?_eq_some_iff.mp option)
        (path?_eq_some_iff.mp behind)
    · rename_i single
      cases found
      refine .itself path own fun inner option => ?_
      rw [optionArgument?_eq_some_iff.mpr option] at single
      cases single
  · rintro (⟨_, own, single⟩ | ⟨outer, inner, _, own, option, behind⟩)
    · have none : optionArgument? path = none :=
        Option.eq_none_iff_forall_ne_some.mpr fun inner found =>
          single inner (optionArgument?_eq_some_iff.mp found)
      exact ⟨path, own, by rw [none]⟩
    · refine ⟨outer, own, ?_⟩
      simp only [optionArgument?_eq_some_iff.mpr option, path?_eq_some_iff.mpr behind,
        Option.map_some]

theorem isToken_target (imports : Imports) (ty : Ty) :
    isToken imports (target ty) =
      (path? ty).any fun path => imports.knownType? path == some .token := by
  unfold isToken path?
  cases target ty <;> rfl

theorem structFields?_eq (imports : Imports) (symbols : Symbols) (ty : Ty) :
    structFields? imports symbols ty =
      (path? ty).bind fun path => symbols.find? (imports.typeCandidates path) := by
  unfold structFields? path?
  cases target ty <;> rfl

theorem tokenType?_eq (imports : Imports) (ty : Ty) :
    tokenType? imports ty = (judged? ty).bind fun judged =>
      if imports.knownType? judged.2 = some .token then some judged.1 else none := by
  have outer : tokenType? imports ty = (path? ty).bind fun path =>
      match optionArgument? path with
      | some inner => if isToken imports (target inner) then some true else none
      | none => if isToken imports (.path path) then some false else none := by
    unfold tokenType? path?
    cases target ty <;> rfl
  rw [outer, judged?, Option.bind_assoc]
  congr 1
  funext path
  cases optionArgument? path with
  | none => simp [isToken]
  | some inner =>
    simp only [isToken_target]
    cases path? inner <;> simp

theorem compositeFields?_eq (imports : Imports) (symbols : Symbols) (ty : Ty) :
    compositeFields? imports symbols ty = (judged? ty).bind fun judged =>
      (symbols.find? (imports.typeCandidates judged.2)).map fun fields => (fields, judged.1) := by
  have outer : compositeFields? imports symbols ty = (path? ty).bind fun path =>
      match optionArgument? path with
      | some inner => (structFields? imports symbols inner).map fun fields => (fields, true)
      | none => (symbols.find? (imports.typeCandidates path)).map fun fields => (fields, false) := by
    unfold compositeFields? structFields? path?
    cases target ty <;> rfl
  rw [outer, judged?, Option.bind_assoc]
  congr 1
  funext path
  cases optionArgument? path with
  | none => rfl
  | some inner =>
    simp only [structFields?_eq]
    cases path? inner <;> rfl

/-! ### Parts -/

/-- The key that a field of a composite parameter is sent under, and how it is read. -/
def fieldKey (optional : Bool) (symbol : FieldSymbol) : QueryKey :=
  ⟨symbol.key, if optional then .optionalField symbol.field else .field symbol.field⟩

/-- The type is judged by a path that stands for the cancellation token. -/
def IsToken (imports : Imports) (ty : Ty) (optional : Bool) : Prop :=
  ∃ path, Judged ty optional path ∧ imports.StandsForType .token path

/-- The type is judged by a path of a struct that the units declare. -/
def IsStruct (units : List SourceUnit) (imports : Imports) (ty : Ty) (optional : Bool)
    (item : Struct) (symbols : List FieldSymbol) : Prop :=
  ∃ path, Judged ty optional path ∧
    Symbols.Finds units (imports.typeCandidates path) item symbols

/-- The part that a parameter plays under its name. -/
inductive Plays (units : List SourceUnit) (imports : Imports) (placeholders : List String)
    (declared : Parameter) (name : Ident) : Role → Prop
  | route (taken : name.text ∈ placeholders) :
      Plays units imports placeholders declared name (.route name.text)
  | body (free : name.text ∉ placeholders) (marked : declared.IsMarked imports) :
      Plays units imports placeholders declared name .body
  | cancellation (optional : Bool) (free : name.text ∉ placeholders)
      (unmarked : ¬declared.IsMarked imports) (token : IsToken imports declared.ty optional) :
      Plays units imports placeholders declared name (.cancellation optional)
  | composite (optional : Bool) (item : Struct) (symbols : List FieldSymbol)
      (free : name.text ∉ placeholders) (unmarked : ¬declared.IsMarked imports)
      (value : ∀ optional, ¬IsToken imports declared.ty optional)
      (struct : IsStruct units imports declared.ty optional item symbols) :
      Plays units imports placeholders declared name
        (.query (symbols.map (fieldKey optional)) true)
  | single (free : name.text ∉ placeholders) (unmarked : ¬declared.IsMarked imports)
      (value : ∀ optional, ¬IsToken imports declared.ty optional)
      (plain : ∀ optional item symbols,
        ¬IsStruct units imports declared.ty optional item symbols) :
      Plays units imports placeholders declared name (.query [⟨name.text, .direct⟩] false)

theorem tokenType?_eq_some_iff {imports : Imports} {ty : Ty} {optional : Bool} :
    tokenType? imports ty = some optional ↔ IsToken imports ty optional := by
  rw [tokenType?_eq, Option.bind_eq_some_iff]
  constructor
  · rintro ⟨⟨found, path⟩, judged, token⟩
    split at token
    · rename_i known
      cases token
      exact ⟨path, judged?_eq_some_iff.mp judged, Imports.knownType?_eq_some_iff.mp known⟩
    · cases token
  · rintro ⟨path, judged, known⟩
    exact ⟨_, judged?_eq_some_iff.mpr judged, if_pos (Imports.knownType?_eq_some_iff.mpr known)⟩

theorem compositeFields?_eq_some_iff {units : List SourceUnit} {imports : Imports} {ty : Ty}
    {symbols : List FieldSymbol} {optional : Bool} :
    compositeFields? imports (Symbols.ofUnits units) ty = some (symbols, optional) ↔
      ∃ item, IsStruct units imports ty optional item symbols := by
  rw [compositeFields?_eq, Option.bind_eq_some_iff]
  constructor
  · rintro ⟨⟨_, path⟩, judged, found⟩
    obtain ⟨fields, known, same⟩ := Option.map_eq_some_iff.mp found
    clear found
    cases same
    obtain ⟨item, finds⟩ := Symbols.finds_of_find? known
    exact ⟨item, path, judged?_eq_some_iff.mp judged, finds⟩
  · rintro ⟨item, path, judged, finds⟩
    refine ⟨_, judged?_eq_some_iff.mpr judged, ?_⟩
    rw [finds.found]
    rfl

section

variable {units : List SourceUnit} {imports : Imports} {placeholders : List String}
  {declared : Parameter} {name : Ident} {role : Role}

theorem Plays.roleOf_eq (plays : Plays units imports placeholders declared name role) :
    roleOf imports (Symbols.ofUnits units) placeholders
      (declared.attributes.any (isHelper imports .body)) name.text declared.ty = role := by
  have unmarked (lacks : ¬declared.IsMarked imports) :
      declared.attributes.any (isHelper imports .body) = false := by
    rwa [← Parameter.any_isHelper_iff, Bool.not_eq_true] at lacks
  have value (lacks : ∀ optional, ¬IsToken imports declared.ty optional) :
      tokenType? imports declared.ty = none :=
    Option.eq_none_iff_forall_ne_some.mpr fun optional found =>
      lacks optional (tokenType?_eq_some_iff.mp found)
  cases plays with
  | route taken => simp [roleOf, taken]
  | body free marked => simp [roleOf, free, Parameter.any_isHelper_iff.mpr marked]
  | cancellation optional free lacks token =>
    simp [roleOf, free, unmarked lacks, tokenType?_eq_some_iff.mpr token]
  | composite optional item symbols free lacks other struct =>
    simp [roleOf, free, unmarked lacks, value other, queryRole,
      compositeFields?_eq_some_iff.mpr ⟨item, struct⟩, fieldKey]
  | single free lacks other plain =>
    have none : compositeFields? imports (Symbols.ofUnits units) declared.ty = none := by
      refine Option.eq_none_iff_forall_ne_some.mpr fun found known => ?_
      obtain ⟨item, struct⟩ := compositeFields?_eq_some_iff.mp known
      exact plain _ item _ struct
    simp [roleOf, free, unmarked lacks, value other, queryRole, none]

/-- Every parameter plays some part. -/
theorem exists_plays (units : List SourceUnit) (imports : Imports) (placeholders : List String)
    (declared : Parameter) (name : Ident) :
    ∃ role, Plays units imports placeholders declared name role := by
  by_cases taken : name.text ∈ placeholders
  · exact ⟨_, .route taken⟩
  by_cases marked : declared.IsMarked imports
  · exact ⟨_, .body taken marked⟩
  by_cases token : ∃ optional, IsToken imports declared.ty optional
  · obtain ⟨optional, token⟩ := token
    exact ⟨_, .cancellation optional taken marked token⟩
  by_cases struct : ∃ optional item symbols,
      IsStruct units imports declared.ty optional item symbols
  · obtain ⟨optional, item, symbols, struct⟩ := struct
    exact ⟨_, .composite optional item symbols taken marked (not_exists.mp token) struct⟩
  · exact ⟨_, .single taken marked (not_exists.mp token) fun optional item symbols held =>
      struct ⟨optional, item, symbols, held⟩⟩

/-- The part that a parameter is given is exactly the one that it plays. -/
theorem roleOf_eq_iff :
    roleOf imports (Symbols.ofUnits units) placeholders
        (declared.attributes.any (isHelper imports .body)) name.text declared.ty = role ↔
      Plays units imports placeholders declared name role := by
  obtain ⟨played, plays⟩ := exists_plays units imports placeholders declared name
  exact ⟨fun same => same ▸ plays.roleOf_eq ▸ plays, Plays.roleOf_eq⟩

end

/-- Plain parameters are bound in order, each as the part that it plays. -/
theorem bindings_play {units : List SourceUnit} {imports : Imports} {placeholders : List String}
    {parameters : List Parameter}
    (named : ∀ declared ∈ parameters, ∃ name, declared.IsNamed name) :
    List.Forall₂
      (fun declared bound => declared.IsNamed bound.parameter ∧
        ∀ role, bound.role = role ↔
          Plays units imports placeholders declared bound.parameter role)
      parameters (parameters.filterMap (binding? imports (Symbols.ofUnits units) placeholders)) := by
  induction parameters with
  | nil => exact .nil
  | cons declared rest ih =>
    obtain ⟨name, plain⟩ := named declared (by simp)
    rw [List.filterMap_cons, binding?, Parameter.plainName?_eq_some_iff.mpr plain]
    exact .cons ⟨plain, fun role => roleOf_eq_iff⟩
      (ih fun declared inside => named declared (List.mem_cons_of_mem _ inside))

/-! ### References and parentheses -/

/-- The second type has one more reference or pair of parentheses than the first, around all of it
or around the argument of an option. -/
inductive Wraps : Ty → Ty → Prop
  | reference (lifetime : Option Ident) (mutable : Bool) (ty : Ty) :
      Wraps ty (.reference lifetime mutable ty)
  | paren (ty : Ty) : Wraps ty (.paren ty)
  | underReference (lifetime : Option Ident) (mutable : Bool) {inner inner' : Ty}
      (wraps : Wraps inner inner') :
      Wraps (.reference lifetime mutable inner) (.reference lifetime mutable inner')
  | underParen {inner inner' : Ty} (wraps : Wraps inner inner') :
      Wraps (.paren inner) (.paren inner')
  | argument (applied : Applied) (option : applied.names ∈ optionNames) {inner inner' : Ty}
      (wraps : Wraps inner inner') :
      Wraps (.path (applied.path [.type inner])) (.path (applied.path [.type inner']))

theorem Wraps.path?_eq {ty ty' : Ty} (wraps : Wraps ty ty') :
    (path? ty).map spelling = (path? ty').map spelling := by
  induction wraps with
  | reference => rfl
  | paren => rfl
  | underReference _ _ _ ih => exact ih
  | underParen _ ih => exact ih
  | argument applied => exact congrArg some (applied.spelling_path ..)

/-- What a type is judged by is written alike with more references and parentheses. -/
theorem Wraps.judged?_eq {ty ty' : Ty} (wraps : Wraps ty ty') :
    (judged? ty).map (Prod.map id spelling) = (judged? ty').map (Prod.map id spelling) := by
  induction wraps with
  | reference => rfl
  | paren => rfl
  | underReference _ _ _ ih => exact ih
  | underParen _ ih => exact ih
  | argument applied option wraps =>
    have judged (inner : Ty) :
        judged? (.path (applied.path [.type inner])) = (path? inner).map (true, ·) := by
      change (match optionArgument? _ with | some _ => _ | none => _) = _
      rw [optionArgument?_eq_some_iff.mpr ⟨applied, option, rfl⟩]
    rw [judged, judged, Option.map_map, Option.map_map]
    have same := congrArg (Option.map (Prod.mk true)) wraps.path?_eq
    rwa [Option.map_map, Option.map_map] at same

/-- What only depends on how the path is written that a type is judged by, stays the same. -/
theorem Wraps.bind_judged? {ty ty' : Ty} (wraps : Wraps ty ty') {f : Bool × Path → Option β}
    (respects : ∀ optional path path', spelling path = spelling path' →
      f (optional, path) = f (optional, path')) :
    (judged? ty).bind f = (judged? ty').bind f := by
  have same := wraps.judged?_eq
  cases one : judged? ty with
  | none =>
    rw [one, Option.map_none, eq_comm, Option.map_eq_none_iff] at same
    rw [same]
  | some judged =>
    rw [one, Option.map_some, eq_comm, Option.map_eq_some_iff] at same
    obtain ⟨⟨optional, path⟩, two, same⟩ := same
    obtain ⟨rfl, spelled⟩ := Prod.mk.inj same
    rw [two]
    exact respects _ _ _ spelled.symm

/-- More references and parentheses make no difference to the part of a parameter. -/
theorem Wraps.roleOf_eq {ty ty' : Ty} (wraps : Wraps ty ty') (imports : Imports)
    (symbols : Symbols) (placeholders : List String) (isBody : Bool) (name : String) :
    roleOf imports symbols placeholders isBody name ty =
      roleOf imports symbols placeholders isBody name ty' := by
  have token : tokenType? imports ty = tokenType? imports ty' := by
    rw [tokenType?_eq, tokenType?_eq]
    refine wraps.bind_judged? fun optional path path' same => ?_
    simp only [knownType?_congr same]
  have fields : compositeFields? imports symbols ty = compositeFields? imports symbols ty' := by
    rw [compositeFields?_eq, compositeFields?_eq]
    refine wraps.bind_judged? fun optional path path' same => ?_
    simp only [typeCandidates_congr same]
  simp only [roleOf, queryRole, token, fields]

/-- The second input is the first, with references and parentheses added to its type. -/
inductive WrapsInput : Input → Input → Prop
  | receiver (taken : Source.Receiver) : WrapsInput (.receiver taken) (.receiver taken)
  | typed (attributes : Source.Attributes) (pattern : Source.Pattern) {ty ty' : Ty}
      (wraps : Relation.ReflTransGen Wraps ty ty') :
      WrapsInput (.typed attributes pattern ty) (.typed attributes pattern ty')

theorem roleOf_eq_of_wraps {ty ty' : Ty} (wraps : Relation.ReflTransGen Wraps ty ty')
    (imports : Imports) (symbols : Symbols) (placeholders : List String) (isBody : Bool)
    (name : String) :
    roleOf imports symbols placeholders isBody name ty =
      roleOf imports symbols placeholders isBody name ty' := by
  induction wraps with
  | refl => rfl
  | tail _ last ih => rw [ih, last.roleOf_eq]

theorem bindingsOf_eq_of_wraps {inputs inputs' : List Input}
    (wraps : List.Forall₂ WrapsInput inputs inputs') (imports : Imports) (symbols : Symbols)
    (placeholders : List String) (body : Option String) :
    bindingsOf imports symbols placeholders body inputs =
      bindingsOf imports symbols placeholders body inputs' := by
  induction wraps generalizing body with
  | nil => rfl
  | cons wraps rest ih =>
    cases wraps with
    | receiver taken => exact ih body
    | typed attributes pattern wraps =>
      simp only [bindingsOf, ih, roleOf_eq_of_wraps wraps]

/-- The method with other inputs. -/
def withInputs (declared : Method) (inputs : List Input) : Method :=
  { declared with signature := { declared.signature with inputs } }

theorem receiver?_eq_of_wraps {declared : Method} {inputs : List Input}
    (wraps : List.Forall₂ WrapsInput declared.signature.inputs inputs) :
    (withInputs declared inputs).signature.receiver? = declared.signature.receiver? := by
  unfold Source.Signature.receiver? withInputs
  generalize declared.signature.inputs = given at wraps
  cases wraps with
  | nil => rfl
  | cons first rest => cases first <;> rfl

/-- Each parameter of an understood method is bound in its place as the part that it plays by
itself, and references and parentheses around its type or the argument of an option change no
binding. -/
theorem method_roles {units : List SourceUnit} {imports : Imports} {declared : Method}
    {definition : MethodDefinition}
    (done : method imports (Symbols.ofUnits units) declared = .ok definition) :
    List.Forall₂
      (fun parameter binding => parameter.IsNamed binding.parameter ∧
        ∀ role, binding.role = role ↔ Plays units imports definition.route.placeholders parameter
          binding.parameter role)
      (parametersOf declared.signature.inputs) definition.bindings ∧
    ∀ inputs, List.Forall₂ WrapsInput declared.signature.inputs inputs → ∃ other,
      method imports (Symbols.ofUnits units) (withInputs declared inputs) = .ok other ∧
        other.bindings = definition.bindings := by
  have parts := method_understood done
  constructor
  · obtain ⟨sound, bound⟩ := ((bindingsOf_exact imports (Symbols.ofUnits units) _ _).ok _).mp
      parts.bindings
    rw [bound]
    exact bindings_play sound.named
  · intro inputs wraps
    have receiver : (withInputs declared inputs).signature.receiver?.isSome = true := by
      rw [receiver?_eq_of_wraps wraps]
      exact parts.receiver
    have bound : bindingsOf imports (Symbols.ofUnits units) definition.route.placeholders none
        (withInputs declared inputs).signature.inputs = .ok definition.bindings :=
      (bindingsOf_eq_of_wraps wraps ..).symm.trans parts.bindings
    exact ⟨_, method_of_parts parts.call receiver bound parts.returns, rfl⟩

/-! ### A method with a filter -/

/-- A plain parameter. -/
def plainInput (name : String) (ty : Ty) : Input :=
  .typed [] (.ident false false (.plain name) none) ty

/-- A method `#[restgen::get(..)] fn files(&self, ..);` for a template and parameters. -/
def filesMethod (template : String) (parameters : List Input) : Method where
  attributes := [⟨false, ⟨false, [⟨.plain "restgen", .none⟩, ⟨.plain "get", .none⟩]⟩,
    .list .paren [.literal template]⟩]
  visibility := .inherited
  isDefault := false
  signature :=
    { isConst := false
      isAsync := false
      safety := none
      linkage := none
      name := .plain "files"
      generics := ⟨[], false, none⟩
      inputs := .receiver ⟨[], some none, false, none⟩ :: parameters
      comma := false
      variadic := none
      output := none }
  body := none

/-- The definition that such a method is understood as. -/
def filesDefinition (declared : Method) (route : Route) (bindings : List Binding) :
    MethodDefinition :=
  ⟨"files", .get, route, bindings, ⟨none, false, .blocking, .none⟩, declared.signature⟩

/-- The unit `pub struct Filter { pub size: u64 }`. -/
def filterUnit : SourceUnit :=
  ⟨"a.rs", [], ⟨[], [.struct ⟨[], .all, .plain "Filter", ⟨[], false, none⟩,
    .named [⟨[], .all, some (.plain "size"), namedTy "u64" []⟩] false⟩]⟩⟩

/-- The inputs `name: &str, filter: T` for a type. -/
def filterInputs (ty : Ty) : List Input :=
  [plainInput "name" (.reference none false (namedTy "str" [])), plainInput "filter" ty]

/-- The method with the filter `Option<Filter>`. -/
def filterMethod : Method :=
  filesMethod "\"/files/\x7bname\x7d\"" (filterInputs (namedTy "Option" [namedTy "Filter" []]))

def filterDefinition : MethodDefinition :=
  filesDefinition filterMethod
    ⟨"/files/\x7bname\x7d", [.literal "/files/", .placeholder "name"]⟩
    [⟨.plain "name", .route "name"⟩,
      ⟨.plain "filter", .query [⟨"size", .optionalField (.plain "size")⟩] true⟩]

/-- The parameters of the method are its name and a filter with one field, also behind references
and parentheses. -/
theorem method_roles_filter :
    method ⟨[], [], []⟩ (Symbols.ofUnits [filterUnit]) filterMethod =
        .ok filterDefinition ∧
      List.Forall₂
        (fun parameter binding => parameter.IsNamed binding.parameter ∧
          ∀ role, binding.role = role ↔ Plays [filterUnit] ⟨[], [], []⟩
            filterDefinition.route.placeholders parameter binding.parameter role)
        (parametersOf filterMethod.signature.inputs) filterDefinition.bindings ∧
      ∃ other, method ⟨[], [], []⟩ (Symbols.ofUnits [filterUnit])
          (withInputs filterMethod (.receiver ⟨[], some none, false, none⟩ ::
            filterInputs (.reference none false (.paren
              (namedTy "Option" [.reference none false (namedTy "Filter" [])]))))) = .ok other ∧
        other.bindings = filterDefinition.bindings := by
  have done : method ⟨[], [], []⟩ (Symbols.ofUnits [filterUnit]) filterMethod =
      .ok filterDefinition := rfl
  refine ⟨done, (method_roles done).1, (method_roles done).2 _ ?_⟩
  refine .cons (.receiver _) (.cons (.typed _ _ .refl) (.cons (.typed _ _ ?_) .nil))
  refine .tail (.tail (.single (.argument ⟨false, [], .plain "Option", false, false⟩ ?_
    (.reference none false _))) (.paren _)) (.reference none false _)
  decide

/-- The unit `pub struct Option<T> { pub size: T }`. -/
def optionUnit : SourceUnit :=
  ⟨"a.rs", [], ⟨[], [.struct ⟨[], .all, .plain "Option",
    ⟨[.type [] (.plain "T") [] false none], false, none⟩,
    .named [⟨[], .all, some (.plain "size"), namedTy "T" []⟩] false⟩]⟩⟩

/-- The method `#[restgen::get("/files")] fn files(&self, filter: Option<u64>);`. -/
def optionMethod : Method :=
  filesMethod "\"/files\"" [plainInput "filter" (namedTy "Option" [namedTy "u64" []])]

/-- A type written as an option is judged by its argument alone, also where its own path is that of
a struct. -/
theorem option_struct_single :
    method ⟨[], [], []⟩ (Symbols.ofUnits [optionUnit]) optionMethod =
        .ok (filesDefinition optionMethod ⟨"/files", [.literal "/files"]⟩
          [⟨.plain "filter", .query [⟨"filter", .direct⟩] false⟩]) ∧
      ∃ path item, IsPath (namedTy "Option" [namedTy "u64" []]) path ∧
        Symbols.Finds [optionUnit] (Imports.typeCandidates ⟨[], [], []⟩ path) item
          [⟨.plain "size", "size"⟩] := by
  have found : (Symbols.ofUnits [optionUnit]).find? [["crate", "Option"]] =
      some [⟨.plain "size", "size"⟩] := rfl
  obtain ⟨item, finds⟩ := Symbols.finds_of_find? found
  exact ⟨rfl, _, item, .path _, finds⟩

end Lowering

end Endpoint
