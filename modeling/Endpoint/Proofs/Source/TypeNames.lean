import Endpoint.Source.Declaration

/-!
The names by which a signature refers to types, traits and modules around it. They are what the
type parameters of an implementation can stand in front of. Names of values and fields are not
among them, nor names behind a path sign, which are looked up elsewhere.
-/

namespace Endpoint.Source

/-! ### Tokens kept as they are -/

/-- Whether a `<` behind the token opens arguments or a qualified path, and does not compare. -/
def opensBehind : Option Token → Bool
  | some (.ident _) | some (.literal _) | some (.group ..) => false
  | _ => true

/-- Whether what follows is a path sign. -/
def beginsPathSign : Tokens → Bool
  | .punct ':' true :: .punct ':' _ :: _ => true
  | _ => false

/-- Whether a name behind the token is a lifetime. -/
def isLifetimeBehind : Option Token → Bool
  | some (.punct char _) => char == Text.apostrophe
  | _ => false

/-- Whether a name behind the token is a type that a value is turned into. -/
def isTargetBehind : Option Token → Bool
  | some (.ident word) => word == .plain "as"
  | _ => false

/-- The names of types in tokens, given how many angle brackets are open and the token before:
those that begin a longer path, those inside angle brackets, and those behind `as`. -/
def Token.typeNamesIn (opened : Nat) (before : Option Token) : List Token → List Ident
  | [] => []
  | .ident name :: rest =>
    (if !isLifetimeBehind before &&
        (beginsPathSign rest || opened != 0 || isTargetBehind before) then [name] else []) ++
      Token.typeNamesIn opened (some (.ident name)) rest
  | .punct ':' true :: .punct ':' _ :: .ident name :: rest =>
    Token.typeNamesIn opened (some (.ident name)) rest
  | .punct char joint :: rest =>
    let opened :=
      if char == '<' && (opened != 0 || opensBehind before) then opened + 1
      else if char == '>' then opened - 1
      else opened
    Token.typeNamesIn opened (some (.punct char joint)) rest
  | .literal text :: rest => Token.typeNamesIn opened (some (.literal text)) rest
  | .group delimiter inner :: rest =>
    Token.typeNamesIn opened none inner ++
      Token.typeNamesIn opened (some (.group delimiter [])) rest

/-- The names of types in an expression. -/
def Fragment.typeNames (held : Fragment) : List Ident := Token.typeNamesIn 0 none held.tokens

/-! ### Types -/

mutual

/-- The names that a type refers to. -/
def Ty.typeNames : Ty → List Ident
  | .array element length => element.typeNames ++ length.typeNames
  | .function shape => shape.typeNames
  | .implTrait bounds _ => boundNames bounds
  | .infer | .never => []
  | .invocation ⟨leading, segments⟩ _ inner =>
    (if leading || segments.length ≤ 1 then [] else headNames segments) ++
      Token.typeNamesIn 0 none inner
  | .paren inner => inner.typeNames
  | .path path => path.typeNames
  | .qualified self position ⟨leading, segments⟩ =>
    self.typeNames ++ (if position = 0 || leading then [] else headNames segments) ++
      segmentNames segments
  | .pointer _ target => target.typeNames
  | .reference _ _ target => target.typeNames
  | .slice element => element.typeNames
  | .traitObject _ bounds _ => boundNames bounds
  | .tuple elements _ => tyNames elements
  | .verbatim tokens => Token.typeNamesIn 1 none tokens

def tyNames : List Ty → List Ident
  | [] => []
  | ty :: rest => ty.typeNames ++ tyNames rest

def FunctionTy.typeNames : FunctionTy → List Ident
  | ⟨binder, _, _, inputs, _, _, output⟩ =>
    binderNames binder ++ inputNames inputs ++ outputNames output

def inputNames : List FunctionInput → List Ident
  | [] => []
  | ⟨_, _, ty⟩ :: rest => ty.typeNames ++ inputNames rest

def outputNames : Option Ty → List Ident
  | none => []
  | some ty => ty.typeNames

/-- The first name of a path that does not begin with a path sign, and those in its arguments. -/
def Path.typeNames : Path → List Ident
  | ⟨leading, segments⟩ => (if leading then [] else headNames segments) ++ segmentNames segments

def headNames : List Segment → List Ident
  | [] => []
  | ⟨name, _⟩ :: _ => [name]

def segmentNames : List Segment → List Ident
  | [] => []
  | ⟨_, arguments⟩ :: rest => arguments.typeNames ++ segmentNames rest

def Arguments.typeNames : Arguments → List Ident
  | .none => []
  | .angle _ arguments _ => argumentNames arguments
  | .paren inputs _ output => tyNames inputs ++ outputNames output

def argumentNames : List Argument → List Ident
  | [] => []
  | .lifetime _ :: rest => argumentNames rest
  | .type ty :: rest => ty.typeNames ++ argumentNames rest
  | .constant value :: rest => value.typeNames ++ argumentNames rest
  | .associatedType _ arguments ty :: rest =>
    arguments.typeNames ++ ty.typeNames ++ argumentNames rest
  | .associatedConstant _ arguments value :: rest =>
    arguments.typeNames ++ value.typeNames ++ argumentNames rest
  | .constraint _ arguments bounds _ :: rest =>
    arguments.typeNames ++ boundNames bounds ++ argumentNames rest

def Bound.typeNames : Bound → List Ident
  | .lifetime _ => []
  | .trait _ _ binder path => binderNames binder ++ path.typeNames
  | .capture names _ => names.flatMap (Token.typeNamesIn 1 none)
  | .verbatim tokens => Token.typeNamesIn 1 none tokens

def boundNames : List Bound → List Ident
  | [] => []
  | bound :: rest => bound.typeNames ++ boundNames rest

def binderNames : Option Binder → List Ident
  | none => []
  | some ⟨parameters, _⟩ => parameterNames parameters

def parameterNames : List GenericParameter → List Ident
  | [] => []
  | parameter :: rest => parameter.typeNames ++ parameterNames rest

/-- The names that the bounds, type and default of a parameter refer to. -/
def GenericParameter.typeNames : GenericParameter → List Ident
  | .lifetime .. => []
  | .type _ _ bounds _ default => boundNames bounds ++ outputNames default
  | .constant _ _ ty default =>
    ty.typeNames ++
      match default with
      | some value => value.typeNames
      | none => []

end

/-! ### Signatures -/

/-- The name that a generic parameter declares beside the types; lifetimes are apart from them. -/
def GenericParameter.declaredName? : GenericParameter → Option Ident
  | .lifetime .. => none
  | .type _ name _ _ _ => some name
  | .constant _ name _ _ => some name

def Condition.typeNames : Condition → List Ident
  | .lifetime .. => []
  | .type binder ty bounds _ => binderNames binder ++ ty.typeNames ++ boundNames bounds

/-- The names that generic parameters declare, and those that they and their conditions refer
to. -/
def Generics.typeNames (generics : Generics) : List Ident :=
  generics.parameters.filterMap GenericParameter.declaredName? ++
    parameterNames generics.parameters ++
    match generics.clause with
    | some clause => clause.conditions.flatMap Condition.typeNames
    | none => []

def Input.typeNames : Input → List Ident
  | .receiver taken => outputNames taken.ty
  | .typed _ _ ty => ty.typeNames

/-- The types and generic parameters that a signature names. -/
def Signature.typeNames (signature : Signature) : List Ident :=
  signature.generics.typeNames ++ signature.inputs.flatMap Input.typeNames ++
    outputNames signature.output

end Endpoint.Source
