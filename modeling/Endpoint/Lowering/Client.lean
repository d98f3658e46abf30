import Endpoint.Config
import Endpoint.Lowering.Method
import Endpoint.Scan

/-!
Understanding a trait as a client. A method that has no meaning is left out with a diagnostic;
only a problem of the trait itself rejects all of it.
-/

namespace Endpoint

/-- What came of a declaration: its definition unless it was rejected, and the diagnostics. -/
structure Lowered (α : Type) where
  definition : Option α
  diagnostics : List Diagnostic

/-- A declaration that was rejected. -/
def Lowered.rejected {α : Type} (diagnostics : List Diagnostic) : Lowered α :=
  ⟨none, diagnostics⟩

namespace Lowering

open Source (Associated Attribute Expr Generics Ident NamedValue Trait)

/-- Whether there are parameters or conditions. -/
def isGeneric (generics : Generics) : Bool :=
  !generics.parameters.isEmpty ||
    match generics.clause with
    | some clause => !clause.conditions.isEmpty
    | none => false

/-! ### The name of the client -/

/-- The first attribute that is the client marker. -/
def clientMarker? (imports : Imports) (item : Trait) : Option Attribute :=
  item.attributes.find? fun held => imports.marker? held.path == some .client

/-- The name that the arguments give, the last one if there are several. -/
def nameOfArguments : Option String → List NamedValue → Except String (Option String)
  | name, [] => .ok name
  | _, argument :: rest =>
    if argument.path.ident?.map Ident.written != some "name" then
      .error ("unknown argument `" ++ Source.Token.listText argument.path.tokens ++
        "`, expected `name`")
    else
      match argument.value.stringValue? with
      | none => .error "`name` must be a string literal"
      | some value =>
        if Source.isNameText value then nameOfArguments (some value) rest
        else .error s!"`{value}` is not a valid client name"

/-- The arguments of the client marker. -/
def clientArguments (tokens : Source.Tokens) : Except Source.Fault (List NamedValue) :=
  tokens.parse fun g => Prod.fst <$> Source.Parser.commasToEnd (NamedValue.rule g)

/-- The name that a client marker gives, or what is wrong with its arguments. -/
def markerName (held : Attribute) : Except String (Option String) :=
  match held.content with
  | .none => .ok none
  | .value _ => .error "expected `#[api_client]` or `#[api_client(name = \"..\")]`"
  | .list _ inner =>
    match clientArguments inner with
    | .error fault => .error fault.message
    | .ok held => nameOfArguments none held

/-- The name that a trait gives its client. -/
def clientName (imports : Imports) (item : Trait) : Except String (Option String) :=
  match clientMarker? imports item with
  | some held => markerName held
  | none => .ok none

/-- Text as an identifier. -/
def identifier (text : String) : Except Failure Ident :=
  match Ident.ofWritten? text with
  | some name => .ok name
  | none => .error (.identifier text)

/-! ### Members of the trait -/

/-- The text of a member that no client can implement. -/
def unsupported? : Associated → Option String
  | .method _ => none
  | .constant held => some held.name.written
  | .alias item => some item.name.written
  | other => some (Source.Token.listText other.tokens)

/-- What came of a member: a method, its problem, or nothing for one with a body. -/
inductive Member
  | method (held : MethodDefinition)
  | problem (name : String) (held : Problem)

/-- What comes of a member of the trait. -/
def member? (imports : Imports) (symbols : Symbols) : Associated → Option Member
  | .method declared =>
    if declared.body.isSome then none
    else
      match method imports symbols declared with
      | .ok definition => some (.method definition)
      | .error problem => some (.problem declared.signature.name.text problem)
  | _ => none

def Member.method? : Member → Option MethodDefinition
  | .method held => some held
  | .problem .. => none

def Member.diagnostic? (identity : Identity) : Member → Option Diagnostic
  | .method _ => none
  | .problem name held => some (.ofMember identity name held)

/-- The client that a trait declares. -/
def client (candidate : Candidate) (item : Trait) (symbols : Symbols) (config : Config) :
    Except Failure (Lowered ClientDefinition) := do
  let identity := candidate.identity
  let imports := candidate.imports
  if isGeneric item.generics then
    return .rejected [.ofDeclaration identity .genericDeclaration]
  match clientName imports item with
  | .error reason => return .rejected [.ofDeclaration identity (.invalidClientArguments reason)]
  | .ok given =>
    let name ← identifier (given.getD (item.name.text ++ config.clientSuffix))
    let refused := item.items.filterMap unsupported?
    if !refused.isEmpty then
      return .rejected (refused.map fun text =>
        .ofDeclaration identity (.unsupportedTraitItem text))
    let members := item.items.filterMap (member? imports symbols)
    return {
      definition := some
        ⟨identity, item.name, name, item.visibility, item.isUnsafe,
          members.filterMap Member.method?⟩
      diagnostics := members.filterMap (Member.diagnostic? identity) }

end Lowering

end Endpoint
