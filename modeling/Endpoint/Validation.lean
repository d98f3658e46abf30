import Endpoint.Definition
import Endpoint.Diagnostic

/-!
Checks of a definition as a whole. A method whose parts do not fit together is removed with a
diagnostic and does not affect the others.
-/

namespace Endpoint

namespace Role

def placeholder? : Role → Option String
  | .route placeholder => some placeholder
  | _ => none

def isBody : Role → Bool
  | .body => true
  | _ => false

def isCancellation : Role → Bool
  | .cancellation _ => true
  | _ => false

/-- The keys that a parameter adds to the query. -/
def keys : Role → List QueryKey
  | .query keys _ => keys
  | _ => []

end Role

/-- The first member that has come before. -/
def firstRepeated? {α : Type} [BEq α] : List α → List α → Option α
  | _, [] => none
  | seen, one :: rest =>
    if seen.contains one then some one else firstRepeated? (one :: seen) rest

namespace MethodDefinition

/-- The placeholders that parameters are bound to. -/
def boundPlaceholders (method : MethodDefinition) : List String :=
  method.bindings.filterMap (·.role.placeholder?)

/-- The first route parameter that has no placeholder of its own. -/
def unusedParameter? (placeholders : List String) : List String → List Binding → Option String
  | _, [] => none
  | seen, binding :: rest =>
    match binding.role.placeholder? with
    | some name =>
      if !placeholders.contains name || seen.contains name then some binding.name
      else unusedParameter? placeholders (name :: seen) rest
    | none => unusedParameter? placeholders seen rest

def checkRoute (method : MethodDefinition) : Except Problem Unit :=
  let placeholders := method.route.placeholders
  match placeholders.find? fun name => !method.boundPlaceholders.contains name with
  | some name => .error (.unboundPlaceholder name)
  | none =>
    match unusedParameter? placeholders [] method.bindings with
    | some name => .error (.unusedRouteParameter name)
    | none => .ok ()

def checkBody (method : MethodDefinition) : Except Problem Unit :=
  match (method.bindings.filter (·.role.isBody)).map Binding.name with
  | first :: second :: _ => .error (.duplicateBody first second)
  | _ => .ok ()

def checkCancellation (method : MethodDefinition) : Except Problem Unit :=
  match method.bindings.filter (·.role.isCancellation) with
  | [] => .ok ()
  | [binding] =>
    if (method.bindings.getLast?.map fun last => last.role.isCancellation).getD false then .ok ()
    else .error (.cancellationNotTrailing binding.name)
  | _ => .error .duplicateCancellation

/-- The keys of the query in order. -/
def queryKeys (method : MethodDefinition) : List QueryKey :=
  method.bindings.flatMap (·.role.keys)

def checkKeys (method : MethodDefinition) : Except Problem Unit :=
  match firstRepeated? [] (method.queryKeys.map QueryKey.key) with
  | some key => .error (.duplicateQueryKey key)
  | none => .ok ()

def ErrorChannel.isNone : ErrorChannel → Bool
  | .none => true
  | _ => false

def checkErrors (method : MethodDefinition) : Except Problem Unit :=
  if method.returns.value.isSome && ErrorChannel.isNone method.returns.error then
    .error .missingErrorChannel
  else .ok ()

/-- Whether the parts of a method fit together, or the first way in which they do not. -/
def validate (method : MethodDefinition) : Except Problem Unit := do
  method.checkRoute
  method.checkBody
  method.checkCancellation
  method.checkKeys
  method.checkErrors

def isValid (method : MethodDefinition) : Bool :=
  match method.validate with
  | .ok _ => true
  | .error _ => false

/-- The diagnostic of a method whose parts do not fit together. -/
def diagnostic? (identity : Identity) (method : MethodDefinition) : Option Diagnostic :=
  match method.validate with
  | .ok _ => none
  | .error problem => some (.ofMember identity method.name problem)

end MethodDefinition

/-- The client without the methods whose parts do not fit together, and their diagnostics. -/
def ClientDefinition.validate (client : ClientDefinition) :
    ClientDefinition × List Diagnostic :=
  ({ client with methods := client.methods.filter MethodDefinition.isValid },
    client.methods.filterMap (MethodDefinition.diagnostic? client.identity))

/-- The diagnostics of members whose alias is empty or has come before. -/
def memberDiagnostics (identity : Identity) :
    List String → List EnumerationMember → List Diagnostic
  | _, [] => []
  | seen, member :: rest =>
    let name := member.variant.written
    if member.wireName.isEmpty then
      .ofMember identity name (.invalidAlias name) :: memberDiagnostics identity seen rest
    else if seen.contains member.wireName then
      .ofMember identity name (.duplicateAlias member.wireName) ::
        memberDiagnostics identity seen rest
    else memberDiagnostics identity (member.wireName :: seen) rest

/-- What is wrong with the aliases of an enumeration. -/
def Enumeration.problems (enumeration : Enumeration) : List Diagnostic :=
  memberDiagnostics enumeration.identity [] enumeration.members

end Endpoint
