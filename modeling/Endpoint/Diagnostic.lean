import Endpoint.Identity
import Endpoint.Json

/-!
What is wrong with a declaration or one of its members, as reported. A diagnostic never stops a
run: what it speaks of is left out.
-/

namespace Endpoint

inductive Problem
  | duplicateClientMarker
  | genericDeclaration
  | unsupportedTraitItem (item : String)
  | clientNameCollision (name owner : String)
  | invalidClientArguments (reason : String)
  | missingVerb
  | duplicateVerb (verbs : String)
  | foreignMarker (path : String)
  | invalidRouteArgument (marker : String)
  | malformedRoute (route reason : String)
  | missingReceiver
  | unsupportedParameter (parameter : String)
  | unboundPlaceholder (placeholder : String)
  | unusedRouteParameter (parameter : String)
  | duplicateBody (first second : String)
  | conflictingRoles (parameter : String)
  | duplicateCancellation
  | cancellationNotTrailing (parameter : String)
  | duplicateQueryKey (key : String)
  | illDefinedReturn (reason : String)
  | missingErrorChannel
  | nonUnitVariant (variant : String)
  | invalidAlias (variant : String)
  | duplicateAlias (name : String)
deriving DecidableEq, Repr, Inhabited

namespace Problem

/-- The tag of the kind of problem. -/
def kind : Problem → String
  | .duplicateClientMarker => "duplicate_client_marker"
  | .genericDeclaration => "generic_declaration"
  | .unsupportedTraitItem _ => "unsupported_trait_item"
  | .clientNameCollision .. => "client_name_collision"
  | .invalidClientArguments _ => "invalid_client_arguments"
  | .missingVerb => "missing_verb"
  | .duplicateVerb _ => "duplicate_verb"
  | .foreignMarker _ => "foreign_marker"
  | .invalidRouteArgument _ => "invalid_route_argument"
  | .malformedRoute .. => "malformed_route"
  | .missingReceiver => "missing_receiver"
  | .unsupportedParameter _ => "unsupported_parameter"
  | .unboundPlaceholder _ => "unbound_placeholder"
  | .unusedRouteParameter _ => "unused_route_parameter"
  | .duplicateBody .. => "duplicate_body"
  | .conflictingRoles _ => "conflicting_roles"
  | .duplicateCancellation => "duplicate_cancellation"
  | .cancellationNotTrailing _ => "cancellation_not_trailing"
  | .duplicateQueryKey _ => "duplicate_query_key"
  | .illDefinedReturn _ => "ill_defined_return"
  | .missingErrorChannel => "missing_error_channel"
  | .nonUnitVariant _ => "non_unit_variant"
  | .invalidAlias _ => "invalid_alias"
  | .duplicateAlias _ => "duplicate_alias"

/-- The particulars of the problem, by name. -/
def fields : Problem → List (String × String)
  | .unsupportedTraitItem item => [("item", item)]
  | .clientNameCollision name owner => [("name", name), ("owner", owner)]
  | .invalidClientArguments reason => [("message", reason)]
  | .duplicateVerb verbs => [("verbs", verbs)]
  | .foreignMarker path => [("path", path)]
  | .invalidRouteArgument marker => [("marker", marker)]
  | .malformedRoute route reason => [("route", route), ("reason", reason)]
  | .unsupportedParameter parameter | .unusedRouteParameter parameter
  | .conflictingRoles parameter | .cancellationNotTrailing parameter =>
    [("parameter", parameter)]
  | .unboundPlaceholder placeholder => [("placeholder", placeholder)]
  | .duplicateBody first second => [("first", first), ("second", second)]
  | .duplicateQueryKey key => [("key", key)]
  | .illDefinedReturn reason => [("reason", reason)]
  | .nonUnitVariant variant | .invalidAlias variant => [("variant", variant)]
  | .duplicateAlias name => [("alias", name)]
  | .duplicateClientMarker | .genericDeclaration | .missingVerb | .missingReceiver
  | .duplicateCancellation | .missingErrorChannel => []

def message : Problem → String
  | .duplicateClientMarker => "trait carries #[api_client] more than once"
  | .genericDeclaration => "generic traits are not supported"
  | .unsupportedTraitItem item =>
    s!"trait item `{item}` cannot be implemented by a generated client"
  | .clientNameCollision name owner =>
    s!"client name `{name}` is already generated in this module by `{owner}`"
  | .invalidClientArguments reason => s!"invalid #[api_client] arguments: {reason}"
  | .missingVerb => "method has no verb marker (#[get], #[post], #[put] or #[delete])"
  | .duplicateVerb verbs => s!"method has more than one verb marker: {verbs}"
  | .foreignMarker path => s!"`{path}` is not a restgen marker"
  | .invalidRouteArgument marker => s!"route of #[{marker}] must be a single string literal"
  | .malformedRoute route reason => s!"malformed route template `{route}`: {reason}"
  | .missingReceiver => "method needs a `self` receiver"
  | .unsupportedParameter parameter => s!"parameter `{parameter}` must be a plain identifier"
  | .unboundPlaceholder placeholder =>
    s!"placeholder `\x7b{placeholder}\x7d` has no matching parameter"
  | .unusedRouteParameter parameter =>
    s!"route parameter `{parameter}` has no matching placeholder"
  | .duplicateBody first second =>
    s!"more than one #[body] parameter (`{first}` and `{second}`)"
  | .conflictingRoles parameter =>
    s!"parameter `{parameter}` names a route placeholder and is marked #[body]"
  | .duplicateCancellation => "more than one cancellation parameter"
  | .cancellationNotTrailing parameter =>
    s!"cancellation parameter `{parameter}` must be the last parameter"
  | .duplicateQueryKey key => s!"query key `{key}` is produced more than once"
  | .illDefinedReturn reason => s!"unsupported return type: {reason}"
  | .missingErrorChannel =>
    "method returns a value but has no error channel; return `Result<_, E>` or `Task`"
  | .nonUnitVariant variant =>
    s!"variant `{variant}` carries data; only unit variants can be aliased"
  | .invalidAlias variant => s!"variant `{variant}` has an empty or malformed alias"
  | .duplicateAlias name => s!"alias `{name}` is used by more than one variant"

end Problem

/-- A problem of a declaration, or of the member of it that is named. -/
structure Diagnostic where
  subject : Identity
  member : Option String
  problem : Problem
deriving DecidableEq, Repr, Inhabited

namespace Diagnostic

def ofDeclaration (subject : Identity) (problem : Problem) : Diagnostic :=
  ⟨subject, none, problem⟩

def ofMember (subject : Identity) (member : String) (problem : Problem) : Diagnostic :=
  ⟨subject, some member, problem⟩

/-- The diagnostic on one line. -/
def text (diagnostic : Diagnostic) : String :=
  match diagnostic.member with
  | some member => s!"{diagnostic.subject.text}::{member}: {diagnostic.problem.message}"
  | none => s!"{diagnostic.subject.text}: {diagnostic.problem.message}"

/-- The entries of the diagnostic in JSON, in the order in which they are written. -/
def entries (diagnostic : Diagnostic) : List (String × Json) :=
  [("subject", .text diagnostic.subject.text), ("member", .ofOption .text diagnostic.member),
    ("kind", .text diagnostic.problem.kind)] ++
    (diagnostic.problem.fields.map fun field => (field.1, .text field.2)) ++
    [("message", .text diagnostic.problem.message)]

def toJson (diagnostic : Diagnostic) : Json := .record diagnostic.entries

end Diagnostic

end Endpoint
