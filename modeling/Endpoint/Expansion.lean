import Endpoint.Source.Literal
import Endpoint.Source.Phrase
import Endpoint.Vocabulary

/-!
What the markers do to the item that they stand on: the item stays as it is but for the helper
markers inside it, and what is wrong is said by a compile error in its place.
-/

namespace Endpoint.Expansion

open Source (Associated Attribute Attributes DataType Enum Field Input Method Parser Token Tokens
  Trait Variant)

/-! ### Helper markers -/

/-- The helper marker that an attribute names. A bare name counts for itself; a longer path must
lead into the vocabulary. -/
def helperMarker? (held : Attribute) : Option Marker :=
  let marker := match held.path.names with
    | [single] => Marker.ofName? single
    | path => Marker.ofPath? path
  marker.filter Marker.isHelper

/-- Whether the attribute is a helper marker for such a place. -/
def isHelperFor (target : MarkerTarget) (held : Attribute) : Bool :=
  (helperMarker? held).map Marker.target == some target

/-- The attributes without the helper markers for such a place. -/
def withoutHelpers (target : MarkerTarget) (attributes : Attributes) : Attributes :=
  attributes.filter fun held => !isHelperFor target held

def inputWithoutHelpers : Input → Input
  | .typed attributes pattern ty => .typed (withoutHelpers .parameter attributes) pattern ty
  | input => input

def methodWithoutHelpers (declared : Method) : Method :=
  { declared with
    attributes := withoutHelpers .method declared.attributes
    signature := { declared.signature with
      inputs := declared.signature.inputs.map inputWithoutHelpers } }

def memberWithoutHelpers : Associated → Associated
  | .method declared => .method (methodWithoutHelpers declared)
  | member => member

/-- The trait without the helper markers of its methods and their parameters. -/
def traitWithoutHelpers (item : Trait) : Trait :=
  { item with items := item.items.map memberWithoutHelpers }

def variantWithoutHelpers (variant : Variant) : Variant :=
  { variant with attributes := withoutHelpers .member variant.attributes }

/-- The enum without the helper markers of its variants. -/
def enumWithoutHelpers (item : Enum) : Enum :=
  { item with variants := item.variants.map variantWithoutHelpers }

/-! ### Arguments -/

/-- The alias that an attribute gives, as written and as a value. -/
def aliasValue (held : Attribute) : Except String (Token × String) :=
  match held.parseArguments Parser.stringLiteral with
  | .ok (token, value) =>
    if value.isEmpty then .error "alias cannot be empty" else .ok (token, value)
  | .error fault => .error fault.message

/-- Reads an argument of the client marker: `name` with a string that is a name. -/
def clientArgument : Parser String := do
  let key ← Parser.ident
  if key.written != "name" then
    Parser.refuse s!"unknown api_client attribute: `{key.written}`. Expected `name`"
  Parser.punct "="
  let (_, value) ← Parser.stringLiteral
  if Source.isNameText value then return value
  else Parser.refuse s!"`{value}` is not a valid client name"

/-- Reads the arguments of the client marker, which may have commas behind them; the last name
counts. -/
def clientArgumentsFor : Nat → Option String → Parser (Option String)
  | 0, name => return name
  | fuel + 1, name => do
    if ← Parser.atEnd then return name
    let name ← clientArgument
    let _ ← Parser.punct? ","
    clientArgumentsFor fuel (some name)

/-- The name that the arguments of the client marker give. -/
def clientArguments (tokens : Tokens) : Except String (Option String) :=
  match Parser.whole (clientArgumentsFor (tokens.length + 1) none) tokens with
  | .ok name => .ok name
  | .error fault => .error fault.message

/-! ### Expansions -/

/-- A compile error with the text. -/
def compileError (text : String) : Tokens :=
  Token.phrase ":: core :: compile_error !" ++ [.brace [Token.string text]]

/-- The tokens, or a compile error. -/
def orCompileError : Except String Tokens → Tokens
  | .ok tokens => tokens
  | .error text => compileError text

/-- The item that the client marker stands on. -/
def ofTrait (arguments item : Tokens) : Except String Trait := do
  let _ ← clientArguments arguments
  match item.parse Trait.rule with
  | .ok held => return held
  | .error _ => throw "#[api_client] can only be applied to traits"

/-- What the client marker leaves. -/
def client (arguments item : Tokens) : Tokens :=
  orCompileError ((ofTrait arguments item).map fun held => (traitWithoutHelpers held).tokens)

/-- Checks the aliases of a variant. -/
def checkAliases (attributes : Attributes) : Except String Unit :=
  attributes.forM fun held =>
    if helperMarker? held == some .alias then (aliasValue held).map fun _ => () else .ok ()

/-- The item that the serializer marker stands on. -/
def ofEnum (arguments item : Tokens) : Except String Enum := do
  if !arguments.isEmpty then throw "#[generate_serializer] does not take arguments"
  match item.parse Enum.rule with
  | .ok held =>
    held.variants.forM fun variant => checkAliases variant.attributes
    return held
  | .error _ => throw "#[generate_serializer] can only be applied to enums"

/-- What the serializer marker leaves. -/
def serializer (arguments item : Tokens) : Tokens :=
  orCompileError ((ofEnum arguments item).map fun held => (enumWithoutHelpers held).tokens)

/-- Checks the aliases of a field, which here are known by a bare name only. -/
def checkField (field : Field) : Except String Unit :=
  field.attributes.forM fun held =>
    if !held.path.leading && held.path.names == ["alias"] then
      (aliasValue held).map fun _ => ()
    else .ok ()

/-- Checks a type whose fields are to be the parameters of a query. -/
def checkQueryParameters (item : Tokens) : Except String Unit :=
  match item.parse Source.Grammar.dataType with
  | .error fault => .error fault.message
  | .ok (.struct held) =>
    match held.fields with
    | .named fields _ => fields.forM checkField
    | _ => .error "QueryParams can only be derived on structs with named fields"
  | .ok _ => .error "QueryParams can only be derived on structs"

/-- What is derived for the parameters of a query: nothing but a compile error. -/
def queryParameters (item : Tokens) : Tokens :=
  orCompileError ((checkQueryParameters item).map fun _ => [])

/-- A helper marker outside of its host: a compile error in front of the item. -/
def misplaced (marker : Marker) (item : Tokens) : Tokens :=
  compileError s!"#[{marker.name}] is only valid on a method inside an #[api_client] trait" ++ item

end Endpoint.Expansion
