import Endpoint.Definition
import Endpoint.Json.Entries
import Endpoint.Source.Literal
import Endpoint.Source.Phrase

/-!
The JSON form of definitions, with types and signatures as tokens, and definitions read from a
form that is written by hand, with types and signatures as source text.
-/

namespace Endpoint

open Source (Ident Ty Token Tokens)

/-! ### Writing -/

/-- The tokens as text. -/
def Json.tokens (held : Tokens) : Json := .text (Token.listText held)

def Route.Segment.toJson : Route.Segment → Json
  | .literal text => .record [("literal", .text text)]
  | .placeholder name => .record [("placeholder", .text name)]

def Route.toJson (route : Route) : Json :=
  .record [("raw", .text route.raw),
    ("segments", .list (route.segments.map Route.Segment.toJson)),
    ("placeholders", .texts route.placeholders)]

/-- The word for whether there is a value and whether it is awaited. -/
def Returns.descriptor (returns : Returns) : String :=
  match returns.isAsync, returns.value.isSome with
  | false, false => "Void"
  | false, true => "SyncWithResult"
  | true, false => "AsyncVoid"
  | true, true => "AsyncWithResult"

def Wrapper.name : Wrapper → String
  | .blocking => "Blocking"
  | .asyncFn => "AsyncFn"
  | .task => "Task"
  | .implFuture => "ImplFuture"

def ErrorChannel.name : ErrorChannel → String
  | .none => "None"
  | .result _ => "Result"
  | .builtin => "Builtin"

/-- The type of errors that a channel names. -/
def ErrorChannel.type? : ErrorChannel → Option Ty
  | .result error => some error
  | .none | .builtin => Option.none

/-- A type as its tokens, or null. -/
def Json.type (held : Option Ty) : Json := .ofOption (fun type => .tokens type.tokens) held

def Returns.toJson (returns : Returns) : Json :=
  .record [("descriptor", .text returns.descriptor), ("value", .type returns.value),
    ("async", .bool returns.isAsync), ("wrapper", .text returns.wrapper.name),
    ("error", .text returns.error.name), ("error_type", .type returns.error.type?)]

def QueryKey.toJson (key : QueryKey) : Json :=
  .record (("key", .text key.key) ::
    match key.access with
    | .direct => [("access", .text "direct")]
    | .field name => [("access", .text "field"), ("field", .text name.written)]
    | .optionalField name =>
      [("access", .text "optional_field"), ("field", .text name.written)])

def Role.entries : Role → List (String × Json)
  | .route placeholder => [("role", .text "route"), ("placeholder", .text placeholder)]
  | .query keys composite =>
    [("role", .text "query"), ("composite", .bool composite),
      ("keys", .list (keys.map QueryKey.toJson))]
  | .body => [("role", .text "body")]
  | .cancellation isOptional =>
    [("role", .text "cancellation"), ("optional", .bool isOptional)]

def Binding.toJson (binding : Binding) : Json :=
  .record (binding.role.entries ++
    [("ident", .text binding.parameter.written), ("name", .text binding.name)])

def MethodDefinition.toJson (method : MethodDefinition) : Json :=
  .record [("name", .text method.name), ("verb", .text method.verb.text),
    ("route", method.route.toJson), ("bindings", .list (method.bindings.map Binding.toJson)),
    ("returns", method.returns.toJson), ("signature", .tokens method.signature.tokens)]

def ClientDefinition.toJson (client : ClientDefinition) : Json :=
  .record [("identity", .text client.identity.text), ("trait", .text client.trait.written),
    ("client_name", .text client.name.written),
    ("visibility", .tokens client.visibility.tokens), ("unsafe", .bool client.isUnsafe),
    ("methods", .list (client.methods.map MethodDefinition.toJson))]

def EnumerationMember.toJson (member : EnumerationMember) : Json :=
  .record [("ident", .text member.variant.written), ("alias", .text member.wireName)]

def Enumeration.toJson (enumeration : Enumeration) : Json :=
  .record [("identity", .text enumeration.identity.text),
    ("ident", .text enumeration.name.written),
    ("members", .list (enumeration.members.map EnumerationMember.toJson))]

/-! ### Reading -/

/-- An identifier at the key, as written. -/
def Json.identAt? (json : Json) (key : String) : Option Ident :=
  Ident.ofWritten? (json.textAt key)

/-- A type at the key, as source text. -/
def Json.typeAt? (json : Json) (key : String) : Option Ty :=
  (Ty.read (json.textAt key)).toOption

def Access.ofJson? (json : Json) : Option Access :=
  match json.textAt "access" with
  | "direct" => some .direct
  | "field" => (json.identAt? "field").map .field
  | "optional_field" => (json.identAt? "field").map .optionalField
  | _ => none

def QueryKey.ofJson? (json : Json) : Option QueryKey :=
  (Access.ofJson? json).map fun access => ⟨json.textAt "key", access⟩

def Role.ofJson? (json : Json) : Option Role :=
  match json.textAt "role" with
  | "route" => some (.route (json.textAt "placeholder"))
  | "query" =>
    ((json.listAt "keys").mapM QueryKey.ofJson?).map fun keys =>
      .query keys (json.boolAt "composite")
  | "body" => some .body
  | "cancellation" => some (.cancellation (json.boolAt "optional"))
  | _ => none

def Binding.ofJson? (json : Json) : Option Binding := do
  return ⟨← json.identAt? "ident", ← Role.ofJson? json⟩

/-- The value and whether it is awaited. -/
def Returns.shapeOfJson? (json : Json) : Option (Option Ty × Bool) :=
  match Json.textOr "AsyncVoid" json "descriptor" with
  | "Void" => some (none, false)
  | "SyncWithResult" => (json.typeAt? "value").map fun type => (some type, false)
  | "AsyncVoid" => some (none, true)
  | "AsyncWithResult" => (json.typeAt? "value").map fun type => (some type, true)
  | _ => none

def Wrapper.ofName? (name : String) : Option Wrapper :=
  [Wrapper.blocking, .asyncFn, .task, .implFuture].find? (·.name == name)

def ErrorChannel.ofJson? (json : Json) : Option ErrorChannel :=
  match Json.textOr "Builtin" json "error" with
  | "None" => some .none
  | "Result" => (json.typeAt? "error_type").map .result
  | "Builtin" => some .builtin
  | _ => none

/-- The shape of a result; what is left out is that of a task without a value. -/
def Returns.ofJson? (json : Json) : Option Returns := do
  let (value, isAsync) ← shapeOfJson? json
  let wrapper ← Wrapper.ofName? (Json.textOr "Task" json "wrapper")
  return ⟨value, isAsync, wrapper, ← ErrorChannel.ofJson? json⟩

def MethodDefinition.ofJson? (json : Json) : Option MethodDefinition := do
  let verb ← Verb.ofText? (Json.textOr "GET" json "verb")
  let route ← (Route.read (Json.textOr "/" json "route")).toOption
  let bindings ← (json.listAt "bindings").mapM Binding.ofJson?
  let returns ← Returns.ofJson? (json.entry "returns")
  let method ← (Source.Method.read (Json.textOr "fn call(&self);" json "signature")).toOption
  return ⟨Json.textOr "call" json "name", verb, route, bindings, returns, method.signature⟩

/-- The identity that `module` and `name` give. -/
def Identity.ofJson (json : Json) : Identity :=
  ⟨json.namesAt "module", Json.textOr "Api" json "name"⟩

def ClientDefinition.ofJson? (json : Json) : Option ClientDefinition := do
  let visibility ← (Source.Visibility.read (Json.textOr "pub" json "visibility")).toOption
  let methods ← (json.listAt "methods").mapM MethodDefinition.ofJson?
  return ⟨.ofJson json, ← json.identAt? "trait", ← json.identAt? "client_name", visibility,
    json.boolAt "unsafe", methods⟩

def EnumerationMember.ofJson? (json : Json) : Option EnumerationMember :=
  (json.identAt? "ident").map fun variant => ⟨variant, json.textAt "alias"⟩

def Enumeration.ofJson? (json : Json) : Option Enumeration := do
  let members ← (json.listAt "members").mapM EnumerationMember.ofJson?
  return ⟨.ofJson json, ← json.identAt? "ident", members⟩

end Endpoint
