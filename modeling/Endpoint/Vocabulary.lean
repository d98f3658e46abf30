import Endpoint.Json

/-!
The words that a client declaration is written with: verbs, markers, the types that they know
by name, the modules that export them, and the policies of query values.
-/

namespace Endpoint

/-- The verb of a request. -/
inductive Verb
  | get
  | post
  | put
  | delete
deriving DecidableEq, Repr, Inhabited

namespace Verb

def all : List Verb := [.get, .post, .put, .delete]

/-- The verb as it is sent. -/
def text : Verb → String
  | .get => "GET"
  | .post => "POST"
  | .put => "PUT"
  | .delete => "DELETE"

/-- The name of the verb in emitted code. -/
def name : Verb → String
  | .get => "Get"
  | .post => "Post"
  | .put => "Put"
  | .delete => "Delete"

def ofText? (text : String) : Option Verb := all.find? (·.text == text)

end Verb

/-- What a marker is written on. -/
inductive MarkerTarget
  | declaration
  | method
  | parameter
  | member
  | enumeration
deriving DecidableEq, Repr

def MarkerTarget.text : MarkerTarget → String
  | .declaration => "declaration"
  | .method => "method"
  | .parameter => "parameter"
  | .member => "member"
  | .enumeration => "enumeration"

/-- An attribute that the vocabulary gives a meaning. -/
inductive Marker
  | client
  | verb (held : Verb)
  | body
  | alias
  | serializer
deriving DecidableEq, Repr

namespace Marker

def all : List Marker :=
  .client :: (Verb.all.map .verb ++ [.body, .alias, .serializer])

def name : Marker → String
  | .client => "api_client"
  | .verb .get => "get"
  | .verb .post => "post"
  | .verb .put => "put"
  | .verb .delete => "delete"
  | .body => "body"
  | .alias => "alias"
  | .serializer => "generate_serializer"

def target : Marker → MarkerTarget
  | .client => .declaration
  | .verb _ => .method
  | .body => .parameter
  | .alias => .member
  | .serializer => .enumeration

def verb? : Marker → Option Verb
  | .verb held => some held
  | _ => none

/-- Whether the marker only means something inside a marked declaration. -/
def isHelper : Marker → Bool
  | .client | .serializer => false
  | _ => true

def ofName? (name : String) : Option Marker := all.find? (·.name == name)

end Marker

/-! ### Modules -/

/-- A path by the names of its segments. -/
abbrev Names := List String

/-- The crates that export the vocabulary. -/
def vocabularyCrates : List String := ["restgen", "restgen_macros"]

/-- The modules that export the markers. -/
def vocabularyModules : List Names :=
  [["restgen"], ["restgen", "prelude"], ["restgen_macros"]]

/-- The marker that a path names, written out from its crate. -/
def Marker.ofPath? (path : Names) : Option Marker :=
  match path.getLast? with
  | some name => if vocabularyModules.contains path.dropLast then ofName? name else none
  | none => none

/-- A type that the vocabulary gives a meaning. -/
inductive KnownType
  | task
  | token
deriving DecidableEq, Repr

namespace KnownType

def all : List KnownType := [.task, .token]

def name : KnownType → String
  | .task => "Task"
  | .token => "CancellationToken"

/-- The modules that export the type. -/
def modules : KnownType → List Names
  | .task => [["restgen"], ["restgen", "prelude"]]
  | .token => [["restgen"], ["restgen", "prelude"], ["tokio_util", "sync"]]

/-- The type that a path names, written out from its crate. -/
def ofPath? (path : Names) : Option KnownType :=
  match path.getLast? with
  | some last => all.find? fun type => type.name == last && type.modules.contains path.dropLast
  | none => none

end KnownType

/-- Whether a module exports a marker or known type of this name. -/
def moduleProvides (module : Names) (name : String) : Bool :=
  (vocabularyModules.contains module && (Marker.ofName? name).isSome) ||
    KnownType.all.any fun type => type.name == name && type.modules.contains module

/-! ### Policies -/

/-- When a query value is left out: never, when it is null, or also when it is the default. -/
inductive Policy
  | always
  | omitNull
  | omitNullOrDefault
deriving DecidableEq, Repr, Inhabited

namespace Policy

def all : List Policy := [.always, .omitNull, .omitNullOrDefault]

def text : Policy → String
  | .always => "always"
  | .omitNull => "omit_null"
  | .omitNullOrDefault => "omit_null_or_default"

/-- The name of the policy in emitted code. -/
def name : Policy → String
  | .always => "Always"
  | .omitNull => "OmitNull"
  | .omitNullOrDefault => "OmitNullOrDefault"

def ofText? (text : String) : Option Policy := all.find? (·.text == text)

end Policy

/-- The policies of plain query values and of the fields of a composite one. -/
structure QueryPolicy where
  scalars : Policy := .omitNullOrDefault
  compositeFields : Policy := .always
deriving DecidableEq, Repr, Inhabited

/-- The name of a variant in JSON: a text, or a record with that one key and null. -/
def Json.variant? : Json → Option String
  | .text name => some name
  | .record [(name, .null)] => some name
  | _ => none

def Verb.ofJson? (json : Json) : Option Verb := json.variant?.bind ofText?

def Policy.ofJson? (json : Json) : Option Policy := json.variant?.bind ofText?

namespace QueryPolicy

/-- The value of an entry, or the default of one that is missing. -/
def entry? (default : Policy) : Option Json → Option Policy
  | some value => Policy.ofJson? value
  | none => some default

/-- The policies in JSON: a record without other keys, or a list in the order of the fields. -/
def ofJson? : Json → Option QueryPolicy
  | .record entries => do
    if !entries.all fun entry => ["scalars", "composite_fields"].contains entry.1 then failure
    let scalars ← entry? .omitNullOrDefault (Json.get? (.record entries) "scalars")
    let fields ← entry? .always (Json.get? (.record entries) "composite_fields")
    return ⟨scalars, fields⟩
  | .list [] => some {}
  | .list [scalars] => do return { scalars := ← Policy.ofJson? scalars }
  | .list [scalars, fields] => do return ⟨← Policy.ofJson? scalars, ← Policy.ofJson? fields⟩
  | _ => none

end QueryPolicy

end Endpoint
