import Endpoint.Diagnostic
import Endpoint.Lowering.Returns
import Endpoint.Symbols

/-!
Understanding a method of a trait as a call: its verb and route, the part that each parameter
plays, and its result.
-/

namespace Endpoint.Lowering

open Source (Attributes Attribute Ident Input Method Pattern Signature Ty)

/-! ### Verb and route -/

/-- The verb markers among attributes. -/
def verbMarkers (imports : Imports) (attributes : Attributes) : List (Verb × Attribute) :=
  attributes.filterMap fun held =>
    match helper imports held with
    | .marker (.verb verb) => some (verb, held)
    | _ => none

/-- The path of the first attribute of another crate that is named like a verb. -/
def foreignVerb? (imports : Imports) (attributes : Attributes) : Option String :=
  attributes.findSome? fun held =>
    match helper imports held with
    | .foreign (.verb _) path => some path
    | _ => none

/-- The verb and route of a method with these attributes. -/
def verbAndRoute (imports : Imports) (attributes : Attributes) :
    Except Problem (Verb × Route) :=
  match verbMarkers imports attributes with
  | [] =>
    match foreignVerb? imports attributes with
    | some path => .error (.foreignMarker path)
    | none => .error .missingVerb
  | [(verb, held)] =>
    match held.stringArgument? with
    | none => .error (.invalidRouteArgument (Marker.verb verb).name)
    | some raw =>
      match Route.read raw with
      | .ok route => .ok (verb, route)
      | .error fault => .error (.malformedRoute raw fault.message)
  | many => .error (.duplicateVerb (", ".intercalate (many.map fun one => one.1.text)))

/-! ### Parameters -/

/-- Whether a path names the vocabulary's cancellation token. -/
def isToken (imports : Imports) : Ty → Bool
  | .path path => imports.knownType? path == some .token
  | _ => false

/-- Whether a type is a cancellation token, and then whether behind an option. -/
def tokenType? (imports : Imports) (ty : Ty) : Option Bool :=
  match target ty with
  | .path path =>
    match optionArgument? path with
    | some inner => if isToken imports (target inner) then some true else none
    | none => if isToken imports (.path path) then some false else none
  | _ => none

/-- The fields of the struct that a type names. -/
def structFields? (imports : Imports) (symbols : Symbols) (ty : Ty) :
    Option (List FieldSymbol) :=
  match target ty with
  | .path path => symbols.find? (imports.typeCandidates path)
  | _ => none

/-- The fields of the struct that a parameter's type names, and whether behind an option. -/
def compositeFields? (imports : Imports) (symbols : Symbols) (ty : Ty) :
    Option (List FieldSymbol × Bool) :=
  match target ty with
  | .path path =>
    match optionArgument? path with
    | some inner => (structFields? imports symbols inner).map fun fields => (fields, true)
    | none => (structFields? imports symbols ty).map fun fields => (fields, false)
  | _ => none

/-- The part of a parameter that goes into the query: one key per field of a known struct, else
one for the parameter. -/
def queryRole (imports : Imports) (symbols : Symbols) (name : String) (ty : Ty) : Role :=
  match compositeFields? imports symbols ty with
  | some (fields, isOptional) =>
    .query (fields.map fun symbol =>
      ⟨symbol.key, if isOptional then .optionalField symbol.field else .field symbol.field⟩) true
  | none => .query [⟨name, .direct⟩] false

/-- The name of a parameter that is a plain identifier. -/
def plainName? : Pattern → Option Ident
  | .ident false _ name none => some name
  | _ => none

/-- The part that a parameter plays, given the placeholders and whether it is marked as the
body. -/
def roleOf (imports : Imports) (symbols : Symbols) (placeholders : List String)
    (isBody : Bool) (name : String) (ty : Ty) : Role :=
  if placeholders.contains name then .route name
  else if isBody then .body
  else
    match tokenType? imports ty with
    | some isOptional => .cancellation isOptional
    | none => queryRole imports symbols name ty

/-- The bindings of the parameters, given the name of an earlier body. -/
def bindingsOf (imports : Imports) (symbols : Symbols) (placeholders : List String) :
    Option String → List Input → Except Problem (List Binding)
  | _, [] => .ok []
  | body, .receiver _ :: rest => bindingsOf imports symbols placeholders body rest
  | body, .typed attributes pattern ty :: rest =>
    match plainName? pattern with
    | none => .error (.unsupportedParameter (Source.Token.listText pattern.tokens))
    | some name =>
      let isBody := attributes.any (isHelper imports .body)
      let isRoute := placeholders.contains name.text
      if isRoute && isBody then .error (.conflictingRoles name.text)
      else
        match body, isBody with
        | some first, true => .error (.duplicateBody first name.text)
        | _, _ => do
          let binding : Binding :=
            ⟨name, roleOf imports symbols placeholders isBody name.text ty⟩
          let body := if isBody then some name.text else body
          return binding :: (← bindingsOf imports symbols placeholders body rest)

/-! ### Methods -/

/-- The input without body markers. -/
def withoutBodyMarker (imports : Imports) : Input → Input
  | .typed attributes pattern ty =>
    .typed (attributes.filter (!isHelper imports .body ·)) pattern ty
  | input => input

/-- A method as a call, or the first problem that it has. -/
def method (imports : Imports) (symbols : Symbols) (declared : Method) :
    Except Problem MethodDefinition := do
  let signature := declared.signature
  let (verb, route) ← verbAndRoute imports declared.attributes
  if signature.receiver?.isNone then throw .missingReceiver
  let bindings ← bindingsOf imports symbols route.placeholders none signature.inputs
  match classify imports signature with
  | .error fault => throw (.illDefinedReturn fault.message)
  | .ok returns =>
    return ⟨signature.name.text, verb, route, bindings, returns,
      { signature with inputs := signature.inputs.map (withoutBodyMarker imports) }⟩

end Endpoint.Lowering
