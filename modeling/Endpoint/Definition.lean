import Endpoint.Identity
import Endpoint.Route
import Endpoint.Source.Declaration
import Endpoint.Vocabulary

/-!
Declarations as they are understood: clients with their methods, and enumerations.
-/

namespace Endpoint

open Source (Ident Ty Signature Visibility)

/-- Where the value of a query key comes from: the parameter itself, a field of it, or a field
of it behind an option. -/
inductive Access
  | direct
  | field (name : Ident)
  | optionalField (name : Ident)
deriving DecidableEq, Repr

structure QueryKey where
  key : String
  access : Access
deriving DecidableEq, Repr

/-- The part that a parameter plays in a request. -/
inductive Role
  | route (placeholder : String)
  | query (keys : List QueryKey) (composite : Bool)
  | body
  | cancellation (optional : Bool)
deriving DecidableEq, Repr

structure Binding where
  parameter : Ident
  role : Role
deriving DecidableEq, Repr

/-- The name of the parameter without the raw mark. -/
def Binding.name (binding : Binding) : String := binding.parameter.text

/-- How a method hands out its result. -/
inductive Wrapper
  | blocking
  | asyncFn
  | task
  | implFuture
deriving DecidableEq, Repr

/-- Where a method reports failures. -/
inductive ErrorChannel
  | none
  | result (error : Ty)
  | builtin

/-- The shape of a result: the type of its value if it has one, whether it is awaited, its
wrapper, and its error channel. -/
structure Returns where
  value : Option Ty
  isAsync : Bool
  wrapper : Wrapper
  error : ErrorChannel

structure MethodDefinition where
  name : String
  verb : Verb
  route : Route
  bindings : List Binding
  returns : Returns
  signature : Signature

structure ClientDefinition where
  identity : Identity
  trait : Ident
  name : Ident
  visibility : Visibility
  isUnsafe : Bool
  methods : List MethodDefinition

/-- A variant with the name that stands for it outside. -/
structure EnumerationMember where
  variant : Ident
  wireName : String
deriving DecidableEq, Repr

structure Enumeration where
  identity : Identity
  name : Ident
  members : List EnumerationMember
deriving DecidableEq, Repr

end Endpoint
