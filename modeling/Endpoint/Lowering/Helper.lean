import Endpoint.Imports
import Endpoint.Source.Literal

/-!
What attributes inside a declaration mean, and types with references and parentheses taken off.
-/

namespace Endpoint.Lowering

open Source (Attribute Path Ty Arguments)

/-- What an attribute is: a helper marker, one of another crate that is named like a helper, or
something else. -/
inductive Helper
  | marker (marker : Marker)
  | foreign (marker : Marker) (path : String)
  | unrelated
deriving DecidableEq, Repr

/-- The marker if it is a helper. -/
def helperOnly (marker : Option Marker) : Option Marker := marker.filter Marker.isHelper

/-- What an attribute is, by the path that it resolves to. One that does not resolve is taken by
its name. -/
def helper (imports : Imports) (held : Attribute) : Helper :=
  match imports.resolve held.path with
  | some resolved =>
    match Marker.ofPath? resolved with
    | some marker => if marker.isHelper then .marker marker else .unrelated
    | none =>
      match helperOnly (resolved.getLast?.bind Marker.ofName?) with
      | some marker => .foreign marker ("::".intercalate resolved)
      | none => .unrelated
  | none =>
    match helperOnly (held.path.ident?.bind fun name => Marker.ofName? name.written) with
    | some marker => .marker marker
    | none => .unrelated

/-- Whether the attribute is the helper marker. -/
def isHelper (imports : Imports) (marker : Marker) (held : Attribute) : Bool :=
  helper imports held == .marker marker

/-! ### Types -/

/-- The type without parentheses around it. -/
def bare : Ty → Ty
  | .paren inner => bare inner
  | ty => ty

/-- The type without references and parentheses around it. -/
def target : Ty → Ty
  | .reference _ _ inner => target inner
  | .paren inner => target inner
  | ty => ty

/-- Whether the type is `()`. -/
def isUnit (ty : Ty) : Bool :=
  match bare ty with
  | .tuple [] _ => true
  | _ => false

/-- The generic arguments of a path's last segment that are types. -/
def typeArguments (path : Path) : List Ty :=
  match path.segments.getLast?.map Source.Segment.arguments with
  | some (.angle _ held _) => held.filterMap fun
    | .type ty => some ty
    | _ => none
  | _ => []

/-- Whether the names are those of the option type. -/
def namesOption : Names → Bool
  | [name] => name == "Option"
  | [root, module, name] =>
    (root == "std" || root == "core") && module == "option" && name == "Option"
  | _ => false

/-- The only generic argument of an option type, if it is a type. -/
def optionArgument? (path : Path) : Option Ty :=
  if namesOption path.names then
    match path.segments.getLast?.map Source.Segment.arguments with
    | some (.angle _ [.type inner] _) => some inner
    | _ => none
  else none

end Endpoint.Lowering
