import Endpoint.Emission.Serializer
import Endpoint.Layout.Item
import Endpoint.Scan

/-!
Emitted code as the text of a file.
-/

namespace Endpoint

/-- The text of a generated file, with what it was generated from. -/
structure GeneratedUnit where
  hint : String
  kind : Kind
  source : Identity
  code : String
deriving DecidableEq, Repr, Inhabited

def GeneratedUnit.fileName (unit : GeneratedUnit) : String := unit.hint ++ ".rs"

namespace Emission

/-- The line that every generated file begins with. -/
def header : String :=
  "// This code was automatically generated by restgen-gen. Do not edit manually."

/-- The text of tokens that are the items of a file, or a failure if they are none. -/
def render (tokens : Source.Tokens) (hint : String) (kind : Kind) (source : Identity) :
    Except Failure GeneratedUnit :=
  match tokens.parse Source.Grammar.fileRule with
  | .error _ => .error .emission
  | .ok file =>
    match file.format? (Source.Tokens.size tokens) with
    | none => .error .layout
    | some text =>
      .ok ⟨hint, kind, source, header ++ "\n// Source: " ++ source.text ++ "\n\n" ++ text⟩

end Emission

end Endpoint
