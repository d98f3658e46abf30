/-!
Names of declarations, qualified by the module they stand in.
-/

namespace Endpoint

structure Identity where
  module : List String
  name : String
deriving DecidableEq, Repr, Inhabited

namespace Identity

/-- The segments of the module and the name, joined by points. -/
def dotted (identity : Identity) : String :=
  ".".intercalate (identity.module ++ [identity.name])

/-- The segments of the module and the name, as a path. -/
def text (identity : Identity) : String :=
  "::".intercalate (identity.module ++ [identity.name])

/-- Whether the first list of texts comes first in the order of their characters. -/
def precedesList : List String → List String → Bool
  | [], [] => false
  | [], _ :: _ => true
  | _ :: _, [] => false
  | a :: as, b :: bs => a < b || (a == b && precedesList as bs)

/-- Whether the first comes first: by module, then by name. -/
def precedes (a b : Identity) : Bool :=
  precedesList a.module b.module || (a.module == b.module && a.name < b.name)

end Identity

end Endpoint
