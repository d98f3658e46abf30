import Endpoint.Query.Value
import Endpoint.Text.Percent
import Endpoint.Vocabulary

/-!
Query strings: pairs of keys and values in the order in which they were pushed.
-/

namespace Endpoint.Query

/-- The text that a value is retained with under a policy, if it is retained. -/
def retained (policy : Policy) (value : Value) : Option String :=
  match value.rendered with
  | some text => if policy == .omitNullOrDefault && value.isDefault then none else some text
  | none => if policy == .always then some "" else none

/-- Pairs of escaped keys and values. -/
abbrev Pairs := List (String × String)

/-- Adds the value under the key, unless the policy leaves it out. -/
def Pairs.push (pairs : Pairs) (key : String) (value : Value) (policy : Policy) : Pairs :=
  match retained policy value with
  | some text => pairs ++ [(Text.percentEncode key, Text.percentEncode text)]
  | none => pairs

/-- The query string with its question mark, or nothing if there are no pairs. -/
def Pairs.finish (pairs : Pairs) : String :=
  if pairs.isEmpty then ""
  else "?" ++ "&".intercalate (pairs.map fun pair => pair.1 ++ "=" ++ pair.2)

end Endpoint.Query
