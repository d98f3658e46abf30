import Endpoint.Json

/-!
JSON written over several lines, two blanks for each level.
-/

namespace Endpoint.Json

/-- The end of a line and the blanks of the next. -/
def lineBreak (level : Nat) : String := "\n" ++ String.ofList (List.replicate (2 * level) ' ')

/-- The rows between two marks, each on a line of its own. -/
def block (level : Nat) (first last : String) (rows : List String) : String :=
  if rows.isEmpty then first ++ last
  else
    first ++ lineBreak (level + 1) ++ ("," ++ lineBreak (level + 1)).intercalate rows ++
      lineBreak level ++ last

mutual

/-- A value over several lines, the first of which stands at the level. -/
def pretty (level : Nat) : Json → String
  | .list items => block level "[" "]" (prettyRows (level + 1) items)
  | .record entries => block level "\x7b" "\x7d" (prettyEntries (level + 1) entries)
  | other => other.write

def prettyRows (level : Nat) : List Json → List String
  | [] => []
  | item :: rest => pretty level item :: prettyRows level rest

def prettyEntries (level : Nat) : List (String × Json) → List String
  | [] => []
  | (key, value) :: rest =>
    (quoted key ++ ": " ++ pretty level value) :: prettyEntries level rest

end

end Endpoint.Json
