import Endpoint.Number.Binary

/-!
JSON values and their compact written form.
-/

namespace Endpoint

/-- A JSON number: a whole number of 64 bits with or without sign, or a floating-point one. -/
inductive Json.Number
  | natural (value : Nat)
  | negative (value : Int)
  | real (value : Number.Binary)
deriving DecidableEq, Repr

/-- A JSON value. The entries of a record stand in the order in which they were written. -/
inductive Json
  | null
  | bool (value : Bool)
  | number (value : Json.Number)
  | text (value : String)
  | list (items : List Json)
  | record (entries : List (String × Json))
deriving Repr, Inhabited

namespace Json

def nat (n : Nat) : Json := .number (.natural n)

/-- The value, or null if there is none. -/
def ofOption {α : Type} (write : α → Json) : Option α → Json
  | some value => write value
  | none => .null

def texts (held : List String) : Json := .list (held.map .text)

/-- A value that a record holds under a key; of several, the last. -/
def get? (json : Json) (key : String) : Option Json :=
  match json with
  | .record entries => (entries.reverse.find? (·.1 == key)).map (·.2)
  | _ => none

/-! ### Order of keys -/

/-- Puts an entry into entries sorted by key, in the place of one with the same key. -/
def insertEntry (key : String) (value : Json) : List (String × Json) → List (String × Json)
  | [] => [(key, value)]
  | (other, held) :: rest =>
    if key == other then (key, value) :: rest
    else if key < other then (key, value) :: (other, held) :: rest
    else (other, held) :: insertEntry key value rest

mutual

/-- The value with the entries of every record sorted by key; of several with one key the last
stays. -/
def sorted : Json → Json
  | .list items => .list (sortedList items)
  | .record entries => .record (sortedEntries entries)
  | other => other

def sortedList : List Json → List Json
  | [] => []
  | item :: rest => sorted item :: sortedList rest

def sortedEntries : List (String × Json) → List (String × Json)
  | [] => []
  | (key, value) :: rest =>
    let rest := sortedEntries rest
    if rest.any (·.1 == key) then rest else insertEntry key (sorted value) rest

end

/-! ### Writing -/

/-- The escape of a character between quotes. -/
def escape (c : Char) : List Char :=
  if c == '"' then ['\\', '"']
  else if c == '\\' then ['\\', '\\']
  else if c == '\n' then ['\\', 'n']
  else if c == '\r' then ['\\', 'r']
  else if c == '\t' then ['\\', 't']
  else if c.toNat == 8 then ['\\', 'b']
  else if c.toNat == 12 then ['\\', 'f']
  else if c.toNat < 32 then
    ['\\', 'u', '0', '0', Nat.digitChar (c.toNat / 16), Nat.digitChar (c.toNat % 16)]
  else [c]

def quoted (text : String) : String :=
  String.ofList ('"' :: (text.toList.flatMap escape ++ ['"']))

/-- A decimal with a point, positional from the fifth place behind the point up to sixteen
places before it, else with an exponent. -/
def realText (negative : Bool) (held : Number.Decimal) : String :=
  let digits := Number.digitsOf held.digits
  let sign := if negative then "-" else ""
  let point : Int := digits.length + held.exponent
  sign ++
    if held.digits == 0 then "0.0"
    else if 0 ≤ held.exponent && point ≤ 16 then held.positional ++ ".0"
    else if -5 < point && point ≤ 16 then held.positional
    else
      let part := digits.drop 1
      String.ofList (digits.take 1 ++ (if part.isEmpty then [] else '.' :: part)) ++
        s!"e{point - 1}"

def Number.text : Json.Number → String
  | .natural n => toString n
  | .negative n => toString n
  | .real (.finite minus units scale) =>
    realText minus (Number.double.shortest .even units scale)
  | .real _ => "null"

mutual

/-- The value without blanks. -/
def write : Json → String
  | .null => "null"
  | .bool value => if value then "true" else "false"
  | .number value => value.text
  | .text value => quoted value
  | .list items => "[" ++ ",".intercalate (writeList items) ++ "]"
  | .record entries => "\x7b" ++ ",".intercalate (writeEntries entries) ++ "\x7d"

def writeList : List Json → List String
  | [] => []
  | item :: rest => write item :: writeList rest

def writeEntries : List (String × Json) → List String
  | [] => []
  | (key, value) :: rest => (quoted key ++ ":" ++ write value) :: writeEntries rest

end

end Json

end Endpoint
