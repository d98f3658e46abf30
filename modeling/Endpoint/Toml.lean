/-!
Settings files: values in tables. Tables may be opened by a header, by a dotted key, or written
inline, and none may be opened twice.
-/

namespace Endpoint

/-- How a table came about: by a header of its own, on the way to another header, by a dotted
key, or written as a value. -/
inductive Toml.Origin
  | header
  | passing
  | dotted
  | value
deriving DecidableEq, Repr

/-- A value. Of numbers, dates and booleans it is only known that they are there. The tables of a
list of tables are made by headers. -/
inductive Toml
  | text (value : String)
  | scalar
  | list (items : List Toml)
  | tables (items : List Toml)
  | table (origin : Toml.Origin) (entries : List (String × Toml))
deriving Repr

namespace Toml

/-- The value at the key. -/
def get? (entries : List (String × Toml)) (key : String) : Option Toml :=
  (entries.find? (·.1 == key)).map (·.2)

/-- The entries with another value at the key. -/
def put (entries : List (String × Toml)) (key : String) (value : Toml) :
    List (String × Toml) :=
  if (get? entries key).isSome then
    entries.map fun held => if held.1 == key then (key, value) else held
  else entries ++ [(key, value)]

/-- Changes the last of some tables. -/
def changeLast (change : Toml → Option Toml) : List Toml → Option (List Toml)
  | [] => none
  | [last] => (change last).map fun value => [value]
  | first :: rest => (changeLast change rest).map (first :: ·)

/-- Whether a key may go on into the table: a dotted key not into one that has a header or is a
value, a header into none that is a value. -/
def admits (dotted : Bool) : Origin → Bool
  | .header => !dotted
  | .passing => true
  | .dotted => true
  | .value => false

/-- Changes the table that a path leads to. Tables that are missing are made on the way. -/
def changeAt (dotted : Bool) (change : Toml → Option Toml) : List String → Toml → Option Toml
  | [], held => change held
  | key :: path, .table origin entries => do
    let below ← match get? entries key with
      | none => changeAt dotted change path (.table (if dotted then .dotted else .passing) [])
      | some (.tables items) =>
        (changeLast (changeAt dotted change path) items).map .tables
      | some (.table inner held) =>
        if admits dotted inner then changeAt dotted change path (.table inner held) else none
      | some _ => none
    return .table origin (put entries key below)
  | _ :: _, _ => none

/-- Adds a value under a new key. A key that is not dotted goes into no table that dotted keys
have made, a dotted one into no other. -/
def addEntry (dotted : Bool) (key : String) (value : Toml) : Toml → Option Toml
  | .table origin entries =>
    if (origin == .dotted) != dotted || (get? entries key).isSome then none
    else some (.table origin (entries ++ [(key, value)]))
  | _ => none

/-- Adds `path.key = value` to a table. -/
def addValue (path : List String) (key : String) (value : Toml) (table : Toml) : Option Toml :=
  changeAt true (addEntry (!path.isEmpty) key value) path table

/-- Opens a table by a header. It may have been passed before, but no more. -/
def openTable (key : String) : Toml → Option Toml
  | .table origin entries =>
    match get? entries key with
    | none => some (.table origin (entries ++ [(key, .table .header [])]))
    | some (.table .passing held) =>
      some (.table origin (put entries key (.table .header held)))
    | some _ => none
  | _ => none

/-- Adds a table to a list of tables by a header. -/
def openItem (key : String) : Toml → Option Toml
  | .table origin entries =>
    match get? entries key with
    | none => some (.table origin (entries ++ [(key, .tables [.table .header []])]))
    | some (.tables items) =>
      some (.table origin (put entries key (.tables (items ++ [.table .header []]))))
    | some _ => none
  | _ => none

/-- The table of a whole file before anything is in it. -/
def empty : Toml := .table .header []

end Toml

end Endpoint
