import Endpoint.Failure
import Endpoint.Source.Grammar
import Endpoint.Vocabulary

/-!
The settings of a run.
-/

namespace Endpoint

structure Config where
  clientSuffix : String := "Client"
  runtimeCrate : String := "restgen"
  query : QueryPolicy := {}
  dumpDirectory : Option String := none
deriving DecidableEq, Repr, Inhabited

namespace Config

/-- The settings, if they can be used: a suffix of ASCII letters and digits, and a runtime crate
that reads as a name. -/
def validate (config : Config) : Except Failure Unit :=
  if config.clientSuffix.isEmpty then .error (.config "client_suffix cannot be empty")
  else if !config.clientSuffix.toList.all Char.isAlphanum then
    .error (.config
      s!"client_suffix '{config.clientSuffix}' must contain only letters and numbers")
  else if !Source.isNameText config.runtimeCrate then
    .error (.config s!"runtime_crate '{config.runtimeCrate}' is not a valid crate name")
  else .ok ()

/-! ### JSON -/

/-- The values of the fields of a record without other keys and repetitions, or of a list. -/
def onlyFields? (names : List String) (json : Json) : Option (List (Option Json)) :=
  match json with
  | .record entries =>
    if entries.all fun entry => names.contains entry.1 then
      some (names.map (Json.get? (.record entries)))
    else none
  | .list items =>
    if items.length ≤ names.length then
      some (items.map some ++ List.replicate (names.length - items.length) none)
    else none
  | _ => none

/-- A field with a default. -/
def field? {α : Type} (read : Json → Option α) (default : α) : Option Json → Option α
  | none => some default
  | some value => read value

def ofText? : Json → Option String
  | .text value => some value
  | _ => none

def optionalText? : Json → Option (Option String)
  | .null => some none
  | .text value => some (some value)
  | _ => none

/-- The directory of the debugging settings. -/
def dumpDirectory? (json : Json) : Option (Option String) := do
  match ← onlyFields? ["dump_dir"] json with
  | [directory] => field? optionalText? none directory
  | _ => none

def ofJson? (json : Json) : Option Config := do
  match ← onlyFields? ["client_suffix", "runtime_crate", "query", "debug"] json with
  | [suffix, runtime, query, debug] =>
    return {
      clientSuffix := ← field? ofText? "Client" suffix
      runtimeCrate := ← field? ofText? "restgen" runtime
      query := ← field? QueryPolicy.ofJson? {} query
      dumpDirectory := ← field? dumpDirectory? none debug }
  | _ => none

def toJson (config : Config) : Json :=
  .record [("client_suffix", .text config.clientSuffix),
    ("runtime_crate", .text config.runtimeCrate),
    ("query", .record [("scalars", .text config.query.scalars.text),
      ("composite_fields", .text config.query.compositeFields.text)]),
    ("debug", .record [("dump_dir", .ofOption .text config.dumpDirectory)])]

/-- The settings as shown in debugging output. -/
def shown (config : Config) : String :=
  let directory := match config.dumpDirectory with
    | some path => "Some(" ++ Text.showQuoted path ++ ")"
    | none => "None"
  "GeneratorConfig \x7b client_suffix: " ++ Text.showQuoted config.clientSuffix ++
    ", runtime_crate: " ++ Text.showQuoted config.runtimeCrate ++
    ", query: QueryPolicy \x7b scalars: " ++ config.query.scalars.name ++
    ", composite_fields: " ++ config.query.compositeFields.name ++
    " \x7d, debug: DebugConfig \x7b dump_dir: " ++ directory ++ " \x7d \x7d"

end Config

end Endpoint
