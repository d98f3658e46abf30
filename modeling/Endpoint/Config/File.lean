import Endpoint.Config
import Endpoint.Disk.FileSystem
import Endpoint.Toml.Reader

/-!
Settings from a file. Keys that no setting has, and values of another kind, are refused.
-/

namespace Endpoint.Config

open Disk (FileSystem)

/-- The values of the fields of a table without other keys, or of a list in the order of the
fields, which may be longer or shorter. -/
def tomlFields? (names : List String) : Toml → Option (List (Option Toml))
  | .table _ entries =>
    if entries.all fun entry => names.contains entry.1 then
      some (names.map (Toml.get? entries))
    else none
  | .list items | .tables items =>
    some ((items.take names.length).map some ++
      List.replicate (names.length - items.length) none)
  | _ => none

/-- A field with a default. -/
def tomlField? {α : Type} (read : Toml → Option α) (default : α) : Option Toml → Option α
  | none => some default
  | some value => read value

def tomlText? : Toml → Option String
  | .text value => some value
  | _ => none

/-- Whether the value is a table or a list that holds nothing. -/
def isEmptyToml : Toml → Bool
  | .table _ entries => entries.isEmpty
  | .list items | .tables items => items.isEmpty
  | _ => false

/-- A policy: its name, or a table with the name as its only key and nothing in it. -/
def tomlPolicy? : Toml → Option Policy
  | .text name => Policy.ofText? name
  | .table _ [(name, value)] => if isEmptyToml value then Policy.ofText? name else none
  | _ => none

def tomlQuery? (held : Toml) : Option QueryPolicy := do
  match ← tomlFields? ["scalars", "composite_fields"] held with
  | [scalars, fields] =>
    return ⟨← tomlField? tomlPolicy? .omitNullOrDefault scalars,
      ← tomlField? tomlPolicy? .always fields⟩
  | _ => none

def tomlDump? (held : Toml) : Option (Option String) := do
  match ← tomlFields? ["dump_dir"] held with
  | [directory] => tomlField? (fun value => (tomlText? value).map some) none directory
  | _ => none

/-- The settings that the entries of a file make. -/
def ofToml? (entries : List (String × Toml)) : Option Config := do
  match ← tomlFields? ["client_suffix", "runtime_crate", "query", "debug"]
      (.table .header entries) with
  | [suffix, runtime, query, debug] =>
    return {
      clientSuffix := ← tomlField? tomlText? "Client" suffix
      runtimeCrate := ← tomlField? tomlText? "restgen" runtime
      query := ← tomlField? tomlQuery? {} query
      dumpDirectory := ← tomlField? tomlDump? none debug }
  | _ => none

variable {m : Type → Type} [Monad m] [FileSystem m]

/-- The settings in the text of a file, if they can be used. -/
def ofFileText (path text : String) : Except Failure Config :=
  match (Toml.read? text).bind ofToml? with
  | none => .error (.configParse path)
  | some config => config.validate.map fun _ => config

/-- Loads settings from a file. -/
def load (path : String) : m (Except Failure Config) := do
  match ← FileSystem.read path with
  | .error fault => return .error (.read path fault)
  | .ok text => return ofFileText path text

/-- The name of the file that settings are looked up in. -/
def fileName : String := "restgen.toml"

/-- The settings of a directory: those in its file if there is one. -/
def discover (directory : String) : m (Except Failure Config) := do
  let path := Disk.join directory fileName
  if ← FileSystem.isFile path then load path else return .ok {}

end Endpoint.Config
