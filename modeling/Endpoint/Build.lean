import Endpoint.Config.File
import Endpoint.Output
import Endpoint.Run
import Endpoint.SourceUnit.File

/-!
A run as part of a build: its settings, its files, the directory for its units, and the lines
that tell the build tool when to run again and what was left out.
-/

namespace Endpoint

open Disk (FileSystem)

/-- What the environment says. -/
structure Environment where
  outDirectory : Option String := none
  manifestDirectory : Option String := none
  dumpDirectory : Option String := none

/-- What a build asks for. Settings that are given win over those from a file. -/
structure Build where
  files : List String
  sourceRoot : Option String := none
  config : Option Config := none
  configFile : Option String := none
  outDirectory : Option String := none
  directives : Bool := true

variable {m : Type → Type} [Monad m] [FileSystem m]

/-- Generates code for the units and puts copies into the directory that the settings name. -/
def generateAndDump (config : Config) (hints : Hints) (units : List SourceUnit) :
    m (Except Failure Report × Hints) := do
  match config.validate with
  | .error failure => return (.error failure, hints)
  | .ok _ =>
    let (result, hints) := generate config false hints units
    match result, config.dumpDirectory with
    | .ok report, some directory => report.units.forM (dump directory)
    | _, _ => pure ()
    return (result, hints)

namespace Build

/-- The directory that the units go to. -/
def outDirectory? (build : Build) (environment : Environment) : Option String :=
  match build.outDirectory with
  | some directory => some directory
  | none => environment.outDirectory.map (Disk.join · "restgen")

/-- The directory whose settings are looked up. -/
def settingsDirectory (environment : Environment) : String :=
  environment.manifestDirectory.getD "."

def changedLine (path : String) : String := "cargo:rerun-if-changed=" ++ path

/-- The lines that name the file with the settings. -/
def configLines (build : Build) (environment : Environment) : List String :=
  if build.directives && build.config.isNone then
    [changedLine (match build.configFile with
      | some path => path
      | none => Disk.join (settingsDirectory environment) Config.fileName)]
  else []

/-- The settings of the build. -/
def resolveConfig (build : Build) (environment : Environment) : m (Except Failure Config) := do
  match build.config, build.configFile with
  | some config, _ => return config.validate.map fun _ => config
  | none, some path => Config.load path
  | none, none => Config.discover (settingsDirectory environment)

/-- The settings with the directory for copies that the environment names. -/
def withDump (config : Config) (environment : Environment) : Config :=
  match environment.dumpDirectory with
  | some directory =>
    if directory.isEmpty then config else { config with dumpDirectory := some directory }
  | none => config

/-- The lines that name the inputs. -/
def inputLines (build : Build) : List String :=
  if build.directives then
    "cargo:rerun-if-env-changed=RESTGEN_DEBUG_DUMP" :: build.files.map changedLine
  else []

/-- The lines that name what was left out. -/
def warningLines (build : Build) (report : Report) : List String :=
  if build.directives then
    report.diagnostics.map fun diagnostic => "cargo:warning=restgen: " ++ diagnostic.text
  else []

/-- Loads the files, generates code for them, and writes it to the directory. -/
def produce (build : Build) (config : Config) (hints : Hints) (directory : String) :
    m (Except Failure Report) := do
  match ← SourceUnit.loadAll build.sourceRoot build.files with
  | .error failure => return .error failure
  | .ok units =>
    match (← generateAndDump config hints units).1 with
    | .error failure => return .error failure
    | .ok report => return (← writeUnits directory report.units).map fun _ => report

/-- Runs the build, and gives the report with the lines that it prints. The hints are those that
were given out before in the same process. -/
def compile (build : Build) (environment : Environment) (hints : Hints := .empty) :
    m (Except Failure Report × List String) := do
  match build.outDirectory? environment with
  | none =>
    return (.error (.config "OUT_DIR is not set; call out_dir() outside build scripts"), [])
  | some directory =>
    let configLines := build.configLines environment
    match ← build.resolveConfig environment with
    | .error failure => return (.error failure, configLines)
    | .ok config =>
      let lines := configLines ++ build.inputLines
      match ← build.produce (withDump config environment) hints directory with
      | .error failure => return (.error failure, lines)
      | .ok report => return (.ok report, lines ++ build.warningLines report)

end Build

end Endpoint
