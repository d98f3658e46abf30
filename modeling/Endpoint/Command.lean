import Endpoint.Build
import Endpoint.Command.Options
import Endpoint.Json.Pretty

/-!
The command: finds the source files, generates code for them, writes it, and reports.
-/

namespace Endpoint

def GeneratedUnit.toJson (unit : GeneratedUnit) : Json :=
  .record [("hint", .text unit.hint), ("kind", .text unit.kind.text),
    ("source", .text unit.source.text)]

def Report.toJson (report : Report) : Json :=
  .record [("units", .list (report.units.map GeneratedUnit.toJson)),
    ("diagnostics", .list (report.diagnostics.map Diagnostic.toJson)),
    ("cancelled", .bool report.cancelled)]

namespace Command

open Disk (FileSystem)

/-- What a call of the command comes to. -/
inductive Outcome
  | usage
  | failed (failure : Failure)
  | done (output errors : String)

/-- The exit status. -/
def Outcome.status : Outcome → Nat
  | .usage => 2
  | .failed failure => if failure.isAbrupt then 101 else 1
  | .done .. => 0

variable {m : Type → Type} [Monad m] [FileSystem m]

/-- The files that an input stands for: itself, or the source files below a directory. -/
def filesOf (input : String) : m (List String) := do
  if ← FileSystem.isDirectory input then
    return (← Disk.filesBelow input).filter fun path => Disk.extension? path == some "rs"
  else return [input]

/-- The paths without those that lead where the one before leads. -/
def withoutRepeats : List String → List String
  | a :: b :: rest =>
    if Disk.components a == Disk.components b then withoutRepeats (a :: rest)
    else a :: withoutRepeats (b :: rest)
  | rest => rest

/-- The files of all inputs, sorted, each once. -/
def collectInputs (inputs : List String) : m (List String) := do
  let found ← inputs.mapM filesOf
  return withoutRepeats (found.flatten.mergeSort fun a b =>
    Disk.precedes (Disk.components a) (Disk.components b))

/-- The settings with those of the command line in them. -/
def override (options : Options) (config : Config) : Config :=
  { config with
    clientSuffix := options.clientSuffix.getD config.clientSuffix
    dumpDirectory := options.dumpDirectory <|> config.dumpDirectory }

def resolveConfig (options : Options) : m (Except Failure Config) := do
  let found ← match options.config with
    | some path => Config.load path
    | none => Config.discover "."
  match found with
  | .error failure => return .error failure
  | .ok config =>
    let config := override options config
    return config.validate.map fun _ => config

/-! ### Reports -/

/-- The line about a unit. -/
def unitLine (options : Options) (unit : GeneratedUnit) : String :=
  let target :=
    if options.dryRun then "(dry run)" else Disk.join options.outputOrDefault unit.fileName
  s!"generated {unit.hint} -> {target}"

/-- The report for people. -/
def summary (options : Options) (report : Report) : List String :=
  report.units.map (unitLine options) ++
    report.diagnostics.map (fun diagnostic => "skipped " ++ diagnostic.text) ++
    (if report.cancelled then ["cancelled before all declarations were processed"] else []) ++
    [s!"{report.units.length} unit(s), {report.diagnostics.length} diagnostic(s)"]

/-- The text of lines, each ended. -/
def linesText (lines : List String) : String := String.join (lines.map (· ++ "\n"))

/-- What is reported. -/
def reportText (options : Options) (report : Report) : String :=
  match options.report.getD .text with
  | .text => linesText (summary options report)
  | .json => report.toJson.pretty 0 ++ "\n"

/-- The code of the units, shown instead of written. -/
def shownCode (report : Report) : String :=
  linesText (report.units.map fun unit => s!"=== {unit.fileName} ===\n{unit.code}")

/-! ### Running -/

/-- Hands out a report once the units have been written or shown. -/
def finish (options : Options) (report : Report) : m Outcome := do
  if options.dryRun then return .done (reportText options report) (shownCode report)
  match ← writeUnits options.outputOrDefault report.units with
  | .error failure => return .failed failure
  | .ok _ => return .done (reportText options report) ""

/-- Runs with options that have been understood. -/
def runWith (options : Options) : m Outcome := do
  match ← resolveConfig options with
  | .error failure => return .failed failure
  | .ok config =>
    let files ← collectInputs options.inputs
    match ← SourceUnit.loadAll (some options.sourceRootOrDefault) files with
    | .error failure => return .failed failure
    | .ok units =>
      match (← generateAndDump config Hints.empty units).1 with
      | .error failure => return .failed failure
      | .ok report => finish options report

def run (arguments : List String) : m Outcome := do
  match Options.read? arguments with
  | none => return .usage
  | some options => runWith options

end Command

end Endpoint
