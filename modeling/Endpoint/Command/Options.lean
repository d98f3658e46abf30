/-!
The options of the command line. Each option with one value and each switch may stand once;
inputs may be given several times, and as many in a row as there are.
-/

namespace Endpoint.Command

inductive ReportForm
  | text
  | json
deriving DecidableEq, Repr

structure Options where
  inputs : List String := []
  sourceRoot : Option String := none
  output : Option String := none
  config : Option String := none
  clientSuffix : Option String := none
  dumpDirectory : Option String := none
  dryRun : Bool := false
  report : Option ReportForm := none
  verbosity : Nat := 0

namespace Options

/-- The directory that module paths begin below. -/
def sourceRootOrDefault (options : Options) : String := options.sourceRoot.getD "src"

/-- The directory that the units go to. -/
def outputOrDefault (options : Options) : String := options.output.getD "target/restgen"

inductive Name
  | input
  | sourceRoot
  | output
  | config
  | clientSuffix
  | dumpDirectory
  | dryRun
  | report
  | verbose
deriving DecidableEq, Repr

def Name.ofLong? : String → Option Name
  | "input" => some .input
  | "src-root" => some .sourceRoot
  | "output" => some .output
  | "config" => some .config
  | "client-suffix" => some .clientSuffix
  | "dump-dir" => some .dumpDirectory
  | "dry-run" => some .dryRun
  | "report" => some .report
  | "verbose" => some .verbose
  | _ => none

def Name.ofShort? : Char → Option Name
  | 'i' => some .input
  | 'o' => some .output
  | 'c' => some .config
  | 'v' => some .verbose
  | _ => none

/-- Whether the option is a switch, which takes no value. -/
def Name.isSwitch (name : Name) : Bool := name == .dryRun || name == .verbose

/-- A value in a place that must be free. -/
def setOnce {α : Type} (place : Option α) (value : α) : Option (Option α) :=
  if place.isSome then none else some (some value)

/-- A path, which is never empty. -/
def path? (value : String) : Option String := if value.isEmpty then none else some value

def reportForm? : String → Option ReportForm
  | "text" => some .text
  | "json" => some .json
  | _ => none

/-- Takes an option with its value. -/
def set (options : Options) (name : Name) (value : String) : Option Options :=
  match name with
  | .input => do return { options with inputs := options.inputs ++ [← path? value] }
  | .sourceRoot => do
    return { options with sourceRoot := ← setOnce options.sourceRoot (← path? value) }
  | .output => do return { options with output := ← setOnce options.output (← path? value) }
  | .config => do return { options with config := ← setOnce options.config (← path? value) }
  | .clientSuffix => do
    return { options with clientSuffix := ← setOnce options.clientSuffix value }
  | .dumpDirectory => do
    return { options with dumpDirectory := ← setOnce options.dumpDirectory (← path? value) }
  | .report => do
    return { options with report := ← setOnce options.report (← reportForm? value) }
  | .dryRun | .verbose => none

/-- Takes a switch. -/
def switch (options : Options) (name : Name) : Option Options :=
  match name with
  | .dryRun => if options.dryRun then none else some { options with dryRun := true }
  | .verbose => some { options with verbosity := options.verbosity + 1 }
  | _ => none

/-- What an argument that begins with hyphens asks for: switches, and an option with a value
that stands in the argument or has to follow. -/
structure Flags where
  switches : List Name
  option : Option (Name × Option String)

/-- The letters of an argument with one hyphen. The first option that takes a value takes what is
left of the argument. -/
def Flags.ofLetters? : List Char → Option Flags
  | [] => some ⟨[], none⟩
  | letter :: rest => do
    let name ← Name.ofShort? letter
    if name.isSwitch then
      let more ← ofLetters? rest
      return { more with switches := name :: more.switches }
    else
      let value := match rest with
        | [] => none
        | '=' :: value => some (String.ofList value)
        | value => some (String.ofList value)
      return ⟨[], some (name, value)⟩

/-- An argument with two hyphens. -/
def Flags.ofLong? (text : List Char) : Option Flags := do
  let name ← Name.ofLong? (String.ofList (text.takeWhile (· != '=')))
  let value := match text.dropWhile (· != '=') with
    | _ :: value => some (String.ofList value)
    | [] => none
  if name.isSwitch then
    if value.isSome then none else some ⟨[name], none⟩
  else return ⟨[], some (name, value)⟩

/-- What an argument is: the mark behind which no option follows, flags, or a value. -/
inductive Argument
  | mark
  | flags (held : Option Flags)
  | value

def Argument.of (argument : String) : Argument :=
  match argument.toList with
  | ['-', '-'] => .mark
  | '-' :: '-' :: rest => .flags (Flags.ofLong? rest)
  | ['-'] => .value
  | '-' :: rest => .flags (Flags.ofLetters? rest)
  | _ => .value

/-- What the next argument may be: a value that has to come, a further input, or no value. -/
inductive Awaiting
  | value (name : Name)
  | inputs
  | nothing
deriving DecidableEq

/-- Takes flags that stand where no value has to come. -/
def take (options : Options) (flags : Flags) : Option (Options × Awaiting) := do
  let options ← flags.switches.foldlM switch options
  match flags.option with
  | none => return (options, .nothing)
  | some (name, some value) => return (← options.set name value, .nothing)
  | some (name, none) => return (options, .value name)

/-- Reads the arguments from one on. -/
def readFrom (options : Options) : Awaiting → List String → Option Options
  | .value _, [] => none
  | _, [] => some options
  | awaiting, argument :: rest =>
    match Argument.of argument, awaiting with
    | .mark, .value _ => none
    | .mark, _ => if rest.isEmpty then some options else none
    | .flags _, .value _ => none
    | .flags none, _ => none
    | .flags (some flags), _ => do
      let (options, awaiting) ← options.take flags
      readFrom options awaiting rest
    | .value, .value name => do
      readFrom (← options.set name argument) (if name == .input then .inputs else .nothing) rest
    | .value, .inputs => do readFrom (← options.set .input argument) .inputs rest
    | .value, .nothing => none

/-- The options that the arguments make, if they can be understood. There must be an input. -/
def read? (arguments : List String) : Option Options := do
  let options ← readFrom {} .nothing arguments
  if options.inputs.isEmpty then none else some options

end Options

end Endpoint.Command
