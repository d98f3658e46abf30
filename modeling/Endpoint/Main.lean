import Endpoint.Command

/-!
The program: the command on the file system of the machine.
-/

namespace Endpoint

namespace Disk

/-- The refusal with the number. -/
def Fault.ofCode : Nat → Fault
  | 2 => .missing
  | 16 => .busy
  | 17 => .occupied
  | 20 => .noDirectory
  | 21 => .directory
  | 36 => .tooLong
  | 39 => .notEmpty
  | code => .other code

/-- The number of an error of the machine. -/
def errorCode : IO.Error → UInt32
  | .alreadyExists _ code _ | .interrupted _ code _ | .noFileOrDirectory _ code _ => code
  | .invalidArgument _ code _ | .permissionDenied _ code _ => code
  | .resourceExhausted _ code _ | .inappropriateType _ code _ | .noSuchThing _ code _ => code
  | .otherError code _ | .resourceBusy code _ | .resourceVanished code _ => code
  | .unsupportedOperation code _ | .hardwareFault code _ | .unsatisfiedConstraints code _ => code
  | .illegalOperation code _ | .protocolError code _ | .timeExpired code _ => code
  | .unexpectedEof | .userError _ => 0

/-- Runs an operation of the machine. -/
def attempt {α : Type} (act : IO α) : IO (Except Fault α) := do
  try return .ok (← act)
  catch error => return .error (.ofCode (errorCode error).toNat)

/-- Whether there is a directory at the path. -/
def directoryExists (path : String) : IO Bool := do
  if path.isEmpty then return false
  ((← IO.currentDir) / path).isDir

/-- Whether there is something else at the path. -/
def fileExists (path : String) : IO Bool := do
  if path.isEmpty then return false
  let place := (← IO.currentDir) / path
  return (← place.pathExists) && !(← place.isDir)

/-- The names in the directory at the path. -/
def directoryNames (path : String) : IO (List String) := do
  let found ← ((← IO.currentDir) / path).readDir
  return found.toList.map fun entry => entry.fileName

instance : FileSystem IO where
  read path := attempt (IO.FS.readFile path)
  write path text := attempt (IO.FS.writeFile path text)
  rename source target := attempt (IO.FS.rename source target)
  makeDirectory path := attempt (IO.FS.createDir path)
  remove path := attempt (IO.FS.removeFile path)
  names path := attempt (directoryNames path)
  isDirectory := directoryExists
  isFile := fileExists

end Disk

/-- What is said about a failure. -/
def Failure.text (failure : Failure) : String :=
  match failure with
  | .parse path => s!"Failed to parse '{path}'"
  | .emission => "Code generation failed"
  | .configParse path => s!"Failed to load config '{path}'"
  | .identifier text => s!"not an identifier: {text}"
  | .layout => "generated code has no layout"
  | other => other.message?.getD ""

/-- Prints what a call of the command comes to. -/
def Command.Outcome.print : Command.Outcome → IO Unit
  | .usage =>
    IO.eprintln
      ("usage: restgen-gen --input <INPUT>... [--src-root <DIR>] [--output <DIR>] " ++
        "[--config <FILE>] [--client-suffix <SUFFIX>] [--dump-dir <DIR>] [--dry-run] " ++
        "[--report <text|json>] [-v]...")
  | .failed failure => IO.eprintln s!"Error: {failure.text}"
  | .done output errors => do
    IO.eprint errors
    IO.print output

end Endpoint

def main (arguments : List String) : IO UInt32 := do
  let outcome : Endpoint.Command.Outcome ← Endpoint.Command.run arguments
  outcome.print
  return outcome.status.toUInt32
