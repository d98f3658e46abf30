/-!
Failures that end a whole run.
-/

namespace Endpoint

namespace Disk

/-- Why the file system refuses. -/
inductive Fault
  | missing
  | busy
  | occupied
  | noDirectory
  | directory
  | tooLong
  | notEmpty
  | noText
  | other (code : Nat)
deriving DecidableEq, Repr

def Fault.message : Fault → String
  | .missing => "No such file or directory (os error 2)"
  | .busy => "Device or resource busy (os error 16)"
  | .occupied => "File exists (os error 17)"
  | .noDirectory => "Not a directory (os error 20)"
  | .directory => "Is a directory (os error 21)"
  | .tooLong => "File name too long (os error 36)"
  | .notEmpty => "Directory not empty (os error 39)"
  | .noText => "stream did not contain valid UTF-8"
  | .other code => s!"os error {code}"

end Disk

/-- Why a run ends without a report. Two of the causes end it at once, without a message: text that
was taken for an identifier but is none, and generated text in a form that has no layout. -/
inductive Failure
  | read (path : String) (fault : Disk.Fault)
  | parse (path : String)
  | emission
  | write (path : String) (fault : Disk.Fault)
  | configParse (path : String)
  | config (reason : String)
  | identifier (text : String)
  | layout
deriving DecidableEq, Repr

namespace Failure

/-- The message of a failure, where it does not hang on another tool's words. -/
def message? : Failure → Option String
  | .read path fault => some s!"Failed to read '{path}': {fault.message}"
  | .write path fault => some s!"Failed to write output file '{path}': {fault.message}"
  | .config reason => some s!"Invalid configuration: {reason}"
  | .parse _ | .emission | .configParse _ | .identifier _ | .layout => none

/-- Whether the failure ends a run at once. -/
def isAbrupt : Failure → Bool
  | .identifier _ | .layout => true
  | _ => false

end Failure

end Endpoint
