import Endpoint.Disk.FileSystem
import Endpoint.SourceUnit

/-!
Source units from files. The module of a file follows from where it lies below a root.
-/

namespace Endpoint.SourceUnit

open Disk (FileSystem)

variable {m : Type → Type} [Monad m] [FileSystem m]

/-- The unit in the text of a file. -/
def ofFileText (root : Option String) (path text : String) : Except Failure SourceUnit :=
  match read path (Disk.modulePath path root) text with
  | .ok unit => .ok unit
  | .error _ => .error (.parse path)

def load (root : Option String) (path : String) : m (Except Failure SourceUnit) := do
  match ← FileSystem.read path with
  | .error fault => return .error (.read path fault)
  | .ok text => return ofFileText root path text

/-- Loads files up to the first that is no unit. -/
def loadAll (root : Option String) : List String → m (Except Failure (List SourceUnit))
  | [] => return .ok []
  | path :: rest => do
    match ← load root path with
    | .error failure => return .error failure
    | .ok unit => return (← loadAll root rest).map (unit :: ·)

end Endpoint.SourceUnit
