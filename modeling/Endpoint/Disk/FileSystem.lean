import Endpoint.Disk.Path
import Endpoint.Failure

/-!
What is asked of a file system, and what follows from it: making directories with all those
above them, and finding the files below a directory.
-/

namespace Endpoint.Disk

/-- The operations of a file system. Renaming replaces the target in one step. -/
class FileSystem (m : Type → Type) where
  read : String → m (Except Fault String)
  write : String → String → m (Except Fault Unit)
  rename : String → String → m (Except Fault Unit)
  makeDirectory : String → m (Except Fault Unit)
  remove : String → m (Except Fault Unit)
  names : String → m (Except Fault (List String))
  isDirectory : String → m Bool
  isFile : String → m Bool

variable {m : Type → Type} [Monad m] [FileSystem m]

/-- Makes a directory; one that is there already will do. -/
def ensureDirectory (path : String) : m (Except Fault Unit) := do
  match ← FileSystem.makeDirectory path with
  | .ok _ => return .ok ()
  | .error fault => return if ← FileSystem.isDirectory path then .ok () else .error fault

/-- Makes a directory and those above it, going up `depth` steps at most. -/
def makeDirectoriesFor : Nat → String → m (Except Fault Unit)
  | 0, path => ensureDirectory path
  | depth + 1, path => do
    if path.isEmpty then return .ok ()
    match ← FileSystem.makeDirectory path with
    | .ok _ => return .ok ()
    | .error .missing =>
      match parent? path with
      | none => return .error .missing
      | some above =>
        match ← makeDirectoriesFor depth above with
        | .error fault => return .error fault
        | .ok _ => ensureDirectory path
    | .error fault => return if ← FileSystem.isDirectory path then .ok () else .error fault

/-- Makes a directory and those above it. -/
def makeDirectories (path : String) : m (Except Fault Unit) :=
  makeDirectoriesFor (path.length + 1) path

/-- The files below a directory, going down `depth` steps at most. What cannot be listed is
passed over. -/
def filesBelowFor : Nat → String → m (List String)
  | 0, _ => return []
  | depth + 1, directory => do
    match ← FileSystem.names directory with
    | .error _ => return []
    | .ok names =>
      let found ← names.mapM fun name => do
        let path := join directory name
        if ← FileSystem.isDirectory path then filesBelowFor depth path
        else if ← FileSystem.isFile path then return [path]
        else return []
      return found.flatten

/-- The files below a directory. Paths are short enough for the depth. -/
def filesBelow (directory : String) : m (List String) := filesBelowFor 4096 directory

end Endpoint.Disk
