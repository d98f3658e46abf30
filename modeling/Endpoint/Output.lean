import Endpoint.Disk.FileSystem
import Endpoint.Emission.Unit

/-!
Generated units in a directory. A file is replaced in one step and only if it changes; files of
earlier runs go, but none that does not begin with the header.
-/

namespace Endpoint

open Disk (FileSystem)

variable {m : Type → Type} [Monad m] [FileSystem m]

/-- The outcome of a step that writes to the path. -/
def writing {α : Type} (path : String) : Except Disk.Fault α → Except Failure α
  | .ok value => .ok value
  | .error fault => .error (.write path fault)

/-- The name under which the text of a file is written before it takes the place of the file. -/
def temporaryPath (path : String) : String := Disk.withExtension path "tmp"

/-- Makes the directory that a path is in. -/
def makeParent (path : String) : m (Except Failure Unit) := do
  match Disk.parent? path with
  | none => return .ok ()
  | some directory =>
    if directory.isEmpty then return .ok ()
    else return writing directory (← Disk.makeDirectories directory)

/-- Writes a file by way of a temporary one, so that it never holds a part of the text. -/
def writeAtomic (path text : String) : m (Except Failure Unit) := do
  match ← makeParent path with
  | .error failure => return .error failure
  | .ok _ =>
    match ← FileSystem.write (temporaryPath path) text with
    | .error fault => return .error (.write (temporaryPath path) fault)
    | .ok _ => return writing path (← FileSystem.rename (temporaryPath path) path)

/-- Writes a file unless it holds the text, and says whether it was written. -/
def writeIfChanged (path text : String) : m (Except Failure Bool) := do
  match ← FileSystem.read path with
  | .ok held =>
    if held == text then return .ok false
    else return (← writeAtomic path text).map fun _ => true
  | .error _ => return (← writeAtomic path text).map fun _ => true

/-- Writes the units to a directory, and gives their paths. -/
def writeEach (directory : String) : List GeneratedUnit → m (Except Failure (List String))
  | [] => return .ok []
  | unit :: rest => do
    let path := Disk.join directory unit.fileName
    match ← writeIfChanged path unit.code with
    | .error failure => return .error failure
    | .ok _ => return (← writeEach directory rest).map (path :: ·)

/-- Whether the path is one of those to keep, however it is written. -/
def isKept (keep : List String) (path : String) : Bool :=
  keep.any fun held => Disk.components held == Disk.components path

/-- Removes a file if it was generated and is not to be kept. -/
def removeIfStale (keep : List String) (path : String) : m (Except Failure Unit) := do
  if Disk.extension? path != some "rs" || isKept keep path then return .ok ()
  match ← FileSystem.read path with
  | .error _ => return .ok ()
  | .ok text =>
    if text.startsWith Emission.header then return writing path (← FileSystem.remove path)
    else return .ok ()

/-- Goes through paths up to the first that cannot be removed. -/
def removeEachStale (keep : List String) : List String → m (Except Failure Unit)
  | [] => return .ok ()
  | path :: rest => do
    match ← removeIfStale keep path with
    | .error failure => return .error failure
    | .ok _ => removeEachStale keep rest

/-- Removes the generated files of a directory that are not to be kept. -/
def removeStale (directory : String) (keep : List String) : m (Except Failure Unit) := do
  match ← FileSystem.names directory with
  | .error _ => return .ok ()
  | .ok names => removeEachStale keep (names.map (Disk.join directory))

/-- Makes a directory hold the units and no other generated files, and gives the paths of the
units. -/
def writeUnits (directory : String) (units : List GeneratedUnit) :
    m (Except Failure (List String)) := do
  match ← writeEach directory units with
  | .error failure => return .error failure
  | .ok paths => return (← removeStale directory paths).map fun _ => paths

/-- Puts a copy of a unit into a directory. It does not matter if that fails. -/
def dump (directory : String) (unit : GeneratedUnit) : m Unit := do
  match ← Disk.makeDirectories directory with
  | .error _ => return
  | .ok _ =>
    let _ ← FileSystem.write (Disk.join directory unit.fileName) unit.code
    return

end Endpoint
