import Endpoint.Disk.FileSystem

/-!
A file system in memory: directories and files of text, and the directory that paths begin in.
-/

namespace Endpoint.Disk

/-- Where something lies: the names on the way from the root. -/
abbrev Place := List String

inductive Entry
  | directory
  | file (text : String)
deriving DecidableEq, Repr

/-- What lies where, except for the root, which is a directory, and the current directory. -/
structure Tree where
  entries : List (Place × Entry)
  current : Place
deriving Repr

namespace Tree

/-- An empty directory to work in. -/
def fresh : Tree := ⟨[(["tmp"], .directory), (["tmp", "work"], .directory)], ["tmp", "work"]⟩

def at? (tree : Tree) (place : Place) : Option Entry :=
  if place.isEmpty then some .directory
  else (tree.entries.find? (·.1 == place)).map (·.2)

/-- The tree with something else at the place. -/
def put (tree : Tree) (place : Place) (entry : Entry) : Tree :=
  if (tree.entries.find? (·.1 == place)).isSome then
    { tree with
      entries := tree.entries.map fun held => if held.1 == place then (place, entry) else held }
  else { tree with entries := tree.entries ++ [(place, entry)] }

/-- The tree without what lies at the place. -/
def erase (tree : Tree) (place : Place) : Tree :=
  { tree with entries := tree.entries.filter (·.1 != place) }

/-- The tree without what lies at the place and below it. -/
def eraseAll (tree : Tree) (place : Place) : Tree :=
  { tree with entries := tree.entries.filter fun held => !place.isPrefixOf held.1 }

/-! ### Paths -/

/-- The greatest number of bytes of a name. -/
def longestName : Nat := 255

/-- The greatest number of bytes of a path. -/
def longestPath : Nat := 4095

/-- Goes from a place along the parts of a path. Each step begins in a directory. -/
def walk (tree : Tree) : Place → List String → Except Fault Place
  | place, [] => .ok place
  | place, part :: rest =>
    match tree.at? place with
    | none => .error .missing
    | some (.file _) => .error .noDirectory
    | some .directory =>
      if part.isEmpty || part == "." then walk tree place rest
      else if part == ".." then walk tree place.dropLast rest
      else if part.utf8ByteSize > longestName then .error .tooLong
      else walk tree (place ++ [part]) rest

/-- The parts of a path, with the place that it begins at. -/
def start (tree : Tree) (path : String) : Except Fault (Place × List String) :=
  if path.isEmpty then .error .missing
  else if path.utf8ByteSize > longestPath then .error .tooLong
  else if path.startsWith "/" then .ok ([], parts path)
  else .ok (tree.current, parts path)

/-- The place that a path leads to, where there need not be anything. -/
def locate (tree : Tree) (path : String) : Except Fault Place := do
  let (place, parts) ← tree.start path
  tree.walk place parts

/-- The path without slashes at its end. -/
def withoutSlashes (path : String) : String :=
  String.ofList (path.toList.reverse.dropWhile (· == '/')).reverse

/-- The last part of a path: its name, or nothing for one that ends in a slash, or in a point or
two. -/
def lastName? (path : String) : Option String :=
  match (parts path).getLast? with
  | some name => if name.isEmpty || name == "." || name == ".." then none else some name
  | none => none

/-! ### Operations -/

def read (tree : Tree) (path : String) : Except Fault String := do
  let place ← tree.locate path
  match tree.at? place with
  | none => throw .missing
  | some .directory => throw .directory
  | some (.file text) => return text

/-- Writes a file in place of what it held. -/
def write (tree : Tree) (path text : String) : Except Fault Tree := do
  if path.endsWith "/" then
    let _ ← tree.locate (withoutSlashes path)
    throw .directory
  let place ← tree.locate path
  match tree.at? place with
  | some .directory => throw .directory
  | _ => return tree.put place (.file text)

/-- Moves a file in place of another. -/
def rename (tree : Tree) (source target : String) : Except Fault Tree := do
  let held ← tree.locate source
  let place ← tree.locate (withoutSlashes target)
  if !target.endsWith "/" && (lastName? target).isNone then throw .busy
  match tree.at? held with
  | none => throw .missing
  | some .directory => throw .directory
  | some (.file text) =>
    if target.endsWith "/" then throw .noDirectory
    match tree.at? place with
    | some .directory => throw .directory
    | _ => return (if held == place then tree else (tree.erase held).put place (.file text))

def makeDirectory (tree : Tree) (path : String) : Except Fault Tree := do
  let trimmed := withoutSlashes path
  if trimmed.isEmpty && !path.isEmpty then throw .occupied
  let place ← tree.locate trimmed
  match tree.at? place with
  | some _ => throw .occupied
  | none => return tree.put place .directory

/-- Removes a file. -/
def remove (tree : Tree) (path : String) : Except Fault Tree := do
  let place ← tree.locate path
  match tree.at? place with
  | none => throw .missing
  | some .directory => throw .directory
  | some (.file _) => return tree.erase place

/-- The name that a place has in the directory. -/
def nameIn? (directory place : Place) : Option String :=
  match place.reverse with
  | name :: above => if above.reverse == directory then some name else none
  | [] => none

def names (tree : Tree) (path : String) : Except Fault (List String) := do
  let place ← tree.locate path
  match tree.at? place with
  | none => throw .missing
  | some (.file _) => throw .noDirectory
  | some .directory => return tree.entries.filterMap fun held => nameIn? place held.1

/-- What a path leads to. -/
def entry? (tree : Tree) (path : String) : Option Entry :=
  match tree.locate path with
  | .ok place => tree.at? place
  | .error _ => none

def isDirectory (tree : Tree) (path : String) : Bool := tree.entry? path == some .directory

def isFile (tree : Tree) (path : String) : Bool :=
  match tree.entry? path with
  | some (.file _) => true
  | _ => false

/-- Removes a file, or a directory with all that it holds. -/
def removeAll (tree : Tree) (path : String) : Except Fault Tree := do
  let place ← tree.locate path
  match tree.at? place with
  | none => throw .missing
  | some _ => return tree.eraseAll place

/-! ### Changes -/

/-- The files below the current directory, by their paths from there. -/
def files (tree : Tree) : List (String × String) :=
  tree.entries.filterMap fun held =>
    match held.2 with
    | .directory => none
    | .file text =>
      if tree.current.isPrefixOf held.1 then
        some ("/".intercalate (held.1.drop tree.current.length), text)
      else none

/-- The files that are new or differ from before. -/
def changed (before after : Tree) : List (String × String) :=
  after.files.filter fun held => !before.files.contains held

/-- The paths of files that are gone. -/
def removed (before after : Tree) : List String :=
  (before.files.map (·.1)).filter fun path => !(after.files.map (·.1)).contains path

/-- Runs an operation that leaves the tree alone if it is refused. -/
def attempt (step : Tree → Except Fault Tree) : StateM Tree (Except Fault Unit) := fun tree =>
  match step tree with
  | .ok after => (.ok (), after)
  | .error fault => (.error fault, tree)

instance : FileSystem (StateM Tree) where
  read path := fun tree => (tree.read path, tree)
  write path text := attempt fun tree => tree.write path text
  rename source target := attempt fun tree => tree.rename source target
  makeDirectory path := attempt fun tree => tree.makeDirectory path
  remove path := attempt fun tree => tree.remove path
  names path := fun tree => (tree.names path, tree)
  isDirectory path := fun tree => (tree.isDirectory path, tree)
  isFile path := fun tree => (tree.isFile path, tree)

end Tree

end Endpoint.Disk
