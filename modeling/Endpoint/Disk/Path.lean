import Endpoint.Text.Split

/-!
Paths of files as text: their components, the name of the last one, and what is derived from it.
-/

namespace Endpoint.Disk

inductive Component
  | root
  | current
  | parent
  | normal (name : String)
deriving DecidableEq, Repr

/-- The component that a part between slashes is. -/
def Component.ofPart (part : String) : Component :=
  if part == ".." then .parent else if part == "." then .current else .normal part

/-- The parts of a path between slashes. -/
def parts (path : String) : List String :=
  (Text.splitAt (· == '/') path.toList).map String.ofList

/-- The components of a path. Repeated slashes count as one; a point counts only in front. -/
def components (path : String) : List Component :=
  let written := (parts path).filter (!·.isEmpty)
  let absolute := path.startsWith "/"
  let leading := !absolute && written.head? == some "."
  (if absolute then [.root] else if leading then [.current] else []) ++
    (written.filter (· != ".")).map Component.ofPart

/-- The components behind those of the root, if the path begins with them. -/
def stripRoot? (path root : String) : Option (List Component) :=
  let parts := components path
  let lead := components root
  if lead.isPrefixOf parts then some (parts.drop lead.length) else none

/-- The name that the path ends in. -/
def fileName? (path : String) : Option String :=
  match (components path).getLast? with
  | some (.normal name) => some name
  | _ => none

/-- The last point of a name that does not begin it: the text before and behind it. -/
def splitName (name : String) : String × Option String :=
  let cs := name.toList
  let behind := (cs.reverse.takeWhile (· != '.')).reverse
  let before := cs.take (cs.length - behind.length - 1)
  if behind.length == cs.length || before.isEmpty then (name, none)
  else (String.ofList before, some (String.ofList behind))

/-- A name without its extension. -/
def stem (name : String) : String := (splitName name).1

def extension? (path : String) : Option String := do (splitName (← fileName? path)).2

/-- The text without slashes and points of their own at its end. -/
def withoutTail (path : String) : Nat → String
  | 0 => path
  | fuel + 1 =>
    let cs := path.toList.reverse
    match cs with
    | '/' :: rest => if rest.isEmpty then path else withoutTail (String.ofList rest.reverse) fuel
    | '.' :: '/' :: rest =>
      withoutTail (String.ofList ('/' :: rest).reverse) fuel
    | _ => path

/-- The path with the extension of its last name replaced. -/
def withExtension (path ext : String) : String :=
  match fileName? path with
  | none => path
  | some name =>
    let trimmed := withoutTail path path.length
    let keep := trimmed.length - name.length + (stem name).length
    (trimmed.take keep).toString ++ "." ++ ext

/-- A path inside a directory; an absolute one stays. -/
def join (directory path : String) : String :=
  if path.startsWith "/" then path
  else if directory.isEmpty || directory.endsWith "/" then directory ++ path
  else directory ++ "/" ++ path

/-- The directory that a path is in, as the path writes it; nothing for a root and for an empty
path. -/
def parent? (path : String) : Option String :=
  match (components path).getLast? with
  | none | some .root => none
  | some _ =>
    let trimmed := withoutTail path path.length
    let front := String.ofList (trimmed.toList.reverse.dropWhile (· != '/')).reverse
    some (withoutTail front front.length)

/-- Whether the first component comes first. -/
def Component.rank : Component → Nat
  | .root => 0
  | .current => 1
  | .parent => 2
  | .normal _ => 3

/-- Whether the first list of components does not come after the second. -/
def precedes : List Component → List Component → Bool
  | [], _ => true
  | _ :: _, [] => false
  | .normal a :: as, .normal b :: bs => a < b || (a == b && precedes as bs)
  | a :: as, b :: bs => a.rank < b.rank || (a.rank == b.rank && precedes as bs)

/-- The module path of a source file below a root, or of a file by its name alone if it is not
below the root. Files named for the crate or for their directory add no segment of their own. -/
def modulePath (path : String) (root : Option String) : List String :=
  let parts :=
    match root.bind (stripRoot? path) with
    | some parts => parts
    | none => ((fileName? path).map fun name => [Component.normal name]).getD []
  let names := parts.filterMap fun
    | .normal name => some name
    | _ => none
  match names.getLast? with
  | none => []
  | some last =>
    let front := names.dropLast
    let name := stem last
    if name == "mod" || (front.isEmpty && (name == "lib" || name == "main")) then front
    else front ++ [name]

end Endpoint.Disk
