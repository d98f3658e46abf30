import Endpoint.Source.Declaration
import Endpoint.Vocabulary

/-!
The imports of a module, and what paths written in it stand for. Paths into the crate begin with
`crate`.
-/

namespace Endpoint

open Source (Item UseTree Path)

/-- What the `use` items of a module bring into scope: names with the paths that they stand for,
the latest first, and the modules imported as a whole, in order. -/
structure Imports where
  module : Names
  aliases : List (String × Names)
  globs : List Names
deriving Repr, Inhabited

namespace Imports

/-- A path inside the crate. -/
def cratePath (module rest : Names) : Names := "crate" :: (module ++ rest)

/-- Goes up one module for each leading `super`. -/
def climb : Names → Names → Names
  | module, "super" :: rest => climb module.dropLast rest
  | module, rest => cratePath module rest

/-- The path from the crate that a relative path stands for in the module. -/
def anchor (module : Names) : Names → Names
  | "self" :: rest => cratePath module rest
  | "super" :: rest => climb module ("super" :: rest)
  | path => path

/-- The path that an imported one stands for; one with a leading `::` stands for itself. -/
def absolute (module : Names) (rooted : Bool) (path : Names) : Names :=
  if rooted then path else anchor module path

def addAlias (imports : Imports) (name : String) (path : Names) : Imports :=
  { imports with aliases := (name, path) :: imports.aliases }

def addGlob (imports : Imports) (path : Names) : Imports :=
  { imports with globs := imports.globs ++ [path] }

mutual

/-- Adds the names that a tree of imports brings, behind the given path. -/
def collect (rooted : Bool) (before : Names) (imports : Imports) : UseTree → Imports
  | .path name rest => collect rooted (before ++ [name.written]) imports rest
  | .name name =>
    if name.written == "self" then
      match before.getLast? with
      | some last => imports.addAlias last (absolute imports.module rooted before)
      | none => imports
    else
      imports.addAlias name.written (absolute imports.module rooted (before ++ [name.written]))
  | .rename name shown =>
    if shown.written == "_" then imports
    else
      let path := if name.written == "self" then before else before ++ [name.written]
      imports.addAlias shown.written (absolute imports.module rooted path)
  | .glob => imports.addGlob (absolute imports.module rooted before)
  | .group trees _ => collectAll rooted before imports trees

def collectAll (rooted : Bool) (before : Names) (imports : Imports) : List UseTree → Imports
  | [] => imports
  | tree :: rest => collectAll rooted before (collect rooted before imports tree) rest

end

/-- Adds what an item imports. -/
def addItem (imports : Imports) : Item → Imports
  | .use _ _ leading tree => collect leading [] imports tree
  | _ => imports

/-- The imports of a module with these items. -/
def ofItems (module : Names) (items : List Item) : Imports :=
  items.foldl addItem ⟨module, [], []⟩

/-- The path that a name was imported for. -/
def alias? (imports : Imports) (name : String) : Option Names :=
  (imports.aliases.find? (·.1 == name)).map (·.2)

/-- The path that the written segments stand for. A name alone that no import brings by name is
only known if a module imported as a whole provides it. -/
def resolveNames (imports : Imports) (leading : Bool) (segments : Names) : Option Names :=
  if leading then some segments
  else
    match segments with
    | [] => none
    | head :: rest =>
      match imports.alias? head with
      | some full => some (full ++ rest)
      | none =>
        if ["crate", "self", "super"].contains head then some (anchor imports.module segments)
        else if rest.isEmpty then
          (imports.globs.find? fun module => moduleProvides module head).map (· ++ [head])
        else some segments

def resolve (imports : Imports) (path : Path) : Option Names :=
  imports.resolveNames path.leading path.names

/-- Elements without repetitions of the one before. -/
def withoutRepeats : List Names → List Names
  | a :: b :: rest => if a == b then withoutRepeats (b :: rest) else a :: withoutRepeats (b :: rest)
  | rest => rest

/-- The paths that a type may be declared at, the likeliest first. -/
def typeCandidates (imports : Imports) (path : Path) : List Names :=
  let segments := path.names
  let local' :=
    if !path.leading && (imports.alias? (segments.headD "")).isNone then
      cratePath imports.module segments ::
        (imports.globs.filter (·.head? == some "crate")).map (· ++ segments)
    else []
  withoutRepeats ((imports.resolve path).toList ++ local')

/-- The marker that the path of an attribute stands for. -/
def marker? (imports : Imports) (path : Path) : Option Marker :=
  (imports.resolve path).bind Marker.ofPath?

/-- The known type that a path stands for. -/
def knownType? (imports : Imports) (path : Path) : Option KnownType :=
  (imports.resolve path).bind KnownType.ofPath?

end Imports

end Endpoint
