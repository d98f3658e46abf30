import Endpoint.Diagnostic
import Endpoint.Imports
import Endpoint.SourceUnit

/-!
Finding the declarations to generate code for: traits and enums that carry the vocabulary's
marker, as seen through the imports of their own module.
-/

namespace Endpoint

open Source (Item Trait Enum Attributes)

/-- What is generated for a declaration. -/
inductive Kind
  | client
  | serializer
deriving DecidableEq, Repr, Inhabited

def Kind.text : Kind → String
  | .client => "client"
  | .serializer => "serializer"

/-- The marker that asks for it. -/
def Kind.marker : Kind → Marker
  | .client => .client
  | .serializer => .serializer

/-- A trait or an enum. -/
inductive Declaration
  | trait (item : Trait)
  | enum (item : Enum)

namespace Declaration

def kind : Declaration → Kind
  | .trait _ => .client
  | .enum _ => .serializer

def name : Declaration → String
  | .trait item => item.name.written
  | .enum item => item.name.written

def attributes : Declaration → Attributes
  | .trait item => item.attributes
  | .enum item => item.attributes

def tokens : Declaration → Source.Tokens
  | .trait item => item.tokens
  | .enum item => item.tokens

end Declaration

/-- A declaration to generate code for, with the imports that its paths are read with. -/
structure Candidate where
  identity : Identity
  kind : Kind
  imports : Imports
  declaration : Declaration

/-- What a scan has found so far: candidates, diagnostics, and the identities met. -/
structure Scan where
  candidates : List Candidate
  diagnostics : List Diagnostic
  seen : List (Kind × Identity)

namespace Scan

def empty : Scan := ⟨[], [], []⟩

/-- The number of attributes that are the marker. -/
def markerCount (imports : Imports) (attributes : Attributes) (marker : Marker) : Nat :=
  (attributes.filter fun held => imports.marker? held.path == some marker).length

/-- Takes note of a declaration. Only the first of an identity counts. -/
def add (imports : Imports) (found : Declaration) (scan : Scan) : Scan :=
  let hits := markerCount imports found.attributes found.kind.marker
  let identity : Identity := ⟨imports.module, found.name⟩
  if hits = 0 || scan.seen.contains (found.kind, identity) then scan
  else
    let scan := { scan with seen := scan.seen ++ [(found.kind, identity)] }
    if hits > 1 && found.kind == .client then
      { scan with
        diagnostics :=
          scan.diagnostics ++ [.ofDeclaration identity .duplicateClientMarker] }
    else
      { scan with
        candidates := scan.candidates ++ [⟨identity, found.kind, imports, found⟩] }

mutual

def addItem (imports : Imports) (scan : Scan) : Item → Scan
  | .trait item => add imports (.trait item) scan
  | .enum item => add imports (.enum item) scan
  | .module _ _ _ name (some items) =>
    let module := imports.module ++ [name.written]
    addItems (Imports.ofItems module items) scan items
  | _ => scan

def addItems (imports : Imports) (scan : Scan) : List Item → Scan
  | [] => scan
  | item :: rest => addItems imports (addItem imports scan item) rest

end

def addUnit (scan : Scan) (unit : SourceUnit) : Scan :=
  addItems (Imports.ofItems unit.module unit.file.items) scan unit.file.items

/-- The declarations of the units, in order. -/
def ofUnits (units : List SourceUnit) : Scan := units.foldl addUnit empty

end Scan

end Endpoint
