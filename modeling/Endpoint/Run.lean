import Endpoint.Emission.Client
import Endpoint.Emission.Serializer
import Endpoint.Emission.Unit
import Endpoint.Hints
import Endpoint.Lowering.Client
import Endpoint.Lowering.Enumeration
import Endpoint.Validation

/-!
A run: the declarations of all units are found, sorted, given their hints, and processed one by
one; what they emit is collected in the order of the hints.
-/

namespace Endpoint

structure Report where
  units : List GeneratedUnit
  diagnostics : List Diagnostic
  cancelled : Bool
deriving Inhabited

/-- The unit with the hint. -/
def Report.unit? (report : Report) (hint : String) : Option GeneratedUnit :=
  report.units.find? (·.hint == hint)

/-- The units that a channel of the capacity takes; it takes one at least unless it is closed. -/
def Report.offered (report : Report) (capacity : Nat) (closed : Bool) : List GeneratedUnit :=
  if closed then [] else report.units.take (max capacity 1)

/-- A generator as shown for inspection: its settings, the number of hints that it knows, whether
it hands units on, and whether it has been cancelled. -/
def shownGenerator (config : Config) (hints : Nat) (sink cancelled : Bool) : String :=
  s!"Generator \x7b config: {config.shown}, names: {hints}, sink: {sink}, " ++
    s!"cancelled: {cancelled} \x7d"

namespace Run

/-- What came of one declaration. Only a client has a name that others may not share. -/
structure Processed where
  hint : String
  unit : Option GeneratedUnit
  clientName : Option String
  diagnostics : List Diagnostic

/-! ### One declaration -/

/-- Understands, validates and emits a trait. -/
def processClient (config : Config) (context : Emission.Context) (symbols : Symbols)
    (hint : String) (candidate : Candidate) (item : Source.Trait) :
    Except Failure Processed := do
  let lowered ← Lowering.client candidate item symbols config
  match lowered.definition with
  | none => return ⟨hint, none, none, lowered.diagnostics⟩
  | some definition =>
    let (kept, diagnostics) := definition.validate
    let unit ← Emission.render (Emission.clientTokens context kept) hint candidate.kind
      candidate.identity
    return ⟨hint, some unit, some kept.name.written, lowered.diagnostics ++ diagnostics⟩

/-- Understands, validates and emits an enum. -/
def processEnum (context : Emission.Context) (hint : String) (candidate : Candidate)
    (item : Source.Enum) : Except Failure Processed := do
  let lowered := Lowering.enumeration candidate item
  match lowered.definition with
  | none => return ⟨hint, none, none, lowered.diagnostics⟩
  | some enumeration =>
    let problems := enumeration.problems
    if problems.isEmpty then
      let unit ← Emission.render (Emission.serializerTokens context enumeration) hint
        candidate.kind candidate.identity
      return ⟨hint, some unit, none, lowered.diagnostics⟩
    else return ⟨hint, none, none, lowered.diagnostics ++ problems⟩

def process (config : Config) (symbols : Symbols) (job : String × Candidate) :
    Except Failure Processed := do
  let context ← Emission.Context.ofConfig config
  match job.2.declaration with
  | .trait item => processClient config context symbols job.1 job.2 item
  | .enum item => processEnum context job.1 job.2 item

/-! ### All declarations -/

def Candidate.owner (candidate : Candidate) : HintOwner := ⟨candidate.kind, candidate.identity⟩

/-- Whether the first does not come after the second: by identity, clients before
serializers. -/
def sortsBefore (a b : Candidate) : Bool :=
  a.identity.precedes b.identity ||
    (a.identity == b.identity && (a.kind == .client || b.kind == .serializer))

/-- The candidates with their hints, which are reserved in order. -/
def reserveAll (hints : Hints) : List Candidate → List (String × Candidate) × Hints
  | [] => ([], hints)
  | candidate :: rest =>
    let (hint, hints) := hints.reserve (Candidate.owner candidate)
    let (jobs, hints) := reserveAll hints rest
    ((hint, candidate) :: jobs, hints)

/-- Whether a result ends the run at once. -/
def isAbrupt : Except Failure Processed → Bool
  | .error failure => failure.isAbrupt
  | .ok _ => false

/-- The results of all declarations, or the failure that ends the run. A failure that ends it at
once comes before others. -/
def settle (results : List (Except Failure Processed)) : Except Failure (List Processed) :=
  match results.find? isAbrupt with
  | some (.error failure) => .error failure
  | _ => results.mapM id

/-! ### Collecting -/

/-- The clients met so far: their modules and names, and the identity of each. -/
abbrev ClientNames := List ((Names × String) × Identity)

/-- What has been collected, with the names of the clients among it. -/
structure Collected where
  units : List GeneratedUnit
  diagnostics : List Diagnostic
  names : ClientNames

/-- Adds what came of a declaration. A client whose name is taken in its module is left out. -/
def Collected.add (held : Collected) (found : Processed) : Collected :=
  let held := { held with diagnostics := held.diagnostics ++ found.diagnostics }
  match found.unit, found.clientName with
  | none, _ => held
  | some unit, none => { held with units := held.units ++ [unit] }
  | some unit, some name =>
    let key := (unit.source.module, name)
    match held.names.find? (·.1 == key) with
    | some (_, owner) =>
      { held with
        diagnostics := held.diagnostics ++
          [.ofDeclaration unit.source (.clientNameCollision name owner.text)] }
    | none =>
      { held with
        units := held.units ++ [unit]
        names := held.names ++ [(key, unit.source)] }

/-- Collects what came of the declarations, by their hints. -/
def collect (diagnostics : List Diagnostic) (found : List Processed) : Collected :=
  (found.mergeSort fun a b => a.hint ≤ b.hint).foldl Collected.add ⟨[], diagnostics, []⟩

end Run

open Run in
/-- Generates code for every declaration of the units. A run that was cancelled before it began
reserves hints but processes nothing. -/
def generate (config : Config) (cancelled : Bool) (hints : Hints) (units : List SourceUnit) :
    Except Failure Report × Hints :=
  let symbols := Symbols.ofUnits units
  let scan := Scan.ofUnits units
  let (jobs, hints) := reserveAll hints (scan.candidates.mergeSort sortsBefore)
  if cancelled then (.ok ⟨[], scan.diagnostics, !jobs.isEmpty⟩, hints)
  else
    let report := do
      let found ← settle (jobs.map (process config symbols))
      let collected := collect scan.diagnostics found
      return ⟨collected.units, collected.diagnostics, false⟩
    (report, hints)

end Endpoint
