import Endpoint.Scan
import Endpoint.Text.LowerCase

/-!
Hints: the names of generated files. Each owner keeps the hint that it reserved first, and no two
hints are equal even where file names do not tell small letters from capitals.
-/

namespace Endpoint

/-- What a hint is reserved for. -/
structure HintOwner where
  kind : Kind
  identity : Identity
deriving DecidableEq, Repr

/-- The hints reserved so far, by owner, and the owner of each hint in small letters. -/
structure Hints where
  byOwner : List (HintOwner × String)
  byHint : List (String × HintOwner)
deriving Repr

namespace Hints

def empty : Hints := ⟨[], []⟩

/-- The hints that an owner may get, by preference: the plain one, then those with a number,
which begin at two. -/
def choice (owner : HintOwner) : Nat → String
  | 0 => s!"{owner.identity.dotted}.{owner.kind.text}"
  | index + 1 => s!"{owner.identity.dotted}_{index + 2}.{owner.kind.text}"

/-- Whether the hint belongs to an owner, letters taken as small. -/
def isTaken (hints : Hints) (hint : String) : Bool :=
  (hints.byHint.find? (·.1 == Text.lowerCase hint)).isSome

/-- The first choice from the given one on that is free, looking at `count` choices at most. -/
def firstFree (hints : Hints) (owner : HintOwner) : Nat → Nat → String
  | 0, index => choice owner index
  | count + 1, index =>
    if hints.isTaken (choice owner index) then firstFree hints owner count (index + 1)
    else choice owner index

/-- The hint that the owner has reserved. -/
def get? (hints : Hints) (owner : HintOwner) : Option String :=
  (hints.byOwner.find? (·.1 == owner)).map (·.2)

/-- The hint of an owner, which is reserved if it has none. Of as many choices as there are
hints and one more, one is free. -/
def reserve (hints : Hints) (owner : HintOwner) : String × Hints :=
  match hints.get? owner with
  | some hint => (hint, hints)
  | none =>
    let hint := hints.firstFree owner hints.byHint.length 0
    (hint, ⟨hints.byOwner ++ [(owner, hint)],
      hints.byHint ++ [(Text.lowerCase hint, owner)]⟩)

/-- The number of owners. -/
def count (hints : Hints) : Nat := hints.byOwner.length

end Hints

end Endpoint
