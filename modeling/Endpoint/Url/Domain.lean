import Endpoint.Text.Split
import Endpoint.Url.Domain.Direction
import Endpoint.Url.Domain.Joining
import Endpoint.Url.Domain.Mapping
import Endpoint.Url.Punycode

/-!
Domain names in ASCII. The characters of a name are mapped to their forms and composed; a label
with characters beyond ASCII is then written in digits behind the mark `xn--`. A label that
already has the mark must stand for such a label.
-/

namespace Endpoint.Url.Domain

/-- Characters that no domain name holds. -/
def isForbidden (c : Char) : Bool :=
  c.toNat ≤ 32 || c.toNat == 127 || "#/:<>?@[\\]^|%".toList.contains c

def isAscii (cs : List Char) : Bool := cs.all (·.toNat < 128)

/-- The label that a marked label stands for, given what follows the mark. It has characters
beyond ASCII, and all are in their own form. -/
def marked? (digits : List Char) : Option (List Char) := do
  if !isAscii digits || digits.length > 2000 then none
  else
    let label ← Punycode.decode? digits
    if !isAscii label && label.all isOwnForm && composed label == label then some label else none

/-- The label that a label stands for. -/
def meaning? : List Char → Option (List Char)
  | 'x' :: 'n' :: '-' :: '-' :: digits => marked? digits
  | label => some label

/-- Whether the characters may stand where they do in the label. -/
def isPlaced (label : List Char) : Bool := !label.head?.any isMark && joinsBehind [] label

/-- Whether a label of the name is written from right to left. -/
def isBackward (labels : List (List Char)) : Bool :=
  labels.any fun label => label.any fun c => (Direction.ofChar c).isBackward

/-- Whether the labels of a name keep its rules. -/
def isValid (labels : List (List Char)) : Bool :=
  labels.all isPlaced && (!isBackward labels || labels.all obeysDirection)

/-- A label in ASCII. -/
def asciiLabel? (label : List Char) : Option (List Char) :=
  if isAscii label then some label
  else if label.length > 1000 then none
  else some ("xn--".toList ++ Punycode.encode label)

/-- The domain name in small ASCII letters, if it is one. -/
def ascii? (name : String) : Option (List Char) := do
  let forms ← name.toList.mapM form?
  let labels := Text.splitAt (· == '.') (composed forms.flatten)
  if labels.any (·.any isForbidden) || !isValid (← labels.mapM meaning?) then none
  else return (['.'].intercalate (← labels.mapM asciiLabel?)).map Char.toLower

end Endpoint.Url.Domain
