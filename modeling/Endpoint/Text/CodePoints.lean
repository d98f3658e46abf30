/-!
Sets of code points given by sorted ranges, and the test whether a character lies in one.
-/

namespace Endpoint.Text

/-- A set of code points as closed ranges, lowest first. -/
abbrev CodePoints := List (Nat × Nat)

/-- Whether the code point lies in one of the ranges. -/
def CodePoints.holds (set : CodePoints) (point : Nat) : Bool :=
  set.any fun range => range.1 ≤ point && point ≤ range.2

/-- The apostrophe, which opens a lifetime or a character literal. -/
def apostrophe : Char := Char.ofNat 39

end Endpoint.Text
