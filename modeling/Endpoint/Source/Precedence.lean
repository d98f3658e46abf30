import Endpoint.Source.Expression

/-!
How tightly expressions hold together, and which of them need parentheses as operands. An
expression that was read as an operand needs none as long as it does not end in a closure: a
closure takes in all that follows it.
-/

namespace Endpoint.Source

/-- How tightly an operator binds; a later one binds tighter. -/
inductive Precedence
  | jump
  | assign
  | range
  | or
  | and
  | letIn
  | compare
  | bitOr
  | bitXor
  | bitAnd
  | shift
  | sum
  | product
  | cast
  | lead
  | tight
deriving DecidableEq

namespace Precedence

def rank : Precedence → Nat
  | .jump => 0
  | .assign => 1
  | .range => 2
  | .or => 3
  | .and => 4
  | .letIn => 5
  | .compare => 6
  | .bitOr => 7
  | .bitXor => 8
  | .bitAnd => 9
  | .shift => 10
  | .sum => 11
  | .product => 12
  | .cast => 13
  | .lead => 14
  | .tight => 15

instance : LT Precedence := ⟨fun a b => a.rank < b.rank⟩
instance : LE Precedence := ⟨fun a b => a.rank ≤ b.rank⟩
instance (a b : Precedence) : Decidable (a < b) := inferInstanceAs (Decidable (a.rank < b.rank))
instance (a b : Precedence) : Decidable (a ≤ b) := inferInstanceAs (Decidable (a.rank ≤ b.rank))

/-- The binary operators with what they bind, longer ones before their beginnings. -/
def operators : List (String × Precedence) :=
  [("+=", .assign), ("-=", .assign), ("*=", .assign), ("/=", .assign), ("%=", .assign),
    ("^=", .assign), ("&=", .assign), ("|=", .assign), ("<<=", .assign), (">>=", .assign),
    ("&&", .and), ("||", .or), ("<<", .shift), (">>", .shift), ("==", .compare),
    ("<=", .compare), ("!=", .compare), (">=", .compare), ("+", .sum), ("-", .sum),
    ("*", .product), ("/", .product), ("%", .product), ("^", .bitXor), ("&", .bitAnd),
    ("|", .bitOr), ("<", .compare), (">", .compare)]

/-- The precedence of a binary operator. -/
def ofOperator (operator : String) : Precedence :=
  ((operators.find? (·.1 == operator)).map (·.2)).getD .jump

end Precedence

namespace Precedence

/-- Whether an operand of this precedence may stand on the left of an operator without
parentheses. Assignments and ranges have nothing as loose as a range on their left, and
comparisons cannot be chained. -/
def admitsLeft (operator operand : Precedence) : Bool :=
  match operator with
  | .assign => decide (.range < operand)
  | .range | .compare => decide (operator < operand)
  | _ => decide (operator ≤ operand)

/-- Whether an operand of this precedence may stand on the right of an operator without
parentheses. Anything may stand behind an assignment or a jump. -/
def admitsRight (operator operand : Precedence) : Bool :=
  match operator with
  | .assign | .jump => true
  | .lead | .letIn => decide (operator ≤ operand)
  | _ => decide (operator < operand)

end Precedence

namespace Expr

/-- How tightly the expression holds together as an operand. A jump with a value and a closure
are the loosest of all: their value and body go on as far as they can. -/
def precedence : Expr → Precedence
  | .closure _ _ _ none _ | .breakOut _ (some _) | .returnWith (some _) | .yieldWith (some _) =>
    .jump
  | .assign .. => .assign
  | .range .. => .range
  | .binary _ operator _ => .ofOperator operator
  | .letIn .. => .letIn
  | .cast .. => .cast
  | .rawAddress .. | .reference .. | .unary .. => .lead
  | .attributed _ inner => if inner.precedence = .tight then .lead else inner.precedence
  | _ => .tight

/-- Whether a closure stands at the end of the expression, outside of all brackets. -/
def endsInClosure : Expr → Bool
  | .closure .. => true
  | .assign _ value | .binary _ _ value | .letIn _ value => value.endsInClosure
  | .rawAddress _ inner | .reference _ inner | .unary _ inner => inner.endsInClosure
  | .range _ _ (some high) => high.endsInClosure
  | .breakOut _ (some value) | .returnWith (some value) | .yieldWith (some value) =>
    value.endsInClosure
  | .attributed _ inner => inner.endsInClosure
  | _ => false

/-- Whether the expression needs parentheses on the left of an operator. -/
def groupsLeftOf (operand : Expr) (operator : Precedence) : Bool :=
  operand.endsInClosure && !operator.admitsLeft operand.precedence

/-- Whether the expression needs parentheses on the right of an operator, if something follows
that a closure at its end would take in. -/
def groupsRightOf (operand : Expr) (operator : Precedence) : Bool :=
  operand.endsInClosure && !operator.admitsRight operand.precedence

end Expr

end Endpoint.Source
