import Endpoint.Proofs.Source.Running
import Endpoint.Source.Literal

/-!
An expression is a string literal exactly if one such token was read for it: every operator,
trailer and attribute makes another expression of what it stands at.
-/

namespace Endpoint.Source

open Source.Parser

namespace Parser

variable {α β : Type}

/-- What a parser gives, if it gives anything, is as stated. -/
def Yields (parser : Parser α) (stated : α → Prop) : Prop :=
  ∀ tokens left value rest after, parser tokens left = .ok ((value, rest), after) → stated value

variable {stated : α → Prop}

theorem Yields.pure {value : α} (holds : stated value) : Yields (Pure.pure value) stated := by
  intro tokens left found rest after ran
  cases ran
  exact holds

theorem Yields.bind {first : Parser β} {next : β → Parser α}
    (yields : ∀ value, Yields (next value) stated) : Yields (first >>= next) stated := by
  intro tokens left value rest after ran
  rw [run_bind] at ran
  split at ran
  · exact yields _ _ _ _ _ _ ran
  · cases ran

/-- What the first step gives may be used for the rest. -/
theorem Yields.bind_of {first : Parser β} {next : β → Parser α} {given : β → Prop}
    (gives : Yields first given) (yields : ∀ value, given value → Yields (next value) stated) :
    Yields (first >>= next) stated := by
  intro tokens left value rest after ran
  rw [run_bind] at ran
  split at ran
  · rename_i taken
    exact yields _ (gives _ _ _ _ _ taken) _ _ _ _ _ ran
  · cases ran

theorem Yields.ite {condition : Prop} [Decidable condition] {first second : Parser α}
    (positive : condition → Yields first stated) (negative : ¬ condition → Yields second stated) :
    Yields (if condition then first else second) stated := by
  split
  · exact positive ‹_›
  · exact negative ‹_›

theorem Yields.failExpecting (choices : List String) :
    Yields (failExpecting choices : Parser α) stated := by
  intro tokens left value rest after ran
  cases ran

theorem Yields.refuse (text : String) : Yields (refuse text : Parser α) stated := by
  intro tokens left value rest after ran
  cases ran

theorem Yields.refuseHere (text : String) : Yields (refuseHere text : Parser α) stated := by
  intro tokens left value rest after ran
  cases ran

theorem Yields.group {delimiter : Delimiter} {inside : Parser α} (yields : Yields inside stated) :
    Yields (group delimiter inside) stated := by
  intro tokens left value rest after ran
  rcases tokens with _ | ⟨_ | _ | _ | ⟨found, inner⟩, behind⟩
  · cases ran
  · cases ran
  · cases ran
  · cases ran
  · by_cases same : found = delimiter
    · subst same
      rw [run_group] at ran
      split at ran
      · rename_i taken
        cases ran
        exact yields _ _ _ _ _ taken
      · cases ran
    · change (if found == delimiter then _ else _ : Parser α) _ left = _ at ran
      rw [if_neg (by simpa using same)] at ran
      cases ran

end Parser

namespace Grammar

/-- The expression is no string literal. -/
def NoText (value : Expr) : Prop := value.stringValue? = none

variable (g : Grammar)

theorem branch_noText (fuel : Nat) : Yields (branch g fuel) NoText := by
  cases fuel with
  | zero => exact Yields.failExpecting _
  | succ fuel =>
    rw [branch]
    repeat' first
      | with_reducible refine Yields.bind fun _ => ?_
      | with_reducible refine Yields.ite (fun _ => ?_) fun _ => ?_
      | with_reducible apply Yields.pure
      | with_reducible apply Yields.failExpecting
      | rfl

/-! ### Expressions that may be string literals -/

/-- What is known of a run that gave an expression: the tokens in front of and behind it. -/
abbrev Known := Tokens → Option Delimiter → Expr → Tokens → Option Delimiter → Prop

/-- A parser that gives no string literal unless its run is known. -/
def Settles (known : Known) (parser : Parser Expr) : Prop :=
  ∀ tokens left value rest after, parser tokens left = .ok ((value, rest), after) →
    NoText value ∨ known tokens left value rest after

section

variable {known : Known} {parser : Parser Expr}

theorem Settles.of_yields (yields : Yields parser NoText) : Settles known parser :=
  fun tokens left value rest after ran => .inl (yields tokens left value rest after ran)

theorem Settles.pure {value : Expr}
    (settled : ∀ tokens left, known tokens left value tokens left) :
    Settles known (Pure.pure value) := by
  intro tokens left found rest after ran
  cases ran
  exact .inr (settled tokens left)

theorem Settles.get {next : Tokens → Parser Expr} (settles : ∀ tokens, Settles known (next tokens)) :
    Settles known (MonadState.get >>= next) := by
  intro tokens left value rest after ran
  rw [run_bind] at ran
  exact settles tokens _ _ _ _ _ ran

theorem Settles.sees {test : Tokens → Bool} {next : Bool → Parser Expr}
    (settles : ∀ found, Settles known (next found)) : Settles known (sees test >>= next) := by
  intro tokens left value rest after ran
  rw [run_bind] at ran
  exact settles _ _ _ _ _ _ ran

theorem Settles.ite {condition : Prop} [Decidable condition] {other : Parser Expr}
    (positive : condition → Settles known parser) (negative : ¬ condition → Settles known other) :
    Settles known (if condition then parser else other) := by
  split
  · exact positive ‹_›
  · exact negative ‹_›

/-- An operator that is not there is not taken, so that the run goes on from the same tokens. -/
theorem Settles.punct? {text : String} {next : Bool → Parser Expr}
    (taken : Yields (next true) NoText) (missing : Settles known (next false)) :
    Settles known (punct? text >>= next) := by
  intro tokens left value rest after ran
  rw [run_bind, run_punct?] at ran
  by_cases found : tokens.beginWith text = true
  · rw [if_pos found] at ran
    exact .inl (taken _ _ _ _ _ ran)
  · rw [if_neg found] at ran
    exact missing _ _ _ _ _ ran

theorem Settles.punctWhere? {allowed : Bool} {text : String} {next : Bool → Parser Expr}
    (taken : Yields (next true) NoText) (missing : Settles known (next false)) :
    Settles known (punctWhere? allowed text >>= next) := by
  unfold Parser.punctWhere?
  split
  · exact Settles.punct? taken missing
  · exact missing

end

/-- The expression is the literal token in front. -/
def IsToken : Known := fun tokens left value rest after =>
  ∃ written, tokens = .literal written :: rest ∧ value = .literal (.literal written) ∧ after = left

/-- The expression is the one that was there before, and nothing is taken. -/
def IsBase (base : Expr) : Known := fun tokens left value rest after =>
  value = base ∧ rest = tokens ∧ after = left

theorem settles_base (base : Expr) : Settles (IsBase base) (Pure.pure base) :=
  Settles.pure fun _ _ => ⟨rfl, rfl, rfl⟩

/-- A run that is known goes on with what leaves its expression as it is. -/
theorem Settles.bind {known : Known} {parser : Parser Expr} {next : Expr → Parser Expr}
    (settles : Settles known parser) (other : ∀ value, NoText value → Yields (next value) NoText)
    (same : ∀ value, Settles (IsBase value) (next value)) : Settles known (parser >>= next) := by
  intro tokens left value rest after ran
  rw [run_bind] at ran
  split at ran
  · rename_i base behind before taken
    rcases settles _ _ _ _ _ taken with noText | known
    · exact .inl (other base noText _ _ _ _ _ ran)
    · rcases same base _ _ _ _ _ ran with noText | ⟨rfl, rfl, rfl⟩
      · exact .inl noText
      · exact .inr known
  · cases ran

/-- Whatever an atom begins with, if it is not one literal token then it is no string literal. -/
theorem atom_settles (struct : Bool) (fuel : Nat) : Settles IsToken (atom g struct fuel) := by
  cases fuel with
  | zero => exact Settles.of_yields (Yields.failExpecting _)
  | succ fuel =>
    intro tokens left value rest after ran
    rw [atom, run_bind, run_get] at ran
    dsimp only at ran
    split at ran
    · rename_i written behind
      cases ran
      exact .inr ⟨written, rfl, rfl, rfl⟩
    · refine .inl ((?_ : Yields _ NoText) _ _ _ _ _ ran)
      simp only [closure, pathExpr, parenExpr, arrayExpr, verbatim, letCondition, labelled,
        labelled.whileLoop, labelled.forLoop, labelled.endlessLoop]
      repeat' first
        | with_reducible refine Yields.bind fun _ => ?_
        | with_reducible refine Yields.ite (fun _ => ?_) fun _ => ?_
        | with_reducible apply Yields.group
        | with_reducible apply Yields.pure
        | with_reducible apply Yields.failExpecting
        | with_reducible apply Yields.refuseHere
        | with_reducible apply branch_noText
        | rfl

/-! ### Trailers -/

variable {g} {struct : Bool} {tokens rest : Tokens} {value : Expr} {left after : Option Delimiter}

/-- Fields of a string literal are none, if there are any of them. -/
theorem fields_noText {base : Expr} {positions : List Nat}
    (other : NoText base ∨ positions ≠ []) :
    NoText (positions.foldl (fun inner position => Expr.field inner (.indexed position)) base) := by
  induction positions generalizing base with
  | nil => exact other.resolve_right (absurd rfl)
  | cons position positions ih => exact ih (.inl rfl)

theorem splitOnAux_ne_nil (text separator : String) (start i j : String.Pos.Raw)
    (found : List String) : text.splitOnAux separator start i j found ≠ [] := by
  fun_induction String.splitOnAux text separator start i j found <;> simp_all

theorem splitOn_ne_nil (text separator : String) : text.splitOn separator ≠ [] := by
  unfold String.splitOn
  split
  · exact List.cons_ne_nil _ _
  · exact splitOnAux_ne_nil _ _ _ _ _ _

/-- A number that does not end in a point names a field at least. -/
theorem fieldPositions_some {text : String} (inside : ¬ text.endsWith "." = true) :
    Yields (fieldPositions text) (· ≠ []) := by
  unfold fieldPositions
  simp only [inside, Bool.false_eq_true, if_false]
  obtain ⟨part, parts, split⟩ := List.exists_cons_of_ne_nil (splitOn_ne_nil text ".")
  rw [split, List.mapM_cons]
  repeat' first
    | with_reducible apply Yields.bind; intro _
    | with_reducible apply Yields.pure
  exact List.cons_ne_nil _ _

theorem named_noText {fuel : Nat}
    (goesOn : ∀ base, NoText base → Yields (trailers g fuel base) NoText) (base : Expr) :
    Yields (trailers.named g fuel base) NoText := by
  rw [trailers.named]
  repeat' first
    | with_reducible apply Yields.bind; intro _
    | with_reducible apply Yields.ite <;> intro _
    | exact goesOn _ rfl
    | split

/-- Trailers make no string literal of another expression. -/
theorem trailers_noText (fuel : Nat) {base : Expr} (other : NoText base) :
    Yields (trailers g fuel base) NoText := by
  induction fuel generalizing base with
  | zero =>
    rw [trailers]
    exact Yields.pure other
  | succ fuel ih =>
    have named := named_noText fun base (other : NoText base) => ih other
    rw [trailers]
    repeat' first
      | with_reducible refine Yields.bind fun _ => ?_
      | with_reducible refine Yields.ite (fun _ => ?_) fun _ => ?_
      | with_reducible exact Yields.pure other
      | with_reducible apply named
      | exact ih rfl
      | exact ih (fields_noText (.inl other))
      | split

/-- A string literal has no trailers. -/
theorem trailers_settles (fuel : Nat) (base : Expr) : Settles (IsBase base) (trailers g fuel base) := by
  cases fuel with
  | zero =>
    rw [trailers]
    exact settles_base base
  | succ fuel =>
    have goesOn {other : Expr} (changed : NoText other) := trailers_noText (g := g) fuel changed
    have named := named_noText (g := g) fun base (other : NoText base) => goesOn other
    rw [trailers]
    refine Settles.sees fun _ => Settles.ite (fun _ => ?called) fun _ => ?_
    case called => exact Settles.of_yields (Yields.bind fun _ => goesOn rfl)
    refine Settles.sees fun _ => Settles.sees fun _ => Settles.ite (fun _ => ?field) fun _ => ?_
    case field =>
      refine Settles.of_yields (Yields.bind fun _ => Yields.bind fun tokens => ?_)
      split
      · rename_i number behind
        refine Yields.ite (fun _ => Yields.bind fun _ => ?_) fun _ => named base
        by_cases ends : number.endsWith "." = true
        · exact Yields.bind fun _ => Yields.ite (fun _ => named _) (absurd ends)
        · refine Yields.bind_of (fieldPositions_some ends) fun positions some => ?_
          exact Yields.ite (absurd · ends) fun _ => goesOn (fields_noText (.inr some))
      · exact named base
    refine Settles.sees fun _ => Settles.ite (fun _ => ?index) fun _ => ?_
    case index => exact Settles.of_yields (Yields.bind fun _ => goesOn rfl)
    exact Settles.punctWhere? (goesOn rfl) (settles_base base)

/-! ### Operators -/

/-- Operators make no string literal of another expression. -/
theorem climb_noText {least : Precedence} (fuel : Nat) {base : Expr} (other : NoText base) :
    Yields (climb g struct least fuel base) NoText := by
  induction fuel generalizing base with
  | zero =>
    rw [climb]
    exact Yields.pure other
  | succ fuel ih =>
    rw [climb]
    repeat' first
      | with_reducible refine Yields.bind fun _ => ?_
      | with_reducible refine Yields.ite (fun _ => ?_) fun _ => ?_
      | with_reducible exact Yields.pure other
      | with_reducible apply Yields.refuseHere
      | exact ih rfl
      | split

/-- A string literal has no operator behind it. -/
theorem climb_settles (least : Precedence) (fuel : Nat) (base : Expr) :
    Settles (IsBase base) (climb g struct least fuel base) := by
  cases fuel with
  | zero =>
    rw [climb]
    exact settles_base base
  | succ fuel =>
    have goesOn {other : Expr} (changed : NoText other) :
        Yields (climb g struct least fuel other) NoText := climb_noText fuel changed
    rw [climb]
    repeat' first
      | exact settles_base base
      | with_reducible refine Settles.get fun _ => ?_
      | with_reducible refine Settles.ite (fun _ => ?_) fun _ => ?_
      | with_reducible refine Settles.of_yields (Yields.bind fun _ => ?_)
      | with_reducible refine Yields.bind fun _ => ?_
      | with_reducible refine Yields.ite (fun _ => ?_) fun _ => ?_
      | exact goesOn rfl
      | split

/-- Attributes make no string literal of another expression, and another one of a string
literal. -/
theorem withAttributes_noText {attributes : Attributes} {base : Expr}
    (other : NoText base ∨ attributes ≠ []) : NoText (withAttributes attributes base) := by
  cases attributes with
  | nil => exact other.resolve_right (absurd rfl)
  | cons first attributes => cases base <;> rfl

/-- No attributes are given where none were taken. -/
theorem outerAttributes_nil
    (ran : outerAttributes g tokens left = .ok (([], rest), after)) :
    rest = tokens ∧ after = left := by
  unfold outerAttributes many at ran
  rw [run_bind, run_get] at ran
  dsimp only at ran
  rw [repeatFor, run_bind, run_bind, run_punct?] at ran
  by_cases marked : tokens.beginWith "#" = true
  · simp only [marked, if_true, run_bind] at ran
    split at ran
    · rename_i found
      split at found
      · cases found
        dsimp only at ran
        rw [run_bind] at ran
        split at ran <;> cases ran
      · cases found
    · cases ran
  · simp only [marked, Bool.false_eq_true, if_false] at ran
    cases ran
    exact ⟨rfl, rfl⟩

/-- An expression behind operators or attributes is no string literal. -/
theorem unary_settles (fuel : Nat) : Settles IsToken (unary g struct fuel) := by
  cases fuel with
  | zero => exact Settles.of_yields (Yields.failExpecting _)
  | succ fuel =>
    intro tokens left value rest after ran
    rw [unary, run_bind, run_get] at ran
    dsimp only at ran
    rw [run_bind] at ran
    split at ran
    · rename_i attributes behind before read
      by_cases none : attributes = []
      · subst none
        obtain ⟨rfl, rfl⟩ := outerAttributes_nil read
        have operator (sign : String) : Yields (unary g struct fuel >>= fun inner =>
            Pure.pure (withAttributes [] (.unary sign inner))) NoText :=
          Yields.bind fun _ => Yields.pure rfl
        refine (?_ : Settles IsToken _) _ _ _ _ _ ran
        refine Settles.sees fun _ => Settles.ite (fun _ => ?reference) fun _ =>
          Settles.punct? (operator _) (Settles.punct? (operator _) (Settles.punct? (operator _) ?_))
        case reference =>
          refine Settles.of_yields ?_
          repeat' first
            | with_reducible refine Yields.bind fun _ => ?_
            | with_reducible refine Yields.ite (fun _ => ?_) fun _ => ?_
            | exact Yields.pure rfl
        refine (atom_settles g struct fuel).bind
          (fun base other => Yields.bind fun _ =>
            Yields.bind_of (trailers_noText _ other) fun whole other => ?_)
          fun base => Settles.get fun _ => (trailers_settles _ _).bind
            (fun whole other => ?_) fun whole => ?_
        case refine_3 =>
          split
          · exact Settles.of_yields (Yields.bind fun _ => Yields.pure rfl)
          · exact settles_base _
          · exact settles_base _
        all_goals
          split
          · exact Yields.bind fun _ => Yields.pure rfl
          · exact Yields.pure rfl
          · exact Yields.pure other
      · refine .inl ((?_ : Yields _ NoText) _ _ _ _ _ ran)
        repeat' first
          | with_reducible refine Yields.bind fun _ => ?_
          | with_reducible refine Yields.ite (fun _ => ?_) fun _ => ?_
          | exact Yields.pure (withAttributes_noText (.inr none))
          | split
          | exact Yields.pure rfl
    · cases ran

theorem run_exprRule :
    exprRule g struct tokens left = expression g struct (8 * tokens.length + 24) tokens left := by
  simp only [exprRule, exprSteps, run_bind, run_get, run_pure]

/-- An expression that is a string literal was read from that one token. -/
theorem exprRule_settles (struct : Bool) : Settles IsToken (exprRule g struct) := by
  intro tokens left value rest after ran
  rw [run_exprRule, expression] at ran
  refine (?_ : Settles IsToken _) _ _ _ _ _ ran
  exact (unary_settles _).bind (fun base other => climb_noText _ other) fun base =>
    climb_settles _ _ base

/-! ### The other direction -/

/-- Nothing that goes on with an expression stands in front. -/
inductive Ends : Tokens → Prop
  | nothing : Ends []
  | comma (joint : Bool) (behind : Tokens) : Ends (.punct ',' joint :: behind)

theorem beginWith_literal {operator : String} (some : operator ≠ "") (written : String)
    (rest : Tokens) : Tokens.beginWith operator (.literal written :: rest) = false := by
  unfold Tokens.beginWith
  rcases chars : operator.toList with _ | ⟨first, _ | _⟩
  · simp_all
  · rfl
  · rfl

theorem outerAttributes_literal (written : String) :
    outerAttributes g (.literal written :: rest) left =
      .ok (([], .literal written :: rest), left) := by
  simp [outerAttributes, many, repeatFor, beginWith_literal]

/-- Tokens that do not go on with an expression in front of them. -/
structure EndsExpr (rest : Tokens) : Prop where
  operator : operator? rest = none
  sign : ∀ sign ∈ [".", "?", "=", "..", "::", "!", "#"], rest.beginWith sign = false
  group : ∀ delimiter, rest.beginWithGroup delimiter = false
  noWord : rest.ident? = none

theorem EndsExpr.word (ends : EndsExpr rest) (word : String) : rest.beginWithWord word = false := by
  rw [Tokens.beginWithWord, ends.noWord]
  rfl

theorem Ends.endsExpr (ends : Ends rest) : EndsExpr rest := by
  have noSign : ∀ sign ∈ [".", "?", "=", "..", "::", "!", "#"], rest.beginWith sign = false := by
    simp only [List.mem_cons, List.not_mem_nil, or_false]
    rintro _ (rfl | rfl | rfl | rfl | rfl | rfl | rfl) <;>
      rcases ends with _ | ⟨_ | _, behind⟩ <;> rfl
  rcases ends with _ | ⟨_ | _, behind⟩ <;> exact ⟨rfl, noSign, fun _ => rfl, rfl⟩

theorem trailers_ends (ends : EndsExpr rest) (fuel : Nat) (base : Expr) :
    trailers g fuel base rest left = .ok ((base, rest), left) := by
  cases fuel with
  | zero =>
    rw [trailers]
    rfl
  | succ fuel =>
    rw [trailers]
    simp [seesGroup, seesPunct, punctWhere?, ends.group, ends.sign]

theorem climb_ends (ends : EndsExpr rest) (least : Precedence) (fuel : Nat) (base : Expr) :
    climb g struct least fuel base rest left = .ok ((base, rest), left) := by
  cases fuel with
  | zero =>
    rw [climb]
    rfl
  | succ fuel =>
    rw [climb]
    simp [ends.operator, ends.sign, ends.word]

/-- One literal token is read as the expression that it is. -/
theorem exprRule_token (written : String) (ends : Ends rest) :
    exprRule g struct (.literal written :: rest) left =
      .ok ((.literal (.literal written), rest), left) := by
  have unary (fuel : Nat) : unary g struct (fuel + 2) (.literal written :: rest) left =
      .ok ((.literal (.literal written), rest), left) := by
    rw [Grammar.unary]
    simp [outerAttributes_literal, beginWith_literal, seesPunct, atom, trailers_ends ends.endsExpr,
      withAttributes]
  have steps : 8 * (Token.literal written :: rest).length + 24 = (8 * rest.length + 29) + 2 + 1 := by
    rw [List.length_cons]
    omega
  rw [run_exprRule, steps, expression, run_bind, unary]
  exact climb_ends ends.endsExpr _ _ _

end Grammar

end Endpoint.Source
