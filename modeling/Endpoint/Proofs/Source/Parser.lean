import Endpoint.Proofs.Source.Lexer
import Endpoint.Source.Parser
import Mathlib

/-!
Parsers take tokens from the front and from inside groups, so that identifiers which can be written
are all that they leave and give where they find no others.
-/

set_option mvcgen.warning false

namespace Endpoint.Source

open Std.Do

namespace Tokens

attribute [grind =] areProper_cons

@[grind .]
theorem areProper_drop {tokens : Tokens} (proper : tokens.AreProper) (count : Nat) :
    AreProper (tokens.drop count) :=
  areProper_iff.mpr fun token member =>
    areProper_iff.mp proper token (List.mem_of_mem_drop member)

end Tokens

@[grind =]
theorem Token.isProper_ident {name : Ident} : (Token.ident name).IsProper ↔ name.IsProper := Iff.rfl

@[grind =]
theorem Token.isProper_group {delimiter : Delimiter} {inner : Tokens} :
    (Token.group delimiter inner).IsProper ↔ inner.AreProper := Iff.rfl

namespace Parser

/-- A parser that leaves only identifiers which can be written where it finds no others. -/
abbrev Keeps {α : Type} (parser : Parser α) : Prop :=
  ⦃fun tokens _ => ⌜tokens.AreProper⌝⦄
  parser
  ⦃⇓? _ tokens _ => ⌜tokens.AreProper⌝⦄

/-- A parser that besides gives only values as stated. -/
abbrev Gives {α : Type} (parser : Parser α) (stated : α → Prop) : Prop :=
  ⦃fun tokens _ => ⌜tokens.AreProper⌝⦄
  parser
  ⦃⇓? value tokens _ => ⌜stated value ∧ tokens.AreProper⌝⦄

variable {α : Type}

/-! ### Running -/

/-- Whether an outcome is a fault, or a value and tokens as stated. -/
def Ends (stated : α → Tokens → Prop) : Except Fault ((α × Tokens) × Option Delimiter) → Prop
  | .ok ((value, rest), _) => stated value rest
  | .error _ => True

theorem triple_iff {parser : Parser α} {stated : α → Tokens → Prop} :
    ⦃fun tokens _ => ⌜tokens.AreProper⌝⦄ parser ⦃⇓? value tokens _ => ⌜stated value tokens⌝⦄ ↔
      ∀ tokens left, Tokens.AreProper tokens → Ends stated (parser tokens left) := by
  constructor
  · intro holds tokens left proper
    exact Except.of_wp_eq rfl (Ends stated) fun _ => holds tokens left proper
  · intro ends tokens left proper
    change (wp⟦parser tokens left⟧ _).down
    have outcome := ends tokens left proper
    cases ran : parser tokens left with
    | error fault => trivial
    | ok found =>
      rw [ran] at outcome
      exact outcome

theorem Gives.keeps {parser : Parser α} {stated : α → Prop} (gives : Gives parser stated) :
    Keeps parser := by
  refine triple_iff.mpr fun tokens left proper => ?_
  have ended := triple_iff.mp gives tokens left proper
  cases ran : parser tokens left with
  | error fault => trivial
  | ok found =>
    rw [ran] at ended
    exact ended.2

/-- What is given behind a first step hangs on the rest only. -/
theorem Keeps.bind_gives {β : Type} {first : Parser α} {rest : α → Parser β} {stated : β → Prop}
    (keeps : Keeps first) (gives : ∀ value, Gives (rest value) stated) :
    Gives (first >>= rest) stated := by
  mvcgen [keeps, gives]

/-! ### Failing -/

section

variable {post : PostCond α (.arg Tokens (.arg (Option Delimiter) (.except Fault .pure)))}

@[spec]
theorem throw_spec (fault : Fault) :
    ⦃fun _ _ => post.2.1 fault⦄ (throw fault : Parser α) ⦃post⦄ := fun _ _ holds => holds

@[spec]
theorem failExpecting_spec (choices : List String) :
    ⦃fun tokens _ => post.2.1 (.expected choices tokens.isEmpty)⦄ failExpecting choices ⦃post⦄ :=
  fun _ _ holds => holds

@[spec]
theorem refuse_spec (text : String) :
    ⦃fun _ _ => post.2.1 (.rule text)⦄ refuse text ⦃post⦄ := fun _ _ holds => holds

@[spec]
theorem refuseHere_spec (text : String) :
    ⦃fun tokens _ => post.2.1 (.here text tokens.isEmpty)⦄ refuseHere text ⦃post⦄ :=
  fun _ _ holds => holds

end

/-! ### Looking -/

@[spec]
theorem sees_keeps (test : Tokens → Bool) : Keeps (sees test) := by
  mvcgen [sees]

@[spec]
theorem seesWord_keeps (text : String) : Keeps (seesWord text) := sees_keeps _

@[spec]
theorem seesPunct_keeps (text : String) : Keeps (seesPunct text) := sees_keeps _

@[spec]
theorem seesGroup_keeps (delimiter : Delimiter) : Keeps (seesGroup delimiter) := sees_keeps _

@[spec]
theorem atEnd_keeps : Keeps atEnd := sees_keeps _

/-! ### Taking -/

theorem anyIdent_gives : Gives anyIdent Ident.IsProper := by
  mvcgen [anyIdent]
  grind

@[spec]
theorem anyIdent_keeps : Keeps anyIdent := anyIdent_gives.keeps

theorem ident_gives : Gives ident Ident.IsProper := by
  mvcgen [ident, -Spec.throw_MonadExcept]
  grind

@[spec]
theorem ident_keeps : Keeps ident := ident_gives.keeps

@[spec]
theorem word_keeps (text : String) : Keeps (word text) := by
  mvcgen [word]
  grind

@[spec]
theorem word?_keeps (text : String) : Keeps (word? text) := by
  mvcgen [word?]
  grind

@[spec]
theorem wordWhere?_keeps (allowed : Bool) (text : String) : Keeps (wordWhere? allowed text) := by
  mvcgen [wordWhere?]

@[spec]
theorem punct_keeps (text : String) : Keeps (punct text) := by
  mvcgen [punct]
  grind

@[spec]
theorem punct?_keeps (text : String) : Keeps (punct? text) := by
  mvcgen [punct?]
  grind

@[spec]
theorem punctWhere?_keeps (allowed : Bool) (text : String) : Keeps (punctWhere? allowed text) := by
  mvcgen [punctWhere?]

@[spec]
theorem lifetime_keeps : Keeps lifetime := by
  mvcgen [lifetime]
  grind

@[spec]
theorem lifetime?_keeps : Keeps lifetime? := by
  mvcgen [lifetime?]

@[spec]
theorem literal_keeps : Keeps literal := by
  mvcgen [literal] <;> grind

@[spec]
theorem remaining_keeps : Keeps remaining := by
  mvcgen [remaining]

/-! ### Groups and repetitions -/

@[spec]
theorem noteLeft_keeps (delimiter : Delimiter) : Keeps (noteLeft delimiter) :=
  fun _ _ proper => proper

/-- What a group holds can be written too. -/
@[spec]
theorem group_keeps (delimiter : Delimiter) {inside : Parser α} (keeps : Keeps inside) :
    Keeps (group delimiter inside) := by
  mvcgen [group, keeps] <;> grind

theorem group_gives (delimiter : Delimiter) {inside : Parser α} {stated : α → Prop}
    (gives : Gives inside stated) : Gives (group delimiter inside) stated := by
  mvcgen [group, gives, -group_keeps] <;> grind

@[spec]
theorem repeatFor_keeps {step : Parser (Option α)} (keeps : Keeps step) (fuel : Nat) :
    Keeps (repeatFor step fuel) := by
  induction fuel with
  | zero => mvcgen [repeatFor]
  | succ fuel ih => mvcgen [repeatFor, keeps, ih]

@[spec]
theorem many_keeps {step : Parser (Option α)} (keeps : Keeps step) : Keeps (many step) := by
  mvcgen [many, keeps]

theorem repeatFor_gives {step : Parser (Option α)} {stated : α → Prop}
    (gives : Gives step fun found => ∀ value, found = some value → stated value) (fuel : Nat) :
    Gives (repeatFor step fuel) fun values => ∀ value ∈ values, stated value := by
  induction fuel with
  | zero =>
    mvcgen [repeatFor, -repeatFor_keeps]
    grind
  | succ fuel ih => mvcgen [repeatFor, gives, ih, -repeatFor_keeps] <;> grind

theorem many_gives {step : Parser (Option α)} {stated : α → Prop}
    (gives : Gives step fun found => ∀ value, found = some value → stated value) :
    Gives (many step) fun values => ∀ value ∈ values, stated value := by
  have repeats (fuel : Nat) := repeatFor_gives gives fuel
  mvcgen [many, repeats, -many_keeps, -repeatFor_keeps]

theorem mapM_keeps {β : Type} {step : β → Parser α} (keeps : ∀ item, Keeps (step item))
    (items : List β) : Keeps (items.mapM step) := by
  induction items with
  | nil => mvcgen
  | cons item rest ih =>
    rw [List.mapM_cons]
    mvcgen [keeps, ih]

variable {stop : Parser Bool} {value : Parser α}

@[spec]
theorem separatedFor_keeps (separator : String) (stops : Keeps stop) (keeps : Keeps value)
    (fuel : Nat) : Keeps (separatedFor separator stop value fuel) := by
  induction fuel with
  | zero => mvcgen [separatedFor]
  | succ fuel ih => mvcgen [separatedFor, stops, keeps, ih]

theorem separatedFor_gives (separator : String) (stops : Keeps stop) {stated : α → Prop}
    (gives : Gives value stated) (fuel : Nat) :
    Gives (separatedFor separator stop value fuel) fun found => ∀ held ∈ found.1, stated held := by
  induction fuel with
  | zero =>
    mvcgen [separatedFor, -separatedFor_keeps]
    grind
  | succ fuel ih => mvcgen [separatedFor, stops, gives, ih, -separatedFor_keeps] <;> grind

@[spec]
theorem commas_keeps (stops : Keeps stop) (keeps : Keeps value) : Keeps (commas stop value) := by
  mvcgen [commas, stops, keeps]

@[spec]
theorem commasToEnd_keeps (keeps : Keeps value) : Keeps (commasToEnd value) :=
  commas_keeps atEnd_keeps keeps

theorem commasToEnd_gives {stated : α → Prop} (gives : Gives value stated) :
    Gives (commasToEnd value) fun found => ∀ held ∈ found.1, stated held := by
  have separated (fuel : Nat) := separatedFor_gives "," atEnd_keeps gives fuel
  mvcgen [commasToEnd, commas, separated, -separatedFor_keeps, -commas_keeps, -commasToEnd_keeps]

@[spec]
theorem plusesFor_keeps (stops : Keeps stop) (keeps : Keeps value) (fuel : Nat) :
    Keeps (plusesFor stop value fuel) := by
  induction fuel with
  | zero => mvcgen [plusesFor]
  | succ fuel ih => mvcgen [plusesFor, stops, keeps, ih]

@[spec]
theorem pluses_keeps (stops : Keeps stop) (keeps : Keeps value) : Keeps (pluses stop value) := by
  mvcgen [pluses, stops, keeps]

/-! ### Trying -/

@[spec]
theorem optional?_keeps (keeps : Keeps value) : Keeps (optional? value) := by
  refine triple_iff.mpr fun tokens left proper => ?_
  have ended := triple_iff.mp keeps tokens left proper
  unfold optional?
  cases ran : value tokens left with
  | error fault => exact proper
  | ok found =>
    rw [ran] at ended
    exact ended

theorem ahead_gives (stated : α → Prop) (gives : Gives value stated) :
    Gives (ahead value) fun found => ∀ held, found = some held → stated held := by
  refine triple_iff.mpr fun tokens left proper => ?_
  have ended := triple_iff.mp gives tokens left proper
  unfold ahead
  cases ran : value tokens left with
  | error fault => exact ⟨by simp, proper⟩
  | ok found =>
    rw [ran] at ended
    exact ⟨by simpa using ended.1, proper⟩

@[spec]
theorem ahead_keeps (parser : Parser α) : Keeps (ahead parser) := by
  refine triple_iff.mpr fun tokens left proper => ?_
  unfold ahead
  cases parser tokens left <;> exact proper

end Parser

end Endpoint.Source
