import Endpoint.Proofs.Source.Name

/-!
Running parsers: what each step gives, what is left behind it, and what the tests say of tokens
whose beginning is known.
-/

namespace Endpoint.Source

open Source.Parser

/-! ### Steps -/

namespace Parser

section

variable {α β : Type} (tokens : Tokens) (left : Option Delimiter)

/-- From the outside in, so that what follows a step is only looked at once the step is done. -/
@[simp ↓]
theorem run_bind (first : Parser α) (next : α → Parser β) :
    (first >>= next) tokens left = match first tokens left with
      | .ok ((value, rest), left) => next value rest left
      | .error fault => .error fault := by
  change Except.bind (first tokens left) _ = _
  rcases first tokens left with _ | ⟨⟨_, _⟩, _⟩ <;> rfl

@[simp ↓]
theorem run_map (change : α → β) (first : Parser α) :
    (change <$> first) tokens left = match first tokens left with
      | .ok ((value, rest), left) => .ok ((change value, rest), left)
      | .error fault => .error fault := by
  rw [map_eq_pure_bind, run_bind]
  rfl

@[simp ↓]
theorem run_ite (condition : Prop) [Decidable condition] (first second : Parser α) :
    (if condition then first else second) tokens left =
      if condition then first tokens left else second tokens left := by
  split <;> rfl

@[simp]
theorem run_pure (value : α) : (pure value : Parser α) tokens left = .ok ((value, tokens), left) :=
  rfl

@[simp]
theorem run_get : (get : Parser Tokens) tokens left = .ok ((tokens, tokens), left) := rfl

@[simp]
theorem run_set (others : Tokens) :
    (set others : Parser PUnit) tokens left = .ok (((), others), left) := rfl

@[simp]
theorem run_sees (test : Tokens → Bool) :
    sees test tokens left = .ok ((test tokens, tokens), left) := rfl

@[simp]
theorem run_failExpecting (choices : List String) :
    (failExpecting choices : Parser α) tokens left = .error (.expected choices tokens.isEmpty) :=
  rfl

@[simp]
theorem run_word (text : String) :
    word text tokens left =
      if tokens.beginWithWord text then .ok (((), tokens.drop 1), left)
      else .error (.expected [s!"`{text}`"] tokens.isEmpty) := by
  rw [word, seesWord, run_bind, run_sees]
  cases tokens.beginWithWord text <;> rfl

@[simp]
theorem run_word? (text : String) :
    word? text tokens left =
      if tokens.beginWithWord text then .ok ((true, tokens.drop 1), left)
      else .ok ((false, tokens), left) := by
  rw [word?, seesWord, run_bind, run_sees]
  cases tokens.beginWithWord text <;> rfl

@[simp]
theorem run_punct (text : String) :
    punct text tokens left =
      if tokens.beginWith text then .ok (((), tokens.drop text.toList.length), left)
      else .error (.rule s!"expected `{text}`") := by
  rw [punct, seesPunct, run_bind, run_sees, String.length_toList]
  cases tokens.beginWith text <;> rfl

@[simp]
theorem run_punct? (text : String) :
    punct? text tokens left =
      if tokens.beginWith text then .ok ((true, tokens.drop text.toList.length), left)
      else .ok ((false, tokens), left) := by
  rw [punct?, seesPunct, run_bind, run_sees, String.length_toList]
  cases tokens.beginWith text <;> rfl

@[simp]
theorem run_anyIdent (name : Ident) :
    anyIdent (.ident name :: tokens) left = .ok ((name, tokens), left) := rfl

attribute [simp] ident_ident

/-- A group is taken as what it holds; tokens that are left in it are noted. -/
@[simp]
theorem run_group (delimiter : Delimiter) (inside : Parser α) (inner : Tokens) :
    group delimiter inside (.group delimiter inner :: tokens) left =
      match inside inner left with
      | .ok ((value, rest), left) =>
        .ok ((value, tokens), if rest.isEmpty then left else left <|> some delimiter)
      | .error fault => .error fault := by
  change (if delimiter == delimiter then _ else _ : Parser α) _ left = _
  rw [beq_self_eq_true, if_pos rfl]
  simp only [run_bind, run_set, run_get]
  rcases inside inner left with _ | ⟨⟨value, rest⟩, after⟩
  · rfl
  · cases rest <;> rfl

@[simp]
theorem run_ahead (parser : Parser α) :
    ahead parser tokens left = match parser tokens left with
      | .ok ((value, _), _) => .ok ((some value, tokens), left)
      | .error _ => .ok ((none, tokens), left) := rfl

end

/-! ### Runs that give something -/

section

variable {α β : Type} {tokens rest : Tokens} {left after : Option Delimiter}

theorem bind_ok_iff {first : Parser α} {next : α → Parser β} {value : β} :
    (first >>= next) tokens left = .ok ((value, rest), after) ↔
      ∃ taken behind before, first tokens left = .ok ((taken, behind), before) ∧
        next taken behind before = .ok ((value, rest), after) := by
  rw [run_bind]
  cases first tokens left with
  | error fault => simp
  | ok ran =>
    obtain ⟨⟨taken, behind⟩, before⟩ := ran
    refine ⟨fun ran => ⟨taken, behind, before, rfl, ran⟩, ?_⟩
    rintro ⟨_, _, _, same, ran⟩
    cases same
    exact ran

/-- What follows a step that gives something goes on from there. -/
theorem run_step {first : Parser α} {next : α → Parser β} {value : α}
    (ran : first tokens left = .ok ((value, rest), after)) :
    (first >>= next) tokens left = next value rest after := by
  rw [run_bind, ran]

/-- Tokens with something in front of them are not at their end. -/
theorem run_atEnd (more : tokens ≠ []) (left : Option Delimiter) :
    atEnd tokens left = .ok ((false, tokens), left) := by
  obtain ⟨token, others, rfl⟩ := List.exists_cons_of_ne_nil more
  rfl

theorem whole_ok_iff {parser : Parser α} {value : α} :
    whole parser tokens = .ok value ↔ parser tokens none = .ok ((value, []), none) := by
  unfold whole
  rcases parser tokens none with _ | ⟨⟨_, _ | _⟩, _ | _⟩ <;> simp

theorem ident_ok_iff {name : Ident} :
    ident tokens left = .ok ((name, rest), after) ↔
      tokens = .ident name :: rest ∧ name.isName = true ∧ after = left := by
  cases front : tokens.ident? with
  | none =>
    obtain ⟨fault, failed⟩ := ident_other front left
    rw [failed]
    refine iff_of_false (by simp) ?_
    rintro ⟨rfl, -⟩
    cases front
  | some found =>
    obtain ⟨behind, rfl⟩ : ∃ behind, tokens = .ident found :: behind := by
      rcases tokens with _ | ⟨_ | _ | _ | _, behind⟩ <;> cases front
      exact ⟨behind, rfl⟩
    rw [ident_ident]
    by_cases allowed : found.isName = true <;> aesop

theorem anyIdent_ok_iff {name : Ident} :
    anyIdent tokens left = .ok ((name, rest), after) ↔
      tokens = .ident name :: rest ∧ after = left := by
  rcases tokens with _ | ⟨found | _ | _ | _, behind⟩
  case cons.ident =>
    rw [run_anyIdent]
    aesop
  all_goals exact iff_of_false (by rintro ⟨⟩) (by simp)

/-- An operator of one character stands in front if that character does. -/
theorem beginWith_char_iff {sign : String} (char : Char) (chars : sign.toList = [char]) :
    tokens.beginWith sign = true ↔ ∃ joint rest, tokens = .punct char joint :: rest := by
  rw [Tokens.beginWith, chars]
  constructor
  · intro found
    rcases tokens with _ | ⟨_ | ⟨_, joint⟩ | _ | _, rest⟩
    case cons.punct =>
      obtain rfl := beq_iff_eq.mp found
      exact ⟨joint, rest, rfl⟩
    all_goals cases found
  · rintro ⟨joint, rest, rfl⟩
    exact beq_self_eq_true char

theorem beginWithWord_iff {word : String} :
    tokens.beginWithWord word = true ↔ ∃ rest, tokens = .ident (.plain word) :: rest := by
  unfold Tokens.beginWithWord Tokens.ident?
  rcases tokens with _ | ⟨_ | _ | _ | _, rest⟩ <;> simp

theorem punct_char_ok_iff {sign : String} (char : Char) (chars : sign.toList = [char]) :
    punct sign tokens left = .ok (((), rest), after) ↔
      (∃ joint, tokens = .punct char joint :: rest) ∧ after = left := by
  rw [run_punct, chars]
  by_cases found : tokens.beginWith sign = true
  · obtain ⟨joint, behind, rfl⟩ := (beginWith_char_iff char chars).mp found
    rw [if_pos found, List.length_singleton, List.drop_one, List.tail_cons]
    constructor
    · rintro ⟨⟩
      exact ⟨⟨joint, rfl⟩, rfl⟩
    · rintro ⟨⟨_, ⟨⟩⟩, rfl⟩
      rfl
  · rw [if_neg found]
    refine iff_of_false (by simp) ?_
    rintro ⟨⟨joint, rfl⟩, -⟩
    exact found ((beginWith_char_iff char chars).mpr ⟨joint, rest, rfl⟩)

end

/-! ### What is left -/

variable {α β γ δ : Type} {tokens others rest : Tokens} {left before after : Option Delimiter}

/-- What a parser leaves of the tokens, and the first group whose tokens were not all taken; nothing
if it fails. -/
def remains (parser : Parser α) (tokens : Tokens) (left : Option Delimiter) :
    Option (Tokens × Option Delimiter) :=
  match parser tokens left with
  | .ok ((_, rest), after) => some (rest, after)
  | .error _ => none

theorem remains_of_ok {parser : Parser α} {value : α}
    (ran : parser tokens left = .ok ((value, rest), after)) :
    remains parser tokens left = some (rest, after) := by
  rw [remains, ran]

theorem remains_eq_none_iff {parser : Parser α} :
    remains parser tokens left = none ↔ ∃ fault, parser tokens left = .error fault := by
  unfold remains
  cases parser tokens left <;> simp

theorem remains_step {first : Parser α} {next : α → Parser β} {value : α}
    (ran : first tokens left = .ok ((value, rest), after)) :
    remains (first >>= next) tokens left = remains (next value) rest after := by
  simp [remains, ran]

theorem remains_return (parser : Parser α) (change : α → β) :
    remains (parser >>= fun value => return change value) tokens left =
      remains parser tokens left := by
  rw [remains, run_bind, remains]
  rcases parser tokens left with _ | ⟨⟨_, _⟩, _⟩ <;> rfl

theorem remains_map (change : α → β) (parser : Parser α) :
    remains (change <$> parser) tokens left = remains parser tokens left := by
  rw [map_eq_pure_bind, remains_return]

theorem remains_group {inside : Parser α} (delimiter : Delimiter) (inner : Tokens) :
    remains (group delimiter inside) (.group delimiter inner :: rest) left =
      (remains inside inner left).map fun (others, after) =>
        (rest, if others.isEmpty then after else after <|> some delimiter) := by
  rw [remains, run_group, remains]
  rcases inside inner left with _ | ⟨⟨_, _⟩, _⟩ <;> rfl

/-- Behind a group the same is left before any rest. -/
theorem exists_remains_group (delimiter : Delimiter) (inside : Parser α) (inner : Tokens)
    (left : Option Delimiter) : ∃ after : Option (Option Delimiter), ∀ rest,
      remains (group delimiter inside) (.group delimiter inner :: rest) left =
        after.map fun after => (rest, after) := by
  refine ⟨(remains inside inner left).map fun (others, after) =>
    if others.isEmpty then after else after <|> some delimiter, fun rest => ?_⟩
  rw [remains_group, Option.map_map]
  rfl

/-- An item unless the tokens are at their end. -/
def unlessEnd (item : Parser α) : Parser (Option α) := do
  if ← atEnd then return none
  return some (← item)

theorem remains_repeat_end (item : Parser α) (fuel : Nat) :
    remains (repeatFor (unlessEnd item) fuel) [] left = some ([], left) := by
  cases fuel <;> simp [remains, repeatFor, unlessEnd, atEnd]

/-- Items are read one by one. -/
theorem remains_repeat (item : Parser α) (fuel : Nat) (more : tokens ≠ []) :
    remains (repeatFor (unlessEnd item) (fuel + 1)) tokens left =
      (remains item tokens left).bind fun (rest, after) =>
        remains (repeatFor (unlessEnd item) fuel) rest after := by
  have goesOn : tokens.isEmpty = false := List.isEmpty_eq_false_iff.mpr more
  have first : unlessEnd item tokens left = (some <$> item) tokens left := by
    simp [unlessEnd, atEnd, goesOn]
  rw [remains, repeatFor, run_bind, first, run_map, remains]
  rcases item tokens left with _ | ⟨⟨value, rest⟩, after⟩
  · rfl
  · dsimp only [Option.bind_some]
    rw [run_bind, remains]
    cases repeatFor (unlessEnd item) fuel rest after <;> rfl

/-- Two runs leave the same if they go on alike from what they left before. -/
theorem remains_bind {first : Parser α} {second : Parser β} {next : α → Parser γ}
    {other : β → Parser δ} (same : remains first tokens left = remains second others before)
    (alike : ∀ value found, remains (next value) = remains (other found)) :
    remains (first >>= next) tokens left = remains (second >>= other) others before := by
  unfold remains at same ⊢
  rw [run_bind, run_bind]
  rcases ran : first tokens left with fault | ⟨⟨value, rest⟩, after⟩
  · rcases ended : second others before with fault | ⟨⟨found, further⟩, behind⟩
    · rfl
    · simp [ran, ended] at same
  · rcases ended : second others before with fault | ⟨⟨found, further⟩, behind⟩
    · simp [ran, ended] at same
    · simp only [ran, ended, Option.some.injEq, Prod.mk.injEq] at same
      obtain ⟨rfl, rfl⟩ := same
      exact congrFun₂ (alike value found) rest after

end Parser

/-- Tokens are read by a rule exactly if it leaves none of them, neither outside nor in groups. -/
theorem Tokens.parse_eq_error_iff {α : Type} {rule : Grammar → Parser α} {tokens : Tokens} :
    (∃ fault, tokens.parse rule = .error fault) ↔
      Parser.remains (rule (.covering tokens)) tokens none ≠ some ([], none) := by
  unfold Tokens.parse Parser.whole Parser.remains
  rcases rule (.covering tokens) tokens none with _ | ⟨⟨value, _ | _⟩, _ | _⟩ <;> simp

/-! ### Looking -/

namespace Tokens

variable (rest : Tokens)

theorem beginWith_ident {operator : String} (some : operator ≠ "") (name : Ident) :
    beginWith operator (.ident name :: rest) = false := by
  unfold beginWith
  rcases chars : operator.toList with _ | ⟨first, _ | _⟩
  · simp_all
  · rfl
  · rfl

theorem beginWith_group {operator : String} (some : operator ≠ "") (delimiter : Delimiter)
    (inner : Tokens) : beginWith operator (.group delimiter inner :: rest) = false := by
  unfold beginWith
  rcases chars : operator.toList with _ | ⟨first, _ | _⟩
  · simp_all
  · rfl
  · rfl

@[simp]
theorem beginWith_punct (operator : String) (char : Char) (joint : Bool) :
    beginWith operator (.punct char joint :: rest) =
      beginWithChars operator.toList (.punct char joint :: rest) := rfl

@[simp]
theorem beginWithWord_plain (text word : String) :
    beginWithWord word (.ident (.plain text) :: rest) = (text == word) := by
  rw [Bool.eq_iff_iff]
  simp [beginWithWord, ident?, Ident.plain]

@[simp]
theorem beginWithWord_punct (word : String) (char : Char) (joint : Bool) :
    beginWithWord word (.punct char joint :: rest) = false := rfl

@[simp]
theorem beginWithWord_group (word : String) (delimiter : Delimiter) (inner : Tokens) :
    beginWithWord word (.group delimiter inner :: rest) = false := rfl

@[simp]
theorem beginWithName_ident (name : Ident) : beginWithName (.ident name :: rest) = name.isName :=
  rfl

@[simp]
theorem beginWithName_punct (char : Char) (joint : Bool) :
    beginWithName (.punct char joint :: rest) = false := rfl

@[simp]
theorem beginWithLifetime_ident (name : Ident) : beginWithLifetime (.ident name :: rest) = false :=
  rfl

@[simp]
theorem beginWithLifetime_punct (first second : Char) (joint after : Bool) :
    beginWithLifetime (.punct first joint :: .punct second after :: rest) = false := by
  cases joint <;> rfl

@[simp]
theorem beginWithGroup_ident (delimiter : Delimiter) (name : Ident) :
    beginWithGroup delimiter (.ident name :: rest) = false := rfl

@[simp]
theorem beginWithGroup_punct (delimiter : Delimiter) (char : Char) (joint : Bool) :
    beginWithGroup delimiter (.punct char joint :: rest) = false := rfl

@[simp]
theorem beginWithGroup_group (delimiter found : Delimiter) (inner : Tokens) :
    beginWithGroup delimiter (.group found inner :: rest) = (found == delimiter) := rfl

section

variable {name : Ident} (isName : name.isName = true)

include isName

theorem beginWithWord_name (word : String) (reserved : word ∈ keywords) :
    beginWithWord word (.ident name :: rest) = false := by
  refine beq_eq_false_iff_ne.mpr fun same => ?_
  obtain rfl := Option.some.inj same
  simp [Ident.isName, Ident.plain, reserved] at isName

theorem beginWithLiteral_name : beginWithLiteral (.ident name :: rest) = false := by
  have notTrue := beginWithWord_name rest isName "true" (by decide)
  have notFalse := beginWithWord_name rest isName "false" (by decide)
  simp_all [beginWithLiteral, beginWithWord, ident?]

end

/-- Tokens that go on with nothing that a type takes in, nor with what a name can be bound to. -/
structure Apart : Prop where
  arguments : rest.beginWith "<" = false
  segment : rest.beginWith "::" = false
  call : rest.beginWith "!" = false
  bound : rest.beginWith "+" = false
  value : rest.beginWith "=" = false
  colon : rest.beginWith ":" = false

theorem apart_ident (name : Ident) : Apart (.ident name :: rest) := by
  constructor <;> exact beginWith_ident rest (by decide) name

theorem apart_group (delimiter : Delimiter) (inner : Tokens) :
    Apart (.group delimiter inner :: rest) := by
  constructor <;> exact beginWith_group rest (by decide) delimiter inner

theorem apart_comma : Apart (.punct ',' false :: rest) := by
  constructor <;> rfl

theorem apart_close : Apart (.punct '>' false :: rest) := by
  constructor <;> rfl

end Tokens

end Endpoint.Source
