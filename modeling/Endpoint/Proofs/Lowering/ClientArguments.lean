import Endpoint.Expansion
import Endpoint.Lowering.Client
import Endpoint.Proofs.Expansion
import Endpoint.Proofs.Lowering.Acceptance
import Endpoint.Proofs.Source.Grammar.Literal
import Endpoint.Proofs.Text.Quoted

/-!
The arguments of a client marker are read twice, by its macro and for its definition. Main
statement: the macro needs no comma between them, and that is all in which the two differ.
-/

namespace Endpoint

open Source (Attribute AttributeContent Expr Fault Grammar Ident NamedValue Parser Path Token Tokens
  Trait isNameText)
open Source.Parser

/-! ### What arguments are -/

/-- Whether an argument that gives the name stands in front, and what stands behind it. -/
structure IsNameArgument (tokens : Tokens) (value : String) (behind : Tokens) : Prop where
  form : ∃ joint written,
    tokens = .word "name" :: .punct '=' joint :: .literal written :: behind ∧
      Text.unquote? written = some value
  isName : isNameText value = true

/-- What stands behind an argument: nothing, a comma, or the next argument where none is needed. -/
inductive NextArgument (loose : Bool) : Tokens → Tokens → Prop
  | nothing : NextArgument loose [] []
  | comma (joint : Bool) (rest : Tokens) : NextArgument loose (.punct ',' joint :: rest) rest
  | beside (allowed : loose = true) (rest : Tokens) : NextArgument loose rest rest

/-- Arguments and the name that they give behind others that gave one or none: the last one
counts. -/
inductive NameArguments (loose : Bool) : Option String → Tokens → Option String → Prop
  | nothing (given : Option String) : NameArguments loose given [] given
  | argument {given found : Option String} {tokens behind rest : Tokens} {value : String}
      (first : IsNameArgument tokens value behind) (next : NextArgument loose behind rest)
      (further : NameArguments loose (some value) rest found) :
      NameArguments loose given tokens found

theorem IsNameArgument.length {tokens behind : Tokens} {value : String}
    (first : IsNameArgument tokens value behind) : tokens.length = behind.length + 3 := by
  obtain ⟨_, _, rfl, -⟩ := first.form
  rfl

theorem NextArgument.length_le {loose : Bool} {behind rest : Tokens}
    (next : NextArgument loose behind rest) : rest.length ≤ behind.length := by
  cases next <;> simp

/-- No argument begins with a comma. -/
theorem NameArguments.not_comma {loose joint : Bool} {given found : Option String} {rest : Tokens} :
    ¬NameArguments loose given (.punct ',' joint :: rest) found := by
  intro arguments
  cases arguments with
  | argument first next further =>
    obtain ⟨_, _, form, -⟩ := first.form
    cases form

/-! ### Commas -/

/-- Whether no string literal has an identifier right behind it. -/
def Separated (tokens : Tokens) : Prop :=
  tokens.IsChain fun first second =>
    ∀ written name, first = Token.literal written → second ≠ Token.ident name

theorem separated_argument {joint : Bool} {written : String} {behind : Tokens} :
    Separated (.word "name" :: .punct '=' joint :: .literal written :: behind) ↔
      (∀ name rest, behind ≠ .ident name :: rest) ∧ Separated behind := by
  cases behind with
  | nil => simp [Separated, Token.word]
  | cons token rest =>
    simp only [Separated, Token.word, List.isChain_cons_cons]
    aesop

theorem separated_comma {joint : Bool} {rest : Tokens} :
    Separated (.punct ',' joint :: rest) ↔ Separated rest := by
  cases rest <;> simp [Separated]

/-- Arguments with commas are those of the macro where commas stand between them. -/
theorem nameArguments_strict_iff {given found : Option String} {tokens : Tokens} :
    NameArguments false given tokens found ↔
      NameArguments true given tokens found ∧ Separated tokens := by
  constructor
  · intro arguments
    induction arguments with
    | nothing given => exact ⟨.nothing given, List.IsChain.nil⟩
    | argument first next further ih =>
      obtain ⟨loose, separated⟩ := ih
      obtain ⟨joint, written, rfl, -⟩ := first.form
      rw [separated_argument]
      cases next with
      | nothing => exact ⟨.argument first .nothing loose, by simp, separated⟩
      | comma joint =>
        exact ⟨.argument first (.comma joint _) loose, by simp, separated_comma.mpr separated⟩
      | beside allowed => cases allowed
  · rintro ⟨arguments, separated⟩
    induction arguments with
    | nothing given => exact .nothing given
    | argument first next further ih =>
      obtain ⟨joint, written, rfl, -⟩ := first.form
      obtain ⟨apart, separated⟩ := separated_argument.mp separated
      cases next with
      | nothing => exact .argument first .nothing (ih separated)
      | comma joint =>
        exact .argument first (.comma joint _) (ih (separated_comma.mp separated))
      | beside allowed =>
        cases further with
        | nothing => exact .argument first .nothing (ih separated)
        | argument second =>
          obtain ⟨_, _, rfl, -⟩ := second.form
          exact absurd rfl (apart _ _)

/-! ### Steps that both take -/

theorem Source.Parser.stringLiteral_ok_iff {tokens rest : Tokens}
    {left after : Option Source.Delimiter} {written : Token} {value : String} :
    stringLiteral tokens left = .ok (((written, value), rest), after) ↔
      tokens = written :: rest ∧ written.stringValue? = some value ∧ after = left := by
  cases tokens with
  | nil => exact iff_of_false (by rintro ⟨⟩) (by simp)
  | cons token behind =>
    rw [stringLiteral_cons]
    cases read : token.stringValue? <;> aesop

theorem Source.Ident.written_eq_name_iff {key : Ident} :
    key.written = "name" ↔ key = .plain "name" := by
  obtain ⟨text, raw⟩ := key
  cases raw with
  | false => simp [Ident.written, Ident.plain]
  | true =>
    refine iff_of_false (fun same => ?_) (by simp [Ident.plain])
    have chars := congrArg String.toList same
    simp [Ident.written] at chars

/-! ### The arguments that the macro takes -/

namespace Expansion

variable {given found : Option String} {value : String} {tokens rest : Tokens}
  {left after : Option Source.Delimiter}

/-- The macro takes an argument that gives the name, and no other. -/
theorem clientArgument_ok_iff :
    clientArgument tokens left = .ok ((value, rest), after) ↔
      IsNameArgument tokens value rest ∧ after = left := by
  constructor
  · intro ran
    obtain ⟨key, behind, _, taken, checked⟩ := bind_ok_iff.mp ran
    obtain ⟨rfl, -, rfl⟩ := ident_ok_iff.mp taken
    rw [run_ite] at checked
    by_cases known : key.written = "name"
    · obtain rfl := Ident.written_eq_name_iff.mp known
      rw [if_neg (by simp [known])] at checked
      obtain ⟨_, valued, _, equals, atValue⟩ := bind_ok_iff.mp checked
      obtain ⟨⟨joint, rfl⟩, rfl⟩ := (punct_char_ok_iff '=' rfl).mp equals
      obtain ⟨⟨token, text⟩, behind, _, literal, ended⟩ := bind_ok_iff.mp atValue
      obtain ⟨rfl, read, rfl⟩ := stringLiteral_ok_iff.mp literal
      dsimp only at ended
      rw [run_ite] at ended
      by_cases isName : isNameText text = true
      · rw [if_pos isName] at ended
        cases ended
        cases token with
        | literal written => exact ⟨⟨⟨joint, written, rfl, read⟩, isName⟩, rfl⟩
        | _ => cases read
      · rw [if_neg isName] at ended
        cases ended
    · rw [if_pos (by simpa using known)] at checked
      obtain ⟨_, _, _, refused, -⟩ := bind_ok_iff.mp checked
      cases refused
  · rintro ⟨⟨⟨joint, written, rfl, read⟩, isName⟩, rfl⟩
    refine bind_ok_iff.mpr ⟨_, _, _, ident_ok_iff.mpr ⟨rfl, by decide, rfl⟩, ?_⟩
    rw [run_ite, if_neg (by decide)]
    refine bind_ok_iff.mpr ⟨_, _, _, (punct_char_ok_iff '=' rfl).mpr ⟨⟨joint, rfl⟩, rfl⟩, ?_⟩
    refine bind_ok_iff.mpr ⟨(_, value), _, _, stringLiteral_ok_iff.mpr ⟨rfl, read, rfl⟩, ?_⟩
    dsimp only
    rw [run_ite, if_pos isName, run_pure]

/-- Behind an argument the macro takes a comma if there is one. -/
theorem comma?_ok {behind : Tokens} {taken : Bool}
    (ran : punct? "," behind left = .ok ((taken, rest), after)) :
    NextArgument true behind rest ∧ after = left := by
  rw [run_punct?] at ran
  by_cases found : behind.beginWith "," = true
  · obtain ⟨joint, others, rfl⟩ := (beginWith_char_iff ',' rfl).mp found
    rw [if_pos found] at ran
    cases ran
    exact ⟨.comma joint _, rfl⟩
  · rw [if_neg found] at ran
    cases ran
    exact ⟨.beside rfl _, rfl⟩

theorem exists_comma? {behind : Tokens} (next : NextArgument true behind rest)
    (further : NameArguments true given rest found) (left : Option Source.Delimiter) :
    ∃ taken, punct? "," behind left = .ok ((taken, rest), left) := by
  cases next with
  | nothing => exact ⟨_, rfl⟩
  | comma joint => exact ⟨_, by rw [run_punct?, if_pos (by cases joint <;> rfl)]; rfl⟩
  | beside =>
    refine ⟨false, ?_⟩
    rw [run_punct?, if_neg]
    intro comma
    obtain ⟨joint, others, rfl⟩ := (beginWith_char_iff ',' rfl).mp comma
    exact further.not_comma

/-- The macro takes the arguments that need no comma between them, and no others. -/
theorem clientArgumentsFor_ok_iff {fuel : Nat} (enough : tokens.length < fuel) :
    clientArgumentsFor fuel given tokens left = .ok ((found, rest), after) ↔
      NameArguments true given tokens found ∧ rest = [] ∧ after = left := by
  induction fuel generalizing given tokens left with
  | zero => cases enough
  | succ fuel ih =>
    rw [clientArgumentsFor]
    cases tokens with
    | nil =>
      constructor
      · rintro ⟨⟩
        exact ⟨.nothing _, rfl, rfl⟩
      · rintro ⟨arguments, rfl, rfl⟩
        cases arguments with
        | nothing => rfl
        | argument first => cases first.length
    | cons token others =>
      constructor
      · intro ran
        obtain ⟨_, _, _, looked, begun⟩ := bind_ok_iff.mp ran
        cases looked
        obtain ⟨value, behind, _, argument, goesOn⟩ := bind_ok_iff.mp begun
        obtain ⟨first, rfl⟩ := clientArgument_ok_iff.mp argument
        obtain ⟨_, rest, _, comma, loop⟩ := bind_ok_iff.mp goesOn
        obtain ⟨next, rfl⟩ := comma?_ok comma
        have shorter : rest.length < fuel := by
          have := first.length
          have := next.length_le
          omega
        obtain ⟨further, done⟩ := (ih shorter).mp loop
        exact ⟨.argument first next further, done⟩
      · rintro ⟨arguments, rfl, rfl⟩
        cases arguments with
        | argument first next further =>
          have shorter := first.length
          have := next.length_le
          obtain ⟨taken, comma⟩ := exists_comma? next further after
          refine bind_ok_iff.mpr ⟨false, token :: others, after, rfl, ?_⟩
          refine bind_ok_iff.mpr ⟨_, _, _, clientArgument_ok_iff.mpr ⟨first, rfl⟩, ?_⟩
          refine bind_ok_iff.mpr ⟨_, _, _, comma, ?_⟩
          exact (ih (by omega)).mpr ⟨further, rfl, rfl⟩

/-- The name that the macro finds is that of arguments that need no comma between them. -/
theorem clientArguments_ok_iff :
    clientArguments tokens = .ok found ↔ NameArguments true none tokens found := by
  have loop : whole (clientArgumentsFor (tokens.length + 1) none) tokens = .ok found ↔
      NameArguments true none tokens found := by
    rw [whole_ok_iff, clientArgumentsFor_ok_iff (Nat.lt_succ_self _)]
    simp
  rw [← loop, clientArguments]
  cases whole (clientArgumentsFor (tokens.length + 1) none) tokens <;> simp

end Expansion

/-! ### The arguments of a definition -/

namespace Lowering

variable {given found : Option String} {value : String} {tokens rest : Tokens}
  {left after : Option Source.Delimiter} {g : Grammar}

theorem segments_some (fuel : Nat) : Yields (Grammar.plainPath.segments fuel) (· ≠ []) := by
  cases fuel with
  | zero => exact Yields.failExpecting _
  | succ fuel =>
    rw [Grammar.plainPath.segments]
    repeat' first
      | with_reducible refine Yields.bind fun _ => ?_
      | with_reducible refine Yields.ite (fun _ => ?_) fun _ => ?_
      | exact Yields.pure (List.cons_ne_nil _ _)

/-- One segment alone is one identifier. -/
theorem segments_single {fuel : Nat} {name : Ident}
    (ran : Grammar.plainPath.segments fuel tokens left = .ok (([name], rest), after)) :
    tokens = .ident name :: rest ∧ after = left := by
  cases fuel with
  | zero => cases ran
  | succ fuel =>
    rw [Grammar.plainPath.segments] at ran
    obtain ⟨starts, _, _, seen, begun⟩ := bind_ok_iff.mp ran
    cases seen
    rw [run_ite] at begun
    split at begun
    · obtain ⟨_, _, _, taken, ended⟩ := bind_ok_iff.mp begun
      cases ended
      obtain ⟨rfl, -, rfl⟩ := ident_ok_iff.mp taken
      exact ⟨rfl, rfl⟩
    · obtain ⟨first, behind, _, taken, goesOn⟩ := bind_ok_iff.mp begun
      obtain ⟨rfl, rfl⟩ := anyIdent_ok_iff.mp taken
      obtain ⟨further, others, _, colons, goesOn⟩ := bind_ok_iff.mp goesOn
      cases further with
      | true =>
        have longer : Yields (do return first :: (← Grammar.plainPath.segments fuel))
            fun names => ∃ second more, names = first :: second :: more :=
          Yields.bind_of (segments_some fuel) fun names some => by
            obtain ⟨second, more, rfl⟩ := List.exists_cons_of_ne_nil some
            exact Yields.pure ⟨second, more, rfl⟩
        obtain ⟨_, _, _, -, goesOn⟩ := bind_ok_iff.mp goesOn
        rw [run_ite] at goesOn
        split at goesOn
        · obtain ⟨_, _, _, refused, -⟩ := bind_ok_iff.mp goesOn
          cases refused
        · obtain ⟨second, more, same⟩ := longer _ _ _ _ _ goesOn
          cases same
      | false =>
        cases goesOn
        rw [run_punct?] at colons
        split at colons <;> cases colons
        exact ⟨rfl, rfl⟩

/-- A path that is a name alone was read from that name. -/
theorem plainPath_ident {path : Path} {name : Ident}
    (ran : Grammar.plainPath tokens left = .ok ((path, rest), after))
    (alone : path.ident? = some name) : tokens = .ident name :: rest ∧ after = left := by
  obtain ⟨leading, others, _, colons, begun⟩ := bind_ok_iff.mp ran
  obtain ⟨_, _, _, got, begun⟩ := bind_ok_iff.mp begun
  cases got
  obtain ⟨names, _, _, segments, ended⟩ := bind_ok_iff.mp begun
  cases ended
  obtain ⟨rfl, rfl⟩ : leading = false ∧ names = [name] := by
    rcases leading with _ | _ <;> rcases names with _ | ⟨name, _ | _⟩ <;> cases alone
    exact ⟨rfl, rfl⟩
  rw [run_punct?] at colons
  split at colons <;> cases colons
  exact segments_single segments

theorem plainPath_name {joint : Bool} :
    Grammar.plainPath (.word "name" :: .punct '=' joint :: rest) left =
      .ok ((.ofIdent (.plain "name"), .punct '=' joint :: rest), left) := by
  have isName : (Ident.plain "name").isName = true := by decide
  have noColons : Tokens.beginWith "::" (.punct '=' joint :: rest) = false := by
    cases joint <;> rfl
  have segments (fuel : Nat) :
      Grammar.plainPath.segments (fuel + 1) (.word "name" :: .punct '=' joint :: rest) left =
        .ok (([.plain "name"], .punct '=' joint :: rest), left) := by
    rw [Grammar.plainPath.segments]
    simp [Grammar.seesPathStart, Token.word, isName, noColons]
  simp only [Grammar.plainPath, run_bind, run_get, run_punct?, Token.word,
    Tokens.beginWith_ident _ (by decide : "::" ≠ ""), Bool.false_eq_true, if_false]
  rw [← Token.word, segments]
  rfl

/-- Behind the path of an argument stands a string literal, if that is its value. -/
theorem valueOf_ok {path : Path} {argument : NamedValue}
    (ran : (do
      punct "="
      if ← sees fun tokens =>
          tokens.beginWith "#" && Tokens.beginWithGroup .bracket (tokens.drop 1) then
        refuseHere "unexpected attribute inside of attribute"
      return ⟨path, ← g.exprRule true⟩ : Parser NamedValue) tokens left =
        .ok ((argument, rest), after)) :
    argument.path = path ∧ ∀ value, argument.value.stringValue? = some value →
      (∃ joint written, tokens = .punct '=' joint :: .literal written :: rest ∧
        Text.unquote? written = some value) ∧ after = left := by
  obtain ⟨_, atValue, _, equals, looking⟩ := bind_ok_iff.mp ran
  obtain ⟨⟨joint, rfl⟩, rfl⟩ := (punct_char_ok_iff '=' rfl).mp equals
  obtain ⟨attributed, _, _, seen, looking⟩ := bind_ok_iff.mp looking
  cases seen
  rw [run_ite] at looking
  split at looking
  · obtain ⟨_, _, _, refused, -⟩ := bind_ok_iff.mp looking
    cases refused
  · obtain ⟨expr, _, _, read, ended⟩ := bind_ok_iff.mp looking
    cases ended
    refine ⟨rfl, fun value valued => ?_⟩
    rcases Grammar.exprRule_settles true _ _ _ _ _ read with other | ⟨written, rfl, rfl, rfl⟩
    · cases other.symm.trans valued
    · exact ⟨⟨joint, written, rfl, valued⟩, rfl⟩

/-- An argument that is a string for the name was read from one. -/
theorem namedValue_ok {argument : NamedValue}
    (ran : NamedValue.rule g tokens left = .ok ((argument, rest), after))
    (named : argument.path.ident? = some (.plain "name"))
    (valued : argument.value.stringValue? = some value) (isName : isNameText value = true) :
    IsNameArgument tokens value rest ∧ after = left := by
  unfold NamedValue.rule at ran
  obtain ⟨isUnsafe, _, _, seen, begun⟩ := bind_ok_iff.mp ran
  cases seen
  rw [run_ite] at begun
  split at begun
  · rename_i isUnsafe
    obtain ⟨path, behind, _, read, goesOn⟩ := bind_ok_iff.mp begun
    rw [map_eq_pure_bind] at read
    obtain ⟨key, _, _, taken, made⟩ := bind_ok_iff.mp read
    cases made
    obtain ⟨rfl, rfl⟩ := anyIdent_ok_iff.mp taken
    have keyed := named
    rw [(valueOf_ok goesOn).1] at keyed
    cases keyed
    simp at isUnsafe
  · obtain ⟨path, behind, _, read, goesOn⟩ := bind_ok_iff.mp begun
    obtain ⟨same, further⟩ := valueOf_ok goesOn
    obtain ⟨rfl, rfl⟩ := plainPath_ident read (same ▸ named)
    obtain ⟨form, rfl⟩ := further _ valued
    obtain ⟨joint, written, rfl, spelled⟩ := form
    exact ⟨⟨⟨joint, written, rfl, spelled⟩, isName⟩, rfl⟩

/-- An argument that gives the name is read as a string for it, before a comma or the end. -/
theorem exists_namedValue (first : IsNameArgument tokens value rest)
    (ends : Grammar.Ends rest) (left : Option Source.Delimiter) :
    ∃ argument, NamedValue.rule g tokens left = .ok ((argument, rest), left) ∧
      argument.path.ident? = some (.plain "name") ∧ argument.value.stringValue? = some value := by
  obtain ⟨joint, written, rfl, read⟩ := first.form
  refine ⟨⟨.ofIdent (.plain "name"), .literal (.literal written)⟩, ?_, rfl, read⟩
  have noUnsafe : Tokens.beginWithWord "unsafe"
      (.word "name" :: .punct '=' joint :: .literal written :: rest) = false := by
    simp [Token.word]
  unfold NamedValue.rule
  refine bind_ok_iff.mpr ⟨false, _, left, by rw [seesWord, run_sees, noUnsafe], ?_⟩
  rw [run_ite, if_neg Bool.false_ne_true]
  refine bind_ok_iff.mpr ⟨_, _, _, plainPath_name, ?_⟩
  refine bind_ok_iff.mpr ⟨_, _, _, (punct_char_ok_iff '=' rfl).mpr ⟨⟨joint, rfl⟩, rfl⟩, ?_⟩
  refine bind_ok_iff.mpr ⟨false, _, _, rfl, ?_⟩
  rw [run_ite, if_neg Bool.false_ne_true]
  exact bind_ok_iff.mpr ⟨_, _, _, Grammar.exprRule_token written ends, rfl⟩

theorem nameOfArguments_cons_iff {argument : NamedValue} {others : List NamedValue} :
    nameOfArguments given (argument :: others) = .ok found ↔
      ∃ value, argument.path.ident? = some (.plain "name") ∧
        argument.value.stringValue? = some value ∧ isNameText value = true ∧
        nameOfArguments (some value) others = .ok found := by
  have named : argument.path.ident?.map Ident.written = some "name" ↔
      argument.path.ident? = some (.plain "name") := by
    simp [Option.map_eq_some_iff, Ident.written_eq_name_iff]
  rw [nameOfArguments]
  by_cases known : argument.path.ident?.map Ident.written = some "name"
  · rw [if_neg (by simpa using known)]
    cases argument.value.stringValue? with
    | none => simp
    | some value =>
      by_cases isName : isNameText value = true <;> simp [isName, named.mp known]
  · rw [if_pos (by simpa using known)]
    simp [mt named.mpr known]

/-- Arguments that are read with commas between them, if they give the name, are those that need
these commas. -/
theorem nameArguments_of_separatedFor {fuel : Nat} (enough : tokens.length < fuel)
    {arguments : List NamedValue} {trailing : Bool}
    (ran : separatedFor "," atEnd (NamedValue.rule g) fuel tokens left =
      .ok (((arguments, trailing), rest), after))
    (named : nameOfArguments given arguments = .ok found) :
    NameArguments false given tokens found ∧ rest = [] ∧ after = left := by
  induction fuel generalizing given tokens left arguments trailing with
  | zero => cases enough
  | succ fuel ih =>
    rw [separatedFor] at ran
    obtain ⟨_, _, _, looked, begun⟩ := bind_ok_iff.mp ran
    cases looked
    rw [run_ite] at begun
    split at begun
    · rename_i ended
      obtain rfl := List.isEmpty_iff.mp ended
      cases begun
      cases named
      exact ⟨.nothing _, rfl, rfl⟩
    · obtain ⟨argument, behind, _, read, goesOn⟩ := bind_ok_iff.mp begun
      obtain ⟨_, _, _, looked, atComma⟩ := bind_ok_iff.mp goesOn
      cases looked
      rw [run_ite] at atComma
      split at atComma
      · rename_i ended
        obtain rfl := List.isEmpty_iff.mp ended
        cases atComma
        obtain ⟨value, known, valued, isName, named⟩ := nameOfArguments_cons_iff.mp named
        obtain ⟨first, rfl⟩ := namedValue_ok read known valued isName
        cases named
        exact ⟨.argument first .nothing (.nothing _), rfl, rfl⟩
      · obtain ⟨_, others, _, comma, behindComma⟩ := bind_ok_iff.mp atComma
        obtain ⟨⟨joint, rfl⟩, rfl⟩ := (punct_char_ok_iff ',' rfl).mp comma
        obtain ⟨⟨further, trailing⟩, _, _, loop, ended⟩ := bind_ok_iff.mp behindComma
        cases ended
        obtain ⟨value, known, valued, isName, named⟩ := nameOfArguments_cons_iff.mp named
        obtain ⟨first, rfl⟩ := namedValue_ok read known valued isName
        have shorter := first.length
        rw [List.length_cons] at shorter
        obtain ⟨further, done⟩ := ih (by omega) loop named
        exact ⟨.argument first (.comma joint others) further, done⟩

/-- Arguments that give the name, with commas between them, are read. -/
theorem separatedFor_of_nameArguments {fuel : Nat} (enough : tokens.length < fuel)
    (arguments : NameArguments false given tokens found) (left : Option Source.Delimiter) :
    ∃ held trailing, separatedFor "," atEnd (NamedValue.rule g) fuel tokens left =
        .ok (((held, trailing), []), left) ∧
      nameOfArguments given held = .ok found := by
  induction arguments generalizing fuel with
  | nothing given =>
    obtain ⟨fuel, rfl⟩ := Nat.exists_eq_add_one_of_ne_zero (Nat.ne_of_gt enough)
    exact ⟨[], true, rfl, rfl⟩
  | @argument _ _ tokens _ rest _ first next further ih =>
    have shorter := first.length
    obtain ⟨fuel, rfl⟩ : ∃ fewer, fuel = fewer + 1 := ⟨fuel - 1, by omega⟩
    have fewer : rest.length < fuel := by
      have := next.length_le
      omega
    have begins : atEnd tokens left = .ok ((false, tokens), left) := by
      obtain ⟨_, _, rfl, -⟩ := first.form
      rfl
    cases next with
    | nothing =>
      obtain ⟨argument, read, known, valued⟩ := exists_namedValue (g := g) first .nothing left
      cases further with
      | argument second => cases second.length
      | nothing =>
        refine ⟨[argument], false, ?_, nameOfArguments_cons_iff.mpr
          ⟨_, known, valued, first.isName, rfl⟩⟩
        rw [separatedFor]
        refine bind_ok_iff.mpr ⟨_, _, _, begins, ?_⟩
        exact bind_ok_iff.mpr ⟨_, _, _, read, rfl⟩
    | comma joint =>
      obtain ⟨argument, read, known, valued⟩ :=
        exists_namedValue (g := g) first (.comma joint _) left
      obtain ⟨others, trailing, loop, named⟩ := ih fewer
      refine ⟨argument :: others, trailing, ?_, nameOfArguments_cons_iff.mpr
        ⟨_, known, valued, first.isName, named⟩⟩
      rw [separatedFor]
      refine bind_ok_iff.mpr ⟨_, _, _, begins, ?_⟩
      refine bind_ok_iff.mpr ⟨_, _, _, read, ?_⟩
      refine bind_ok_iff.mpr ⟨false, _, _, rfl, ?_⟩
      refine bind_ok_iff.mpr ⟨_, _, _, (punct_char_ok_iff ',' rfl).mpr ⟨⟨joint, rfl⟩, rfl⟩, ?_⟩
      exact bind_ok_iff.mpr ⟨_, _, _, loop, rfl⟩
    | beside allowed => cases allowed

/-- The arguments of a marker that are accepted for its definition are those that give the name,
with commas between them. -/
theorem clientArguments_ok_iff :
    (∃ arguments, clientArguments tokens = .ok arguments ∧
      nameOfArguments none arguments = .ok found) ↔ NameArguments false none tokens found := by
  have enough : tokens.length < tokens.length + 1 := Nat.lt_succ_self _
  unfold clientArguments Source.Tokens.parse
  simp only [whole_ok_iff, commasToEnd, commas, run_map, run_bind, run_get]
  constructor
  · rintro ⟨arguments, accepted, named⟩
    split at accepted
    · rename_i read
      split at read
      · rename_i loop
        cases read
        cases accepted
        exact (nameArguments_of_separatedFor enough loop named).1
      · cases read
    · cases accepted
  · intro arguments
    obtain ⟨held, trailing, loop, named⟩ := separatedFor_of_nameArguments
      (g := .covering tokens) enough arguments none
    refine ⟨held, ?_, named⟩
    rw [loop]
    rfl

/-- The tokens that a client marker hands to its macro. -/
inductive Carries (held : Attribute) : Tokens → Prop
  | bare (content : held.content = .none) : Carries held []
  | group {delimiter : Source.Delimiter} {tokens : Tokens}
      (content : held.content = .list delimiter tokens) : Carries held tokens

theorem markerName_ok_iff {held : Attribute} (carries : Carries held tokens) :
    markerName held = .ok found ↔ NameArguments false none tokens found := by
  cases carries with
  | bare content =>
    rw [markerName, content]
    constructor
    · rintro ⟨⟩
      exact .nothing _
    · intro arguments
      cases arguments with
      | nothing => rfl
      | argument first => cases first.length
  | group content =>
    rw [← clientArguments_ok_iff, markerName, content]
    dsimp only
    cases clientArguments tokens <;> simp

/-- For the definition the marker gives the name that its macro finds, if commas stand between its
arguments, and none of them is accepted otherwise. The two agree exactly on arguments with commas
between them and on those that even the macro refuses. -/
theorem clientName_agrees_iff {imports : Imports} {item : Trait} {held : Attribute}
    {tokens : Tokens} (marked : clientMarker? imports item = some held)
    (carries : Carries held tokens) :
    (∀ found, clientName imports item = .ok found ↔
      Expansion.clientArguments tokens = .ok found ∧ Separated tokens) ∧
    ((∀ found, clientName imports item = .ok found ↔
        Expansion.clientArguments tokens = .ok found) ↔
      Separated tokens ∨ ∃ text, Expansion.clientArguments tokens = .error text) := by
  have strict (found : Option String) : clientName imports item = .ok found ↔
      Expansion.clientArguments tokens = .ok found ∧ Separated tokens := by
    rw [clientName, marked, Expansion.clientArguments_ok_iff, ← nameArguments_strict_iff]
    exact markerName_ok_iff carries
  refine ⟨strict, ?_⟩
  cases accepted : Expansion.clientArguments tokens with
  | error text => simp [strict, accepted]
  | ok found =>
    simp only [strict, accepted, Except.ok.injEq, reduceCtorEq, exists_false, or_false]
    exact ⟨fun alike => ((alike found).mpr rfl).2, fun separated other => and_iff_left separated⟩

/-- The attribute `#[restgen::api_client(tokens)]`. -/
def marking (tokens : Tokens) : Attribute :=
  ⟨false, ⟨false, [⟨.plain "restgen", .none⟩, ⟨.plain "api_client", .none⟩]⟩, .list .paren tokens⟩

/-- A trait with that attribute. -/
def markedTrait (tokens : Tokens) : Trait :=
  { Expansion.filesTrait "get" with attributes := [marking tokens] }

theorem clientMarker?_markedTrait (tokens : Tokens) :
    clientMarker? Expansion.fetching (markedTrait tokens) = some (marking tokens) := by
  have marked : Expansion.fetching.marker? (marking []).path = some .client := by decide
  exact List.find?_cons_of_pos (beq_iff_eq.mpr marked)

/-- The argument `name = "value"`. -/
def nameArgument (value : String) : Tokens := [.word "name", .punct '=' false, .string value]

/-- The arguments `name = "A"` and `name = "B"` with the tokens between them. -/
def twoNames (between : Tokens) : Tokens := nameArgument "A" ++ (between ++ nameArgument "B")

theorem isNameArgument_append {value : String} (isName : isNameText value = true)
    (behind : Tokens) : IsNameArgument (nameArgument value ++ behind) value behind :=
  ⟨⟨false, _, rfl, Text.unquote?_quote value⟩, isName⟩

theorem clientArguments_twoNames {between : Tokens}
    (next : NextArgument true (between ++ nameArgument "B") (nameArgument "B")) :
    Expansion.clientArguments (twoNames between) = .ok (some "B") :=
  Expansion.clientArguments_ok_iff.mpr <|
    .argument (isNameArgument_append (by decide) _) next <|
      .argument (isNameArgument_append (by decide) []) .nothing (.nothing _)

theorem clientName_agrees_iff_comma :
    clientMarker? Expansion.fetching (markedTrait (twoNames [.punct ',' false])) =
        some (marking (twoNames [.punct ',' false])) ∧
      clientName Expansion.fetching (markedTrait (twoNames [.punct ',' false])) =
        .ok (some "B") := by
  have marked := clientMarker?_markedTrait (twoNames [.punct ',' false])
  have separated : Separated (twoNames [.punct ',' false]) := by
    simp [Separated, twoNames, nameArgument, Token.word, Token.string]
  refine ⟨marked, ((clientName_agrees_iff marked (.group rfl)).1 _).mpr ⟨?_, separated⟩⟩
  exact clientArguments_twoNames (.comma false _)

/-- Without a comma between them the macro takes both names, and no definition is made. -/
theorem names_beside :
    Expansion.clientArguments (twoNames []) = .ok (some "B") ∧
      ∀ found, clientName Expansion.fetching (markedTrait (twoNames [])) ≠ .ok found := by
  refine ⟨clientArguments_twoNames (.beside rfl _), fun found given => ?_⟩
  rw [clientName, clientMarker?_markedTrait] at given
  have separated := (nameArguments_strict_iff.mp ((markerName_ok_iff (.group rfl)).mp given)).2
  simp [Separated, twoNames, nameArgument, Token.word, Token.string] at separated

end Lowering

end Endpoint
