import Endpoint.Proofs.Source.Rereading.Type

/-!
The statements of plain bodies are read again: calls, fields and macro calls on names and literals,
with or without a name that they are bound to.
-/

namespace Endpoint.Source

open Source.Parser

namespace Grammar

variable {g : Grammar} {rest : Tokens} {left : Option Delimiter}

/-! ### Names as expressions -/

/-- The path that is written as the names. -/
def namesPath (names : List Ident) : Path := ⟨false, names.map fun name => ⟨name, .none⟩⟩

theorem namesPath_tokens (names : List Ident) : (namesPath names).tokens = namesRow names :=
  path_tokens false names

theorem segment_starts {name : Ident} (starts : startsPath name = true)
    (turbofish : (rest.beginWith "::" && Tokens.beginWith "<" (rest.drop 2)) = false) (fuel : Nat) :
    segment g true (fuel + 1) (.ident name :: rest) left = .ok ((⟨name, .none⟩, rest), left) := by
  by_cases isName : name.isName = true
  · simp +decide [segment, seesWord, Tokens.beginWithWord_name _ isName, isName, turbofish]
  · simp only [startsPath, isName, Bool.false_or, pathWords, List.any_eq_true, List.mem_cons,
      List.not_mem_nil, or_false, beq_iff_eq] at starts
    obtain ⟨word, rfl | rfl | rfl | rfl, rfl⟩ := starts <;>
      simp +decide [segment, seesWord, turbofish]

/-- Names are taken as the segments of a path in an expression. -/
theorem reads_nameSegments {names : List Ident} (some : names ≠ [])
    (starts : ∀ name ∈ names, startsPath name = true) {fuel : Nat} (enough : names.length < fuel) :
    Reads (do return (← segment g true fuel) :: (← furtherSegments g true fuel)) (namesRow names)
      (·.beginWith "::" = false) (· = (namesPath names).segments) := by
  intro rest left noColons
  refine ⟨_, ?_, rfl⟩
  induction names generalizing fuel with
  | nil => exact absurd rfl some
  | cons first others ih =>
    obtain ⟨here, others'⟩ := List.forall_mem_cons.mp starts
    obtain ⟨fuel, rfl⟩ : ∃ fewer, fuel = fewer + 1 := ⟨fuel - 1, by omega⟩
    cases others with
    | nil =>
      have noTurbofish : (rest.beginWith "::" && Tokens.beginWith "<" (rest.drop 2)) = false := by
        simp [noColons]
      rw [show namesRow [first] ++ rest = .ident first :: rest from rfl,
        run_step (segment_starts here noTurbofish fuel)]
      simp [furtherSegments, noColons, namesPath]
    | cons second others =>
      have fewer : (second :: others).length < fuel := by simpa using enough
      have loop := ih (by simp) others' fewer
      have row : namesRow (first :: second :: others) ++ rest =
          .ident first :: Token.colons (namesRow (second :: others) ++ rest) := rfl
      have noAngle : Tokens.beginWith "<" (namesRow (second :: others) ++ rest) = false := by
        cases others <;> exact Tokens.beginWith_ident _ (by decide) _
      have noParen :
          Tokens.beginWithGroup .paren (namesRow (second :: others) ++ rest) = false := by
        cases others <;> rfl
      obtain ⟨found, behind, before, ranSegment, further⟩ := bind_ok_iff.mp loop
      obtain ⟨segments, _, _, ranFurther, ended⟩ := bind_ok_iff.mp further
      cases ended
      rw [row, run_step (segment_starts here (by simp [noAngle]) fuel)]
      simp [furtherSegments, Tokens.beginWithChars, noParen, ranSegment, ranFurther, namesPath]

/-- Names are taken as a path in an expression. -/
theorem reads_namesPath {names : List Ident} (some : names ≠ [])
    (starts : ∀ name ∈ names, startsPath name = true) :
    Reads (qualifiedPath g true) (namesRow names) (·.beginWith "::" = false)
      (· = ⟨none, namesPath names⟩) := by
  intro rest left noColons
  refine ⟨_, ?_, rfl⟩
  obtain ⟨fuel, steps, enough⟩ : ∃ fuel,
      8 * (namesRow names ++ rest).length + 16 = fuel + 1 ∧ names.length < fuel := by
    have := length_le_namesRow names
    refine ⟨8 * (namesRow names ++ rest).length + 15, rfl, ?_⟩
    rw [List.length_append]
    omega
  obtain ⟨_, taken, rfl⟩ := reads_nameSegments (g := g) some starts enough rest left noColons
  obtain ⟨first, behind, before, ranSegment, further⟩ := bind_ok_iff.mp taken
  obtain ⟨segments, _, _, ranFurther, ended⟩ := bind_ok_iff.mp further
  obtain ⟨name, others, rfl⟩ := List.exists_cons_of_ne_nil some
  have noSign {operator : String} (nonempty : operator ≠ "") :
      Tokens.beginWith operator (namesRow (name :: others) ++ rest) = false := by
    cases others <;> exact Tokens.beginWith_ident _ nonempty _
  have whole : fullPath g true (namesRow (name :: others) ++ rest) left =
      .ok ((namesPath (name :: others), rest), left) := by
    simp only [fullPath, Grammar.steps, ↓run_bind, run_get, run_pure, steps, path, run_punct?,
      noSign, ranSegment, ranFurther, Bool.false_eq_true, if_false, ne_eq, String.reduceEq,
      not_false_eq_true]
    cases ended
    rfl
  simp [qualifiedPath, noSign, whole]

/-! ### Plain expressions -/

/-- Names that are written as a path: words that stand for a segment may be among them. -/
structure PlainNames (names : List Ident) : Prop where
  some : names ≠ []
  starts : ∀ name ∈ names, startsPath name = true
  notRoot : names ≠ [.plain "crate"]

/-- A name or a literal, with calls, fields and question marks behind it, a macro call, or such an
expression in parentheses or behind a mark of reference. -/
inductive PlainExpr : Expr → Prop
  | literal (text : String) : PlainExpr (.literal (.literal text))
  | truth {word : String} (isTruth : word = "true" ∨ word = "false") :
      PlainExpr (.literal (.word word))
  | names {names : List Ident} (plain : PlainNames names) :
      PlainExpr (.path ⟨none, namesPath names⟩)
  | invocation {names : List Ident} (plain : PlainNames names) {delimiter : Delimiter}
      (noBrace : delimiter ≠ .brace) (inner : Tokens) :
      PlainExpr (.invocation (namesPath names) delimiter inner)
  | call {names : List Ident} (plain : PlainNames names) {arguments : List Expr}
      (each : ∀ held ∈ arguments, PlainExpr held) :
      PlainExpr (.call (.path ⟨none, namesPath names⟩) arguments false)
  | paren {inner : Expr} (plain : PlainExpr inner) : PlainExpr (.paren inner)
  | field {base : Expr} (plain : PlainExpr base) (tight : base.precedence = .tight) {name : Ident}
      (isName : name.isName = true) : PlainExpr (.field base (.named name))
  | methodCall {base : Expr} (plain : PlainExpr base) (tight : base.precedence = .tight)
      {name : Ident} (isName : name.isName = true) {arguments : List Expr}
      (each : ∀ held ∈ arguments, PlainExpr held) :
      PlainExpr (.methodCall base name .none arguments false)
  | attempt {base : Expr} (plain : PlainExpr base) (tight : base.precedence = .tight) :
      PlainExpr (.attempt base)
  | await {base : Expr} (plain : PlainExpr base) (tight : base.precedence = .tight) :
      PlainExpr (.await base)
  | reference (mutable : Bool) {inner : Expr} (plain : PlainExpr inner) :
      PlainExpr (.reference mutable inner)

theorem exprRows_eq_map (values : List Expr) : exprRows values = values.map Expr.tokens := by
  induction values with
  | nil => rfl
  | cons value others ih => rw [exprRows, ih, List.map_cons]

/-- Tokens that begin with neither a word nor the mark of an attribute. -/
structure Loose (rest : Tokens) : Prop where
  noWord : Tokens.ident? rest = none
  noHash : rest.beginWith "#" = false

/-- Tokens that an expression without operators can begin with. -/
inductive BeginsAtom : Tokens → Prop
  | literal (text : String) (more : Tokens) : BeginsAtom (.literal text :: more)
  | truth {word : String} (isTruth : word = "true" ∨ word = "false") (more : Tokens) :
      BeginsAtom (.word word :: more)
  | name {name : Ident} (starts : startsPath name = true) {more : Tokens} (loose : Loose more)
      (root : name = .plain "crate" → more.beginWith "::" = true) :
      BeginsAtom (.ident name :: more)
  | paren (inner more : Tokens) : BeginsAtom (.group .paren inner :: more)

theorem PlainNames.begins {names : List Ident} (plain : PlainNames names) (loose : Loose rest) :
    BeginsAtom (namesRow names ++ rest) := by
  obtain ⟨first, others, rfl⟩ := List.exists_cons_of_ne_nil plain.some
  have starts := plain.starts first (.head _)
  cases others with
  | nil => exact .name starts loose fun same => absurd (same ▸ rfl) plain.notRoot
  | cons second others => exact .name starts ⟨rfl, rfl⟩ fun _ => rfl

theorem PlainExpr.beginsAtom {value : Expr} (plain : PlainExpr value)
    (tight : value.precedence = .tight) (loose : Loose rest) :
    BeginsAtom (value.tokens ++ rest) := by
  induction plain generalizing rest with
  | literal text => exact .literal text rest
  | truth isTruth => exact .truth isTruth rest
  | names plain =>
    rw [Expr.tokens, QualifiedPath.tokens, namesPath_tokens]
    exact plain.begins loose
  | invocation plain =>
    rw [Expr.tokens, namesPath_tokens, List.append_assoc]
    exact plain.begins ⟨rfl, rfl⟩
  | call plain =>
    rw [Expr.tokens, Expr.tokens, QualifiedPath.tokens, namesPath_tokens, List.append_assoc]
    exact plain.begins ⟨rfl, rfl⟩
  | paren => exact .paren _ rest
  | field _ here _ ih =>
    rw [Expr.tokens, List.append_assoc]
    exact ih here ⟨rfl, rfl⟩
  | methodCall _ here _ _ ih =>
    simp only [Expr.tokens, List.append_assoc]
    exact ih here ⟨rfl, rfl⟩
  | attempt _ here ih =>
    rw [Expr.tokens, List.append_assoc]
    exact ih here ⟨rfl, rfl⟩
  | await _ here ih =>
    rw [Expr.tokens, List.append_assoc]
    exact ih here ⟨rfl, rfl⟩
  | reference => cases tight

/-- Only a mark of reference makes a plain expression looser than what stands in it. -/
theorem PlainExpr.tight_or_reference {value : Expr} (plain : PlainExpr value) :
    value.precedence = .tight ∨
      ∃ mutable inner, value = .reference mutable inner ∧ PlainExpr inner := by
  cases plain with
  | reference mutable plain => exact .inr ⟨mutable, _, rfl, plain⟩
  | _ => exact .inl (by simp [Expr.precedence])

theorem PlainExpr.tokens_ne_nil {value : Expr} (plain : PlainExpr value) : value.tokens ≠ [] := by
  obtain tight | ⟨mutable, inner, rfl, -⟩ := plain.tight_or_reference
  · intro none
    have begins : BeginsAtom (value.tokens ++ []) := plain.beginsAtom tight ⟨rfl, rfl⟩
    rw [none] at begins
    cases begins
  · simp [Expr.tokens]

theorem PlainExpr.notRange {value : Expr} (plain : PlainExpr value) : isRange value = false := by
  cases plain <;> rfl

/-! ### Atoms and what stands behind them -/

/-- Tokens that a path in an expression does not take in. -/
structure EndsNames (rest : Tokens) : Prop extends Loose rest where
  further : rest.beginWith "::" = false
  call : rest.beginWith "!" = false
  fields : rest.beginWithGroup .brace = false

theorem atom_starts {name : Ident} (starts : startsPath name = true) {more : Tokens}
    (loose : Loose more) (fuel : Nat) :
    atom g true (fuel + 1) (.ident name :: more) left =
      pathExpr g true (.ident name :: more) left := by
  have noSign {operator : String} (nonempty : operator ≠ "") :
      Tokens.beginWith operator (.ident name :: more) = false :=
    Tokens.beginWith_ident _ nonempty _
  by_cases isName : name.isName = true
  · simp +decide [atom, Tokens.beginWithWord_name _ isName, isName, noSign, loose.noHash]
  · simp only [startsPath, isName, Bool.false_or, pathWords, List.any_eq_true, List.mem_cons,
      List.not_mem_nil, or_false, beq_iff_eq] at starts
    obtain ⟨word, rfl | rfl | rfl | rfl, rfl⟩ := starts <;>
      simp +decide [atom, noSign, pathWords]

theorem atom_path {names : List Ident} (plain : PlainNames names) (loose : Loose rest)
    (fuel : Nat) :
    atom g true (fuel + 1) (namesRow names ++ rest) left =
      pathExpr g true (namesRow names ++ rest) left := by
  obtain ⟨first, others, rfl⟩ := List.exists_cons_of_ne_nil plain.some
  have starts := plain.starts first (.head _)
  cases others with
  | nil => exact atom_starts starts loose fuel
  | cons second others => exact atom_starts starts ⟨rfl, rfl⟩ fuel

theorem atom_names {names : List Ident} (plain : PlainNames names) (ends : EndsNames rest)
    (fuel : Nat) :
    atom g true (fuel + 1) (namesRow names ++ rest) left =
      .ok ((.path ⟨none, namesPath names⟩, rest), left) := by
  obtain ⟨_, taken, rfl⟩ := reads_namesPath (g := g) plain.some plain.starts rest left ends.further
  rw [atom_path plain ends.toLoose, pathExpr, run_step taken]
  simp [seesPunct, seesGroup, ends.call, ends.fields]

theorem atom_invocation {names : List Ident} (plain : PlainNames names) (delimiter : Delimiter)
    (inner : Tokens) (fuel : Nat) :
    atom g true (fuel + 1)
        (namesRow names ++ .punct '!' false :: .group delimiter inner :: rest) left =
      .ok ((.invocation (namesPath names) delimiter inner, rest), left) := by
  obtain ⟨_, taken, rfl⟩ := reads_namesPath (g := g) plain.some plain.starts
    (.punct '!' false :: .group delimiter inner :: rest) left rfl
  have isPlain : (namesPath names).isPlain = true := by
    simp [Path.isPlain, namesPath, Arguments.isEmpty]
  rw [atom_path plain ⟨rfl, rfl⟩, pathExpr, run_step taken]
  simp [isPlain, seesPunct, Tokens.beginWithChars, invocationGroup]

/-- The expressions of which at most so many tokens are written are read again. -/
def ReadsExprs (g : Grammar) (size : Nat) : Prop :=
  ∀ value, PlainExpr value → value.tokens.size ≤ size →
    Reads (g.expr true) value.tokens EndsExpr (· = value)

section

variable {size : Nat} (reads : ReadsExprs g size)

include reads

/-- Arguments between parentheses are read one by one. -/
theorem reads_arguments {arguments : List Expr} (each : ∀ held ∈ arguments, PlainExpr held)
    (fits : Tokens.size (withCommas false (exprRows arguments)) ≤ size) (rest : Tokens)
    (left : Option Delimiter) :
    group .paren (commasToEnd (g.expr true))
        (.paren (withCommas false (exprRows arguments)) :: rest) left =
      .ok (((arguments, false), rest), left) := by
  rw [exprRows_eq_map] at fits ⊢
  have nonempty : ∀ held ∈ arguments, held.tokens ≠ [] := fun held member =>
    (each held member).tokens_ne_nil
  have parts : ∀ held ∈ arguments, Reads (g.expr true) held.tokens Ends fun found =>
      found = held := by
    intro held member rest left ends
    refine reads held (each held member) ?_ rest left ends.endsExpr
    have part := Tokens.size_joined joins_commas (List.mem_map_of_mem (f := Expr.tokens) member)
    rw [withCommas, Bool.false_and, if_neg Bool.false_ne_true, List.append_nil] at fits
    omega
  obtain ⟨⟨found, flag⟩, taken, same, flagged⟩ := reads_commas nonempty parts false [] left rfl
  rw [List.forall₂_eq_eq_eq] at same
  cases same
  obtain rfl : flag = false := flagged
  rw [List.append_nil] at taken
  simp [Token.paren, taken]

theorem trailers_call {base : Expr} {arguments : List Expr}
    (each : ∀ held ∈ arguments, PlainExpr held)
    (fits : Tokens.size (withCommas false (exprRows arguments)) ≤ size) (fuel : Nat) :
    trailers g (fuel + 1) base (.paren (withCommas false (exprRows arguments)) :: rest) left =
      trailers g fuel (.call base arguments false) rest left := by
  have taken := reads_arguments reads each fits rest left
  rw [trailers]
  simp only [Token.paren] at taken ⊢
  simp [seesGroup, taken, -run_group]

theorem trailers_methodCall {base : Expr} (plain : PlainExpr base) {name : Ident}
    (isName : name.isName = true) {arguments : List Expr}
    (each : ∀ held ∈ arguments, PlainExpr held)
    (fits : Tokens.size (withCommas false (exprRows arguments)) ≤ size) (fuel : Nat) :
    trailers g (fuel + 1) base (.punct '.' false :: .ident name ::
        .paren (withCommas false (exprRows arguments)) :: rest) left =
      trailers g fuel (.methodCall base name .none arguments false) rest left := by
  have taken := reads_arguments reads each fits rest left
  rw [trailers]
  simp only [Token.paren] at taken ⊢
  simp +decide [seesGroup, seesPunct, plain.notRange, trailers.named, member, isName,
    Tokens.beginWithChars, Tokens.beginWithWord_name, Tokens.beginWith_group, taken, -run_group]

end

theorem trailers_field {base : Expr} (plain : PlainExpr base) {name : Ident}
    (isName : name.isName = true) (noColons : rest.beginWith "::" = false)
    (noCall : rest.beginWithGroup .paren = false) (fuel : Nat) :
    trailers g (fuel + 1) base (.punct '.' false :: .ident name :: rest) left =
      trailers g fuel (.field base (.named name)) rest left := by
  rw [trailers]
  simp +decide [seesGroup, seesPunct, plain.notRange, trailers.named, member, isName,
    Tokens.beginWithChars, Tokens.beginWithWord_name, noColons, noCall]

theorem trailers_await {base : Expr} (plain : PlainExpr base) (fuel : Nat) :
    trailers g (fuel + 1) base (.punct '.' false :: .word "await" :: rest) left =
      trailers g fuel (.await base) rest left := by
  rw [trailers]
  simp [seesGroup, seesPunct, plain.notRange, trailers.named, Tokens.beginWithChars, Token.word]

theorem trailers_attempt {base : Expr} (plain : PlainExpr base) (fuel : Nat) :
    trailers g (fuel + 1) base (.punct '?' false :: rest) left =
      trailers g fuel (.attempt base) rest left := by
  rw [trailers]
  simp [seesGroup, seesPunct, punctWhere?, plain.notRange, Tokens.beginWithChars]

/-- Tokens that neither a path nor the name of a field takes in. -/
structure EndsChain (rest : Tokens) : Prop extends EndsNames rest where
  inputs : rest.beginWithGroup .paren = false

theorem EndsExpr.endsChain (ends : EndsExpr rest) : EndsChain rest :=
  ⟨⟨⟨ends.noWord, ends.sign _ (by simp)⟩, ends.sign _ (by simp), ends.sign _ (by simp),
    ends.group _⟩, ends.group _⟩

theorem endsChain_point (more : Tokens) : EndsChain (.punct '.' false :: more) :=
  ⟨⟨⟨rfl, rfl⟩, rfl, rfl, rfl⟩, rfl⟩

theorem endsChain_question (more : Tokens) : EndsChain (.punct '?' false :: more) :=
  ⟨⟨⟨rfl, rfl⟩, rfl, rfl, rfl⟩, rfl⟩

/-- The tokens are taken as an atom and then link by link, as trailers of it, up to the rest. -/
def Chained (g : Grammar) (value : Expr) (tokens rest : Tokens) : Prop :=
  ∃ base behind links, (∀ fuel left, atom g true (fuel + 1) tokens left =
      .ok ((base, behind), left)) ∧ links + rest.length ≤ behind.length ∧
    ∀ fuel left, trailers g (fuel + links) base behind left = trailers g fuel value rest left

theorem Chained.atom {value : Expr} {tokens : Tokens}
    (taken : ∀ fuel left, Grammar.atom g true (fuel + 1) tokens left =
      .ok ((value, rest), left)) : Chained g value tokens rest :=
  ⟨value, rest, 0, taken, Nat.le_of_eq (Nat.zero_add _), fun _ _ => rfl⟩

/-- One more link is taken behind what was taken before. -/
theorem Chained.link {base value : Expr} {tokens middle : Tokens}
    (chained : Chained g base tokens middle) (shorter : rest.length < middle.length)
    (taken : ∀ fuel left, trailers g (fuel + 1) base middle left =
      trailers g fuel value rest left) : Chained g value tokens rest := by
  obtain ⟨first, behind, links, ranAtom, enough, ran⟩ := chained
  refine ⟨first, behind, links + 1, ranAtom, by omega, fun fuel left => ?_⟩
  rw [show fuel + (links + 1) = fuel + 1 + links by omega, ran, taken]

section

variable {size : Nat} (reads : ReadsExprs g size)

include reads

theorem PlainExpr.chained {value : Expr} (plain : PlainExpr value)
    (tight : value.precedence = .tight) (fits : value.tokens.size ≤ size + 1)
    (ends : EndsChain rest) : Chained g value (value.tokens ++ rest) rest := by
  induction plain generalizing rest with
  | literal text => exact .atom fun fuel left => by simp [Expr.tokens, Grammar.atom]
  | truth isTruth =>
    refine .atom fun fuel left => ?_
    rcases isTruth with rfl | rfl <;> simp [Expr.tokens, Grammar.atom, Token.word]
  | names plain =>
    rw [Expr.tokens, QualifiedPath.tokens, namesPath_tokens]
    exact .atom fun fuel left => atom_names plain ends.toEndsNames fuel
  | invocation plain noBrace inner =>
    rw [Expr.tokens, namesPath_tokens, List.append_assoc]
    exact .atom fun fuel left => atom_invocation plain _ inner fuel
  | @call names plain arguments each =>
    rw [Expr.tokens, Expr.tokens, QualifiedPath.tokens, namesPath_tokens] at fits ⊢
    rw [List.append_assoc]
    have small : Tokens.size (withCommas false (exprRows arguments)) ≤ size := by
      simp [Tokens.size_append, Token.paren] at fits
      omega
    refine Chained.link (.atom fun fuel left => atom_names plain ⟨⟨rfl, rfl⟩, rfl, rfl, rfl⟩ fuel)
      ?_ fun fuel left => trailers_call reads each small fuel
    simp
  | @paren inner plain ih =>
    rw [Expr.tokens] at fits ⊢
    have small : Tokens.size inner.tokens ≤ size := by
      simp [Token.paren] at fits
      omega
    refine .atom fun fuel left => ?_
    obtain ⟨_, taken, rfl⟩ := reads _ plain small [] left Ends.nothing.endsExpr
    rw [List.append_nil] at taken
    simp +decide [Grammar.atom, Token.paren, Tokens.beginWith_group, Tokens.beginWithName,
      Tokens.ident?, parenExpr, pathWords, taken, atEnd, plain.tokens_ne_nil]
  | @field base plain here name isName ih =>
    rw [Expr.tokens] at fits ⊢
    have small : Tokens.size base.tokens ≤ size + 1 := by
      rw [Tokens.size_append] at fits
      omega
    rw [List.append_assoc]
    refine (ih here small (endsChain_point _)).link ?_ fun fuel left =>
      trailers_field plain isName ends.further ends.inputs fuel
    simp only [Member.tokens, List.append_eq, List.length_append, List.length_cons]
    omega
  | @methodCall base plain here name isName arguments each ih =>
    have row : (Expr.methodCall base name .none arguments false).tokens = base.tokens ++
        [.punct '.' false, .ident name, .paren (withCommas false (exprRows arguments))] := by
      simp [Expr.tokens, Arguments.tokens]
    rw [row, Tokens.size_append] at fits
    have small : Tokens.size (withCommas false (exprRows arguments)) ≤ size := by
      simp [Token.paren] at fits
      omega
    rw [row, List.append_assoc]
    refine (ih here (by omega) (endsChain_point _)).link ?_ fun fuel left =>
      trailers_methodCall reads plain isName each small fuel
    simp only [List.append_eq, List.length_append, List.length_cons]
    omega
  | @attempt base plain here ih =>
    rw [Expr.tokens] at fits ⊢
    have small : Tokens.size base.tokens ≤ size + 1 := by
      rw [Tokens.size_append] at fits
      omega
    rw [List.append_assoc]
    refine (ih here small (endsChain_question _)).link ?_ fun fuel left =>
      trailers_attempt plain fuel
    simp
  | @await base plain here ih =>
    rw [Expr.tokens] at fits ⊢
    have small : Tokens.size base.tokens ≤ size + 1 := by
      rw [Tokens.size_append] at fits
      omega
    rw [List.append_assoc]
    refine (ih here small (endsChain_point _)).link ?_ fun fuel left =>
      trailers_await plain fuel
    simp only [List.append_eq, List.length_append, List.length_cons]
    omega
  | reference => cases tight

end

/-! ### Whole expressions -/

section

variable {tokens : Tokens} (begins : BeginsAtom tokens)

include begins

theorem BeginsAtom.noSign {operator : String} (nonempty : operator ≠ "") :
    tokens.beginWith operator = false := by
  cases begins with
  | literal text more => exact beginWith_literal nonempty text more
  | truth | name => exact Tokens.beginWith_ident _ nonempty _
  | paren inner more => exact Tokens.beginWith_group _ nonempty _ _

theorem BeginsAtom.noWord {word : String} (reserved : word ∈ keywords)
    (other : word ∉ "true" :: "false" :: pathWords) : tokens.beginWithWord word = false := by
  cases begins with
  | literal | paren => rfl
  | @truth found isTruth more =>
    rw [Token.word, Tokens.beginWithWord_plain, beq_eq_false_iff_ne]
    rintro rfl
    rcases isTruth with rfl | rfl <;> simp at other
  | @name name starts more =>
    by_cases isName : name.isName = true
    · exact Tokens.beginWithWord_name _ isName word reserved
    · simp only [startsPath, isName, Bool.false_or, List.any_eq_true, beq_iff_eq] at starts
      obtain ⟨opening, member, rfl⟩ := starts
      rw [Tokens.beginWithWord_plain, beq_eq_false_iff_ne]
      rintro rfl
      exact other (.tail _ (.tail _ member))

theorem BeginsAtom.outerAttributes : Grammar.outerAttributes g tokens left =
    .ok (([], tokens), left) := by
  simp [Grammar.outerAttributes, many, repeatFor, begins.noSign]

end

/-- Tokens that a plain expression can begin with. -/
def BeginsExpr (tokens : Tokens) : Prop :=
  BeginsAtom tokens ∨ ∃ more, tokens = .punct '&' false :: more

theorem PlainExpr.begins {value : Expr} (plain : PlainExpr value) (loose : Loose rest) :
    BeginsExpr (value.tokens ++ rest) := by
  obtain tight | ⟨mutable, inner, rfl, -⟩ := plain.tight_or_reference
  · exact .inl (plain.beginsAtom tight loose)
  · exact .inr ⟨_, rfl⟩

theorem BeginsExpr.noWord {tokens : Tokens} (begins : BeginsExpr tokens) {word : String}
    (reserved : word ∈ keywords) (other : word ∉ "true" :: "false" :: pathWords) :
    tokens.beginWithWord word = false := by
  obtain begins | ⟨more, rfl⟩ := begins
  · exact begins.noWord reserved other
  · rfl

theorem BeginsExpr.noBrace {tokens : Tokens} (begins : BeginsExpr tokens) :
    tokens.beginWithGroup .brace = false := by
  obtain begins | ⟨more, rfl⟩ := begins
  · cases begins <;> rfl
  · rfl

theorem BeginsExpr.noLifetime {tokens : Tokens} (begins : BeginsExpr tokens) :
    tokens.beginWithLifetime = false := by
  obtain begins | ⟨more, rfl⟩ := begins
  · cases begins <;> rfl
  · rfl

theorem BeginsExpr.outerAttributes {tokens : Tokens} (begins : BeginsExpr tokens) :
    Grammar.outerAttributes g tokens left = .ok (([], tokens), left) := by
  obtain begins | ⟨more, rfl⟩ := begins
  · exact begins.outerAttributes
  · simp [Grammar.outerAttributes, many, repeatFor, Tokens.beginWithChars]

/-- No two words stand in front. -/
theorem BeginsExpr.noWords {tokens : Tokens} (begins : BeginsExpr tokens)
    {first : String} (second : String) (other : first ∉ ["true", "false"]) :
    (tokens.beginWithWord first && Tokens.beginWithWord second tokens.tail) = false := by
  obtain begins | ⟨more, rfl⟩ := begins
  · cases begins with
    | literal | paren => rfl
    | @truth found isTruth more =>
      have apart : Tokens.beginWithWord first (.word found :: more) = false := by
        rw [Token.word, Tokens.beginWithWord_plain, beq_eq_false_iff_ne]
        rintro rfl
        rcases isTruth with rfl | rfl <;> simp at other
      rw [apart, Bool.false_and]
    | name _ loose => simp [Tokens.beginWithWord, loose.noWord]
  · rfl

section

variable {size : Nat} (reads : ReadsExprs g size)

include reads

theorem reads_unaryTight {value : Expr} (plain : PlainExpr value)
    (tight : value.precedence = .tight) (fits : value.tokens.size ≤ size + 1) (fuel : Nat) :
    Reads (unary g true (fuel + 2)) value.tokens EndsExpr (· = value) := by
  intro rest left ends
  refine ⟨_, ?_, rfl⟩
  have begins := plain.beginsAtom tight ends.endsChain.toLoose
  obtain ⟨base, behind, links, ranAtom, enough, ran⟩ :=
    plain.chained reads tight fits ends.endsChain
  obtain ⟨more, whole⟩ : ∃ more, behind.length + 1 = more + links :=
    ⟨behind.length + 1 - links, by omega⟩
  have ranTrailers : trailers g (behind.length + 1) base behind left =
      .ok ((value, rest), left) := by
    rw [whole, ran, trailers_ends ends]
  rw [unary]
  simp only [↓run_bind, run_get, begins.outerAttributes, seesPunct, run_sees, run_punct?,
    begins.noSign, ↓run_ite, Bool.false_eq_true, if_false, ranAtom, ranTrailers, ne_eq,
    String.reduceEq, not_false_eq_true]
  cases plain <;> rfl

theorem reads_unary {value : Expr} (plain : PlainExpr value)
    (fits : value.tokens.size ≤ size + 1) {fuel : Nat} (enough : value.tokens.length + 1 < fuel) :
    Reads (unary g true fuel) value.tokens EndsExpr (· = value) := by
  induction fuel generalizing value with
  | zero => omega
  | succ fuel ih =>
    obtain tight | ⟨mutable, inner, rfl, held⟩ := plain.tight_or_reference
    · have some := List.length_pos_iff.mpr plain.tokens_ne_nil
      obtain ⟨fuel, rfl⟩ : ∃ fewer, fuel = fewer + 1 := ⟨fuel - 1, by omega⟩
      exact reads_unaryTight reads plain tight fits fuel
    · intro rest left ends
      refine ⟨_, ?_, rfl⟩
      have begins := held.begins ends.endsChain.toLoose
      have noMut : Tokens.beginWithWord "mut" (inner.tokens ++ rest) = false :=
        begins.noWord (by decide) (by decide)
      have noRaw : (Tokens.beginWithWord "raw" (inner.tokens ++ rest) &&
          (Tokens.beginWithWord "mut" (inner.tokens ++ rest).tail ||
            Tokens.beginWithWord "const" (inner.tokens ++ rest).tail)) = false := by
        rw [Bool.and_or_distrib_left, begins.noWords "mut" (by decide),
          begins.noWords "const" (by decide), Bool.or_false]
      rw [Expr.tokens] at fits enough ⊢
      have small : inner.tokens.size ≤ size + 1 := by
        cases mutable <;> simp [keywordIf, Token.word] at fits <;> omega
      have fewer : inner.tokens.length + 1 < fuel := by
        cases mutable <;> simp [keywordIf] at enough <;> omega
      obtain ⟨_, taken, rfl⟩ := ih held small fewer rest left ends
      rw [unary]
      cases mutable <;>
        simp [outerAttributes, many, repeatFor, seesPunct, keywordIf, Token.word,
          Tokens.beginWithChars, noMut, noRaw, taken, withAttributes]

/-- A plain expression is read again as an expression, whatever ends it. -/
theorem reads_exprRule {value : Expr} (plain : PlainExpr value)
    (fits : value.tokens.size ≤ size + 1) :
    Reads (exprRule g true) value.tokens EndsExpr (· = value) := by
  intro rest left ends
  have enough : value.tokens.length + 1 < 8 * (value.tokens ++ rest).length + 23 := by
    rw [List.length_append]
    omega
  obtain ⟨_, taken, rfl⟩ := reads_unary reads plain fits enough rest left ends
  refine ⟨_, ?_, rfl⟩
  rw [run_exprRule, expression, run_step taken, climb_ends ends]

/-- A plain expression is read again as a statement, and none of it is a block. -/
theorem reads_aloneRule {value : Expr} (plain : PlainExpr value)
    (fits : value.tokens.size ≤ size + 1) :
    Reads (aloneRule g) value.tokens EndsExpr (· = value) := by
  intro rest left ends
  have begins := plain.begins ends.endsChain.toLoose
  have enough : value.tokens.length + 1 < 8 * (value.tokens ++ rest).length + 23 := by
    rw [List.length_append]
    omega
  obtain ⟨found, taken, same⟩ := reads_unary reads plain fits enough rest left ends
  obtain rfl : value = found := same.symm
  refine ⟨value, ?_, rfl⟩
  have noWord : ∀ word ∈ ["if", "while", "for", "loop", "match", "try", "unsafe", "const"],
      Tokens.beginWithWord word (value.tokens ++ rest) = false := by
    have reserved : ∀ word ∈ ["if", "while", "for", "loop", "match", "try", "unsafe", "const"],
        word ∈ keywords ∧ word ∉ "true" :: "false" :: pathWords := by decide
    exact fun word member => begins.noWord (reserved word member).1 (reserved word member).2
  have whole : bounded g (8 * (value.tokens ++ rest).length + 23 + 1) (value.tokens ++ rest) left =
      .ok ((value, rest), left) := by
    simp [bounded, begins.outerAttributes, noWord, begins.noBrace, begins.noLifetime, taken,
      withAttributes, climb_ends ends, -List.length_append]
  simp only [aloneRule, exprSteps, ↓run_bind, run_get, run_pure]
  exact whole

end

/-- Rules that may call one another as deep as a plain expression has tokens read it again. -/
theorem readsExprs_level (depth : Nat) : ReadsExprs (level depth) depth := by
  induction depth with
  | zero =>
    intro value plain fits
    obtain ⟨token, others, row⟩ := List.exists_cons_of_ne_nil plain.tokens_ne_nil
    rw [row] at fits
    cases token <;> simp [Tokens.size, Tokens.sizeOne] at fits
  | succ depth ih => exact fun value plain fits => reads_exprRule ih plain fits

/-! ### Statements -/

theorem endsExpr_semicolon (more : Tokens) : EndsExpr (.punct ';' false :: more) := by
  have noSign : ∀ sign ∈ [".", "?", "=", "..", "::", "!", "#"],
      Tokens.beginWith sign (.punct ';' false :: more) = false := by
    simp only [List.mem_cons, List.not_mem_nil, or_false]
    rintro _ (rfl | rfl | rfl | rfl | rfl | rfl | rfl) <;> rfl
  exact ⟨rfl, noSign, fun _ => rfl, rfl⟩

/-- No macro call stands in front, or one that is no item and has no braces. -/
def NoCallAhead (tokens : Tokens) : Prop :=
  ∀ left, invocationAhead tokens left = .ok ((none, tokens), left) ∨
    ∃ path delimiter inner behind, delimiter ≠ .brace ∧
      invocationAhead tokens left =
        .ok ((some (path, .group delimiter inner :: behind), tokens), left)

theorem noCallAhead_names {names : List Ident} (plain : PlainNames names)
    (noColons : rest.beginWith "::" = false)
    (call : rest.beginWith "!" = true →
      ∃ delimiter inner behind, delimiter ≠ .brace ∧
        rest.drop 1 = .group delimiter inner :: behind) :
    NoCallAhead (namesRow names ++ rest) := by
  intro left
  obtain ⟨_, taken, rfl⟩ := reads_plainPath false plain.some plain.starts rest left noColons
  rw [path_tokens, if_neg Bool.false_ne_true, List.nil_append] at taken
  by_cases mark : rest.beginWith "!" = true
  · obtain ⟨delimiter, inner, behind, noBrace, row⟩ := call mark
    refine .inr ⟨namesPath names, delimiter, inner, behind, noBrace, ?_⟩
    rw [← row]
    simp [invocationAhead, taken, mark, namesPath]
  · exact .inl (by simp [invocationAhead, taken, mark])

/-- In front of what begins no path stands no macro call. -/
theorem noCallAhead_of_fails {tokens : Tokens}
    (fails : ∀ left, ∃ fault, plainPath tokens left = .error fault) : NoCallAhead tokens := by
  intro left
  obtain ⟨fault, failed⟩ := fails left
  exact .inl (by simp [invocationAhead, failed])

/-- No path begins with a keyword, other than those that stand for a segment. -/
theorem plainPath_word {word : String} (other : startsPath (.plain word) = false) :
    ∃ fault, plainPath (.word word :: rest) left = .error fault := by
  have noSign : Tokens.beginWith "::" (.ident (.plain word) :: rest) = false :=
    Tokens.beginWith_ident _ (by decide) _
  have isKeyword : (Ident.plain word).isName = false := (Bool.or_eq_false_iff.mp other).1
  refine ⟨.keyword word, ?_⟩
  simp [plainPath, plainPath.segments, Token.word, noSign, run_seesPathStart, other, isKeyword]
  rfl

theorem PlainExpr.noCallAhead {value : Expr} (plain : PlainExpr value) (ends : EndsChain rest) :
    NoCallAhead (value.tokens ++ rest) := by
  induction plain generalizing rest with
  | literal text => exact noCallAhead_of_fails fun left => ⟨_, rfl⟩
  | truth isTruth =>
    refine noCallAhead_of_fails fun left => plainPath_word ?_
    rcases isTruth with rfl | rfl <;> decide
  | names plain =>
    rw [Expr.tokens, QualifiedPath.tokens, namesPath_tokens]
    exact noCallAhead_names plain ends.further fun call => by simp [ends.call] at call
  | invocation plain noBrace inner =>
    rw [Expr.tokens, namesPath_tokens, List.append_assoc]
    exact noCallAhead_names plain rfl fun _ => ⟨_, inner, rest, noBrace, rfl⟩
  | call plain =>
    rw [Expr.tokens, Expr.tokens, QualifiedPath.tokens, namesPath_tokens, List.append_assoc]
    exact noCallAhead_names plain rfl fun call => by cases call
  | paren => exact noCallAhead_of_fails fun left => ⟨_, rfl⟩
  | field _ _ _ ih =>
    rw [Expr.tokens, List.append_assoc]
    exact ih (endsChain_point _)
  | methodCall _ _ _ _ ih =>
    simp only [Expr.tokens, List.append_assoc]
    exact ih (endsChain_point _)
  | attempt _ _ ih =>
    rw [Expr.tokens, List.append_assoc]
    exact ih (endsChain_question _)
  | await _ _ ih =>
    rw [Expr.tokens, List.append_assoc]
    exact ih (endsChain_point _)
  | reference => exact noCallAhead_of_fails fun left => ⟨_, rfl⟩

/-- A plain expression begins no item. -/
theorem BeginsExpr.noItem {tokens : Tokens} (begins : BeginsExpr tokens) :
    seesItem tokens left = .ok ((false, tokens), left) := by
  obtain begins | ⟨more, rfl⟩ := begins
  · cases begins with
    | literal | paren => rfl
    | truth isTruth => rcases isTruth with rfl | rfl <;> rfl
    | @name name starts more loose root =>
      have noNext (word : String) : Tokens.beginWithWord word more = false := by
        rw [Tokens.beginWithWord, loose.noWord]
        rfl
      have noName : Tokens.beginWithName more = false := by
        rw [Tokens.beginWithName, loose.noWord]
      by_cases isName : name.isName = true
      · simp +decide [seesItem, Tokens.beginWithWord_name _ isName, noNext, noName]
      · simp only [startsPath, isName, Bool.false_or, pathWords, List.any_eq_true, List.mem_cons,
          List.not_mem_nil, or_false, beq_iff_eq] at starts
        obtain ⟨word, rfl | rfl | rfl | rfl, rfl⟩ := starts
        case inr.inr.inr => simp +decide [seesItem, root rfl]
        all_goals rfl
  · rfl

/-- Where a plain expression other than a macro call stands in front, it is the statement. -/
theorem run_statement {value : Expr} (plain : PlainExpr value)
    (other : ∀ path delimiter inner, value ≠ .invocation path delimiter inner) {behind : Tokens}
    (ends : EndsExpr behind)
    (taken : g.alone (value.tokens ++ behind) left = .ok ((value, behind), left)) {semicolon : Bool}
    (sees : punct? ";" behind left = .ok ((semicolon, rest), left)) :
    statement g (value.tokens ++ behind) left =
      .ok ((.expression (attributeFirst [] value) semicolon, rest), left) := by
  have begins := plain.begins ends.endsChain.toLoose
  have noLet : Tokens.beginWithWord "let" (value.tokens ++ behind) = false :=
    begins.noWord (by decide) (by decide)
  have noName (delimiter : Delimiter) (inner more : Tokens) :
      Tokens.beginWithName (.group delimiter inner :: more) = false := rfl
  obtain ahead | ⟨path, delimiter, inner, more, noBrace, ahead⟩ :=
    plain.noCallAhead ends.endsChain left
  · simp [statement, begins.outerAttributes, ahead, seesWord, noLet, begins.noItem, taken, sees,
      -run_punct?]
  · cases delimiter with
    | brace => exact absurd rfl noBrace
    | _ =>
      simp [statement, begins.outerAttributes, ahead, seesWord, noLet, begins.noItem, noName,
        taken, sees, -run_punct?]

/-- A macro call is a kind of statement in front of a semicolon, and an expression at the end. -/
theorem run_invocation {names : List Ident} (plain : PlainNames names) {delimiter : Delimiter}
    (noBrace : delimiter ≠ .brace) {inner behind : Tokens} (ends : EndsExpr behind)
    (taken : g.alone ((Expr.invocation (namesPath names) delimiter inner).tokens ++ behind) left =
      .ok ((.invocation (namesPath names) delimiter inner, behind), left)) {semicolon : Bool}
    (sees : punct? ";" behind left = .ok ((semicolon, rest), left)) :
    statement g ((Expr.invocation (namesPath names) delimiter inner).tokens ++ behind) left =
      .ok ((if semicolon then .invocation [] (namesPath names) delimiter inner true
        else .expression (.invocation (namesPath names) delimiter inner) false, rest), left) := by
  have held := PlainExpr.invocation plain noBrace inner
  have begins := held.begins ends.endsChain.toLoose
  have ahead := held.noCallAhead ends.endsChain left
  generalize (Expr.invocation (namesPath names) delimiter inner).tokens ++ behind = tokens at *
  have noLet : tokens.beginWithWord "let" = false := begins.noWord (by decide) (by decide)
  have noName (delimiter : Delimiter) (inner more : Tokens) :
      Tokens.beginWithName (.group delimiter inner :: more) = false := rfl
  obtain ahead | ⟨path, found, inner, more, other, ahead⟩ := ahead
  · cases semicolon <;>
      simp [statement, begins.outerAttributes, ahead, seesWord, noLet, begins.noItem, taken, sees,
        withAttributes, noBrace, -run_punct?]
  · cases found with
    | brace => exact absurd rfl other
    | _ =>
      cases semicolon <;>
        simp [statement, begins.outerAttributes, ahead, seesWord, noLet, begins.noItem, noName,
          taken, sees, withAttributes, noBrace, -run_punct?]

/-- The statement is written as the expression, and ends like it. -/
structure StmtAgain (again : Stmt) (value : Expr) (semicolon : Bool) : Prop where
  written : again.tokens = (Stmt.expression value semicolon).tokens
  ends : semicolon = true → lacksSemicolon again = false

theorem run_exprStatement {value : Expr} (plain : PlainExpr value)
    (alone : Reads g.alone value.tokens EndsExpr (· = value)) (semicolon : Bool) (rest : Tokens)
    (ends : semicolon = false → rest = []) (left : Option Delimiter) :
    ∃ again, statement g ((Stmt.expression value semicolon).tokens ++ rest) left =
      .ok ((again, rest), left) ∧ StmtAgain again value semicolon := by
  obtain ⟨behind, row, ended, sees⟩ : ∃ behind,
      (Stmt.expression value semicolon).tokens ++ rest = value.tokens ++ behind ∧ EndsExpr behind ∧
        punct? ";" behind left = .ok ((semicolon, rest), left) := by
    cases semicolon with
    | true =>
      exact ⟨_, by rw [Stmt.tokens, List.append_assoc]; rfl, endsExpr_semicolon rest, rfl⟩
    | false =>
      obtain rfl := ends rfl
      exact ⟨[], by simp [Stmt.tokens], Ends.nothing.endsExpr, rfl⟩
  obtain ⟨found, taken, same⟩ := alone behind left ended
  obtain rfl : value = found := same.symm
  rw [row]
  cases plain with
  | invocation plain noBrace inner =>
    refine ⟨_, run_invocation plain noBrace ended taken sees, ?_, ?_⟩
    · cases semicolon <;> simp [Stmt.tokens, Expr.tokens, Attributes.outer, outerTokens]
    · rintro rfl
      rfl
  | _ =>
    refine ⟨_, run_statement (by constructor <;> assumption) (by simp) ended taken sees, rfl, ?_⟩
    rintro rfl
    rfl

/-- A name with a colon or an equals sign behind it is a pattern. -/
theorem pattern_bound (mutable : Bool) {name : Ident} (isName : name.isName = true) {sign : Char}
    (isSign : sign = ':' ∨ sign = '=') :
    patternRule g (keywordIf mutable "mut" ++ .ident name :: .punct sign false :: rest) left =
      .ok ((.ident false mutable name none, .punct sign false :: rest), left) := by
  have noLiteral (more : Tokens) :
      Tokens.beginWithLiteral (.ident (.plain "mut") :: more) = false := rfl
  rcases isSign with rfl | rfl <;> cases mutable <;>
    simp +decide [patternRule, noLiteral, seesPathPattern, binding, Tokens.beginWith_ident, isName,
      seesWord, Tokens.beginWithWord_name _ isName, Tokens.beginWithLiteral_name _ isName,
      Tokens.beginWithChars, keywordIf, Token.word]

/-- Statements of plain expressions, bound to a name or not, each but the last in front of a
semicolon. -/
inductive PlainStmts : List Stmt → Prop
  | nil : PlainStmts []
  | last {value : Expr} (plain : PlainExpr value) : PlainStmts [.expression value false]
  | ended {value : Expr} (plain : PlainExpr value) {others : List Stmt}
      (further : PlainStmts others) : PlainStmts (.expression value true :: others)
  | binding (mutable : Bool) {name : Ident} (isName : name.isName = true) {value : Expr}
      (plain : PlainExpr value) {others : List Stmt} (further : PlainStmts others) :
      PlainStmts (.binding [] (.ident false mutable name none) (some value) none :: others)

/-- How the statements of a block are read below the rules for them. -/
structure ReadsStmts (g : Grammar) (size : Nat) : Prop where
  expr : ReadsExprs g size
  alone : ∀ value, PlainExpr value → value.tokens.size ≤ size →
    Reads g.alone value.tokens EndsExpr (· = value)
  pattern : ∀ mutable (name : Ident) rest left, name.isName = true →
    g.pattern (keywordIf mutable "mut" ++ .ident name :: .punct '=' false :: rest) left =
      .ok ((.ident false mutable name none, .punct '=' false :: rest), left)

theorem readsStmts_level (depth : Nat) : ReadsStmts (level (depth + 1)) depth where
  expr value plain fits := reads_exprRule (readsExprs_level depth) plain (by omega)
  alone value plain fits := reads_aloneRule (readsExprs_level depth) plain (by omega)
  pattern mutable name rest left isName := pattern_bound mutable isName (.inr rfl)

/-- A statement is read as the first of the statements. -/
theorem run_stmts {first : Stmt} {tokens : Tokens} (some : tokens ≠ [])
    (noSign : tokens.beginWith ";" = false)
    (ran : statement g tokens left = .ok ((first, rest), left))
    (ends : lacksSemicolon first = true → rest = []) (fuel : Nat) :
    stmtsFor g (fuel + 1) tokens left =
      (do return first :: (← stmtsFor g fuel) : Parser (List Stmt)) rest left := by
  rw [stmtsFor, run_step (run_atEnd some left)]
  by_cases lacks : lacksSemicolon first = true
  · obtain rfl := ends lacks
    simp [noSign, ran, atEnd]
  · simp [noSign, ran, lacks, atEnd]

theorem BeginsExpr.noSign {tokens : Tokens} (begins : BeginsExpr tokens) {sign : String}
    (isSign : sign = ";" ∨ sign = "#") : tokens.beginWith sign = false := by
  obtain begins | ⟨more, rfl⟩ := begins
  · exact begins.noSign (by rintro rfl; simp at isSign)
  · rcases isSign with rfl | rfl <;> rfl

section

variable {size : Nat} (reads : ReadsStmts g size)

include reads

theorem run_letStatement (mutable : Bool) {name : Ident} (isName : name.isName = true)
    {value : Expr} (plain : PlainExpr value) (fits : value.tokens.size ≤ size) (rest : Tokens)
    (left : Option Delimiter) :
    statement g ((Stmt.binding [] (.ident false mutable name none) (some value) none).tokens ++
        rest) left =
      .ok ((.binding [] (.ident false mutable name none) (some value) none, rest), left) := by
  have row : (Stmt.binding [] (.ident false mutable name none) (some value) none).tokens ++ rest =
      .word "let" :: (keywordIf mutable "mut" ++ .ident name :: .punct '=' false ::
        (value.tokens ++ .punct ';' false :: rest)) := by
    simp [Stmt.tokens, Pattern.tokens, subTokens, keywordIf, Attributes.outer, outerTokens]
  obtain ⟨found, taken, same⟩ :=
    reads.expr value plain fits _ left (endsExpr_semicolon rest)
  obtain rfl : value = found := same.symm
  have bound := reads.pattern mutable name (value.tokens ++ .punct ';' false :: rest) left isName
  rw [row]
  generalize keywordIf mutable "mut" ++ .ident name :: .punct '=' false ::
    (value.tokens ++ .punct ';' false :: rest) = behind at bound ⊢
  obtain ⟨fault, noPath⟩ : ∃ fault, plainPath (.word "let" :: behind) left = .error fault :=
    plainPath_word (by decide)
  have noHash : Tokens.beginWith "#" (.ident (.plain "let") :: behind) = false :=
    Tokens.beginWith_ident _ (by decide) _
  rw [Token.word] at noPath ⊢
  simp [statement, outerAttributes, many, repeatFor, noHash, invocationAhead, noPath, seesWord,
    letStatement, bound, Tokens.beginWithChars, taken, wordWhere?]

/-- Plain statements are read again as statements that are written alike. -/
theorem reads_stmts {stmts : List Stmt} (plain : PlainStmts stmts)
    (fits : Tokens.size (stmtRows stmts) ≤ size) {fuel : Nat}
    (enough : (stmtRows stmts).length < fuel) :
    Reads (stmtsFor g fuel) (stmtRows stmts) AtEnd fun found =>
      stmtRows found = stmtRows stmts := by
  rintro _ left rfl
  rw [List.append_nil]
  induction plain generalizing fuel with
  | nil =>
    obtain ⟨fuel, rfl⟩ : ∃ fewer, fuel = fewer + 1 := ⟨fuel - 1, by omega⟩
    exact ⟨[], rfl, rfl⟩
  | @last value plain =>
    have some := List.length_pos_iff.mpr plain.tokens_ne_nil
    have row : stmtRows [.expression value false] =
        (Stmt.expression value false).tokens ++ [] := rfl
    have same : (Stmt.expression value false).tokens = value.tokens := by simp [Stmt.tokens]
    rw [row] at fits enough ⊢
    rw [List.append_nil, same] at fits enough
    obtain ⟨fuel, rfl⟩ : ∃ fewer, fuel = fewer + 2 := ⟨fuel - 2, by omega⟩
    obtain ⟨again, ran, alike⟩ := run_exprStatement plain (reads.alone value plain fits) false []
      (fun _ => rfl) left
    refine ⟨[again], ?_, by simp [stmtRows, alike.written]⟩
    rw [run_stmts ?_ ?_ ran fun _ => rfl]
    · rfl
    · simpa [same] using plain.tokens_ne_nil
    · rw [same]
      exact (plain.begins ⟨rfl, rfl⟩).noSign (.inl rfl)
  | @ended value plain others further ih =>
    have row : stmtRows (.expression value true :: others) =
        (Stmt.expression value true).tokens ++ stmtRows others := rfl
    have same : (Stmt.expression value true).tokens = value.tokens ++ [.punct ';' false] := by
      simp [Stmt.tokens]
    rw [row, Tokens.size_append, same, Tokens.size_append] at fits
    rw [row, List.length_append, same, List.length_append] at enough
    obtain ⟨fuel, rfl⟩ : ∃ fewer, fuel = fewer + 1 := ⟨fuel - 1, by omega⟩
    have fewer : (stmtRows others).length < fuel := by
      rw [List.length_singleton] at enough
      omega
    obtain ⟨found, loop, written⟩ := ih (by omega) fewer
    obtain ⟨again, ran, alike⟩ := run_exprStatement plain (reads.alone value plain (by omega)) true
      (stmtRows others) (by simp) left
    refine ⟨again :: found, ?_, by simp [stmtRows, alike.written, written]⟩
    rw [row, run_stmts ?_ ?_ ran fun lacks => ?_]
    · simp [loop]
    · simp [same]
    · rw [same, List.append_assoc]
      exact (plain.begins ⟨rfl, rfl⟩).noSign (.inl rfl)
    · simp [alike.ends rfl] at lacks
  | @binding mutable name isName value plain others further ih =>
    have row : stmtRows (.binding [] (.ident false mutable name none) (some value) none :: others) =
        (Stmt.binding [] (.ident false mutable name none) (some value) none).tokens ++
          stmtRows others := rfl
    have parts : (Stmt.binding [] (.ident false mutable name none) (some value) none).tokens =
        .word "let" :: ((Pattern.ident false mutable name none).tokens ++ .punct '=' false ::
          (value.tokens ++ [.punct ';' false])) := by
      simp [Stmt.tokens, Attributes.outer, outerTokens]
    have small : value.tokens.size ≤ size ∧ Tokens.size (stmtRows others) ≤ size := by
      rw [row, Tokens.size_append, parts] at fits
      simp [Token.word, Tokens.size_append] at fits
      omega
    obtain ⟨fuel, rfl⟩ : ∃ fewer, fuel = fewer + 1 := ⟨fuel - 1, by omega⟩
    have fewer : (stmtRows others).length < fuel := by
      rw [row, List.length_append, parts, List.length_cons] at enough
      omega
    obtain ⟨found, loop, written⟩ := ih small.2 fewer
    have ran := run_letStatement reads mutable isName plain small.1 (stmtRows others) left
    refine ⟨.binding [] (.ident false mutable name none) (some value) none :: found, ?_, ?_⟩
    · rw [row, run_stmts (by simp [parts]) ?_ ran (by simp [lacksSemicolon])]
      · simp [loop]
      · rw [parts]
        exact Tokens.beginWith_ident _ (by decide) _
    · simp [stmtRows, written]

end

/-- How a body is read again: in front of its end, as it is written. -/
theorem reads_body {depth : Nat} {stmts : List Stmt} (plain : PlainStmts stmts)
    (fits : Tokens.size (stmtRows stmts) ≤ depth) :
    Reads (fragment stmtRows (level (depth + 2)).stmts) (stmtRows stmts) AtEnd
      fun found => found.tokens = stmtRows stmts := by
  rintro _ left rfl
  obtain ⟨found, taken, written⟩ :=
    reads_stmts (readsStmts_level depth) plain fits (Nat.lt_succ_self _) [] left rfl
  rw [List.append_nil] at taken ⊢
  have ran : (level (depth + 2)).stmts (stmtRows stmts) left = .ok ((found, []), left) := by
    change stmtsRule (level (depth + 1)) _ left = _
    simpa [stmtsRule] using taken
  exact ⟨⟨stmtRows stmts, stmtRows found⟩, by simp [fragment, since, ran], written⟩

/-- No attribute of a body is among its statements. -/
theorem PlainStmts.endsSide {stmts : List Stmt} (plain : PlainStmts stmts) :
    EndsSide true (stmtRows stmts) := by
  have noHash : Tokens.beginWith "#" (stmtRows stmts) = false := by
    cases plain with
    | nil => rfl
    | last plain =>
      simp only [stmtRows, Stmt.tokens, List.append_assoc]
      exact (plain.begins ⟨rfl, rfl⟩).noSign (.inr rfl)
    | ended plain =>
      simp only [stmtRows, Stmt.tokens, List.append_assoc]
      exact (plain.begins ⟨rfl, rfl⟩).noSign (.inr rfl)
    | binding =>
      simp only [stmtRows, Stmt.tokens, Attributes.outer, outerTokens, List.append_assoc]
      exact Tokens.beginWith_ident _ (by decide) _
  rw [EndsSide, noHash, Bool.false_and]

end Grammar

end Endpoint.Source
