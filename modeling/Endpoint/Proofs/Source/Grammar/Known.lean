import Endpoint.Proofs.Source.Running

/-!
What the rules give of tokens whose beginning is known: names where paths, types, bounds and
parameters are asked for, visibilities, and the items that begin with them.
-/

namespace Endpoint.Source

open Source.Parser

/-- Names between angle brackets. -/
def Token.angled (names : List Ident) : Tokens :=
  .punct '<' false ::
    (commaSeparated (names.map fun name => [.ident name]) ++ [.punct '>' false])

theorem Token.length_le_commaSeparated (names : List Ident) :
    names.length ≤ (commaSeparated (names.map fun name => [.ident name])).length := by
  induction names with
  | nil => simp
  | cons name others ih =>
    cases others with
    | nil => simp [commaSeparated]
    | cons second others => simpa [commaSeparated] using Nat.le_succ_of_le ih

/-! ### Paths and types -/

/-- A colon mark in front. -/
abbrev Token.colons (rest : Tokens) : Tokens := .punct ':' true :: .punct ':' false :: rest

namespace Grammar

variable (g : Grammar) (fuel : Nat) {name : Ident} {more rest : Tokens} {left : Option Delimiter}

/-- A segment alone is a path. -/
theorem path_segment {found : Segment}
    (taken : segment g false (fuel + 1) (.ident name :: more) left = .ok ((found, rest), left))
    (apart : rest.Apart) :
    path g false (fuel + 2) (.ident name :: more) left = .ok ((⟨false, [found]⟩, rest), left) := by
  simp [path, furtherSegments, Tokens.beginWith_ident, taken, apart.segment]

/-- A path that stands at the root is a type where nothing that a type takes in follows it. -/
theorem typeRule_rooted (plus : Bool) {found : Path}
    (taken : path g false (8 * (more.length + 2) + 16) (Token.colons more) left =
      .ok ((found, rest), left)) (apart : rest.Apart) :
    typeRule g plus (Token.colons more) left = .ok ((.path found, rest), left) := by
  simp +decide [typeRule, binder?, seesGroup, seesPunct, pathTy, qualifiedPath, fullPath, steps,
    Tokens.beginWithChars, taken, apart.call, apart.bound]

section

variable (isName : name.isName = true)

include isName

/-- A name alone is a segment. -/
theorem segment_name (arguments : rest.beginWith "<" = false)
    (turbofish : (rest.beginWith "::" && Tokens.beginWith "<" (rest.drop 2)) = false) :
    segment g false (fuel + 1) (.ident name :: rest) left = .ok ((⟨name, .none⟩, rest), left) := by
  simp +decide [segment, seesWord, Tokens.beginWithWord_name _ isName, isName, arguments,
    turbofish]

/-- A segment behind a name at the root is a path. -/
theorem path_rooted {last : Ident} {found : Segment}
    (taken : segment g false (fuel + 1) (.ident last :: more) left = .ok ((found, rest), left))
    (apart : rest.Apart) :
    path g false (fuel + 3) (Token.colons (.ident name :: Token.colons (.ident last :: more)))
        left =
      .ok ((⟨true, [⟨name, .none⟩, found]⟩, rest), left) := by
  simp [path, furtherSegments, Tokens.beginWith_ident, Tokens.beginWithChars, segment_name, isName,
    taken, apart.segment]

/-- A path that begins with a name is a type where nothing that a type takes in follows it. -/
theorem typeRule_named (plus : Bool) {found : Path}
    (taken : path g false (8 * (more.length + 1) + 16) (.ident name :: more) left =
      .ok ((found, rest), left)) (apart : rest.Apart) :
    typeRule g plus (.ident name :: more) left = .ok ((.path found, rest), left) := by
  simp +decide [typeRule, binder?, seesGroup, seesPunct, pathTy, qualifiedPath, fullPath, steps,
    Tokens.beginWith_ident, Tokens.beginWithWord_name _ isName, isName, taken, apart.call,
    apart.bound]

end

/-! ### Names between angle brackets -/

/-- The type that a name stands for. -/
def nameTy (name : Ident) : Ty := .path (.ofIdent name)

/-- The arguments that names between angle brackets are. -/
def nameArguments (names : List Ident) : Arguments :=
  .angle false (names.map fun name => .type (nameTy name)) false

theorem typeRule_name (isName : name.isName = true) (apart : rest.Apart) (plus : Bool) :
    typeRule g plus (.ident name :: rest) left = .ok ((nameTy name, rest), left) := by
  refine typeRule_named g isName plus (path_segment g _ ?_ apart) apart
  exact segment_name g _ isName apart.arguments (by simp [apart.segment])

/-- A name alone is an argument. -/
theorem argument_name (isName : name.isName = true) (apart : rest.Apart) (depth : Nat) :
    argument (level (depth + 1)) (fuel + 1) (.ident name :: rest) left =
      .ok ((.type (nameTy name), rest), left) := by
  have type : (level (depth + 1)).ty true (.ident name :: rest) left = _ :=
    typeRule_name _ isName apart true
  simp +decide [argument, Tokens.beginWithLiteral_name _ isName, type, nameTy, Path.ofIdent,
    punctWhere?, apart.value, apart.colon]

section

variable {names : List Ident} (some : names ≠ []) (areNames : ∀ name ∈ names, name.isName = true)
  (depth : Nat)

include some areNames

/-- Names up to the closing bracket are the arguments that they stand for. -/
theorem separatedFor_names (rest : Tokens) (left : Option Delimiter) {steps : Nat}
    (enough : names.length ≤ steps) :
    separatedFor "," (seesPunct ">") (argument (level (depth + 1)) (fuel + 1)) steps
        (Token.commaSeparated (names.map fun name => [.ident name]) ++ .punct '>' false :: rest)
        left =
      .ok (((names.map fun name => .type (nameTy name), false), .punct '>' false :: rest),
        left) := by
  induction names generalizing steps with
  | nil => exact absurd rfl some
  | cons name others ih =>
    obtain ⟨isName, areNames⟩ := List.forall_mem_cons.mp areNames
    obtain ⟨steps, rfl⟩ : ∃ fewer, steps = fewer + 1 := ⟨steps - 1, by simp at enough; omega⟩
    cases others with
    | nil =>
      simp [separatedFor, seesPunct, Token.commaSeparated, Tokens.beginWith_ident,
        Tokens.beginWithChars, argument_name, isName, Tokens.apart_close]
    | cons second others =>
      have fewer : (second :: others).length ≤ steps := by simpa using enough
      have further := ih (by simp) areNames fewer
      simp only [seesPunct, List.map_cons] at further
      simp [separatedFor, seesPunct, Token.commaSeparated, Tokens.beginWith_ident,
        Tokens.beginWithChars, argument_name, isName, Tokens.apart_comma, further]

theorem angleArguments_names :
    angleArguments (level (depth + 1)) (fuel + 2) (Token.angled names ++ rest) left =
      .ok ((nameArguments names, rest), left) := by
  have enough : names.length ≤ (Token.commaSeparated (names.map fun name => [Token.ident name]) ++
      .punct '>' false :: rest).length + 1 :=
    Nat.le_trans (Token.length_le_commaSeparated names) (by simp; omega)
  have separated := separatedFor_names fuel some areNames depth rest left enough
  simp only [List.length_append, List.length_cons] at separated
  simp [Token.angled, angleArguments, commas, Tokens.beginWithChars, separated, nameArguments]

/-- A name with names between angle brackets is a segment. -/
theorem segment_angled (isName : name.isName = true) :
    segment (level (depth + 1)) false (fuel + 3) (.ident name :: (Token.angled names ++ rest))
        left =
      .ok ((⟨name, nameArguments names⟩, rest), left) := by
  have opens : (Token.angled names ++ rest).beginWith "<" = true := rfl
  have noMore : (Token.angled names ++ rest).beginWith "<=" = false := rfl
  simp +decide [segment, seesWord, Tokens.beginWithWord_name _ isName, isName, opens, noMore,
    angleArguments_names fuel some areNames depth]

theorem typeRule_angled (isName : name.isName = true) (apart : rest.Apart) (plus : Bool) :
    typeRule (level (depth + 1)) plus (.ident name :: (Token.angled names ++ rest)) left =
      .ok ((.path ⟨false, [⟨name, nameArguments names⟩]⟩, rest), left) :=
  typeRule_named _ isName plus
    (path_segment _ _ (segment_angled _ some areNames depth isName) apart) apart

end

/-! ### Parameters -/

/-- A path of two names that stands at the root. -/
def rootedPath (first second : Ident) : Path := ⟨true, [⟨first, .none⟩, ⟨second, .none⟩]⟩

/-- Where attributes could stand, an identifier says that there are none. -/
theorem outerAttributes_ident (name : Ident) :
    outerAttributes g (.ident name :: rest) left = .ok (([], .ident name :: rest), left) := by
  simp [outerAttributes, many, repeatFor, Tokens.beginWith_ident]

section

variable (isName : name.isName = true) {first last : Ident} (isFirst : first.isName = true)
  (isLast : last.isName = true) (apart : rest.Apart)

include isFirst isLast apart in
theorem typeRule_rootedPath (plus : Bool) :
    typeRule g plus (Token.colons (.ident first :: Token.colons (.ident last :: rest))) left =
      .ok ((.path (rootedPath first last), rest), left) := by
  refine typeRule_rooted g plus (path_rooted g _ isFirst ?_ apart) apart
  exact segment_name g _ isLast apart.arguments (by simp [apart.segment])

include isFirst isLast apart in
/-- A path of two names at the root is a bound. -/
theorem anyBound_rooted (noGroup : rest.beginWithGroup .paren = false) :
    anyBound g (Token.colons (.ident first :: Token.colons (.ident last :: rest))) left =
      .ok ((.trait false false none (rootedPath first last), rest), left) := by
  have segment (fuel : Nat) : segment g false (fuel + 1) (.ident last :: rest) left = _ :=
    segment_name g _ isLast apart.arguments (by simp [apart.segment])
  have taken (fuel : Nat) := path_rooted g (fuel + 1) isFirst (segment (fuel + 1)) apart
  simp [anyBound, steps, bound, traitBound, binder?, constness?, seesWord, seesGroup,
    withParenArguments, seesParenArguments, Tokens.beginWithChars, taken, noGroup, apart.segment,
    rootedPath]

include isName

/-- A parameter that is bound by a path of two names at the root. -/
theorem genericParameter_bound (isFirst : first.isName = true) (isLast : last.isName = true)
    (apart : rest.Apart) (noGroup : rest.beginWithGroup .paren = false) :
    genericParameter g (.ident name :: .punct ':' false ::
        Token.colons (.ident first :: Token.colons (.ident last :: rest))) left =
      .ok ((.type [] name [.trait false false none (rootedPath first last)] false none, rest),
        left) := by
  have bounded : anyBound g (Token.colons (.ident first :: Token.colons (.ident last :: rest)))
      left = _ := anyBound_rooted g isFirst isLast apart noGroup
  simp [genericParameter, outerAttributes_ident, isName, typeParameter, Tokens.beginWithChars,
    pluses, plusesFor, bounded, apart.bound, apart.value]

/-- A parameter without bounds. -/
theorem genericParameter_name (apart : rest.Apart) :
    genericParameter g (.ident name :: rest) left =
      .ok ((.type [] name [] false none, rest), left) := by
  simp [genericParameter, outerAttributes_ident, isName, typeParameter, apart.colon, apart.value]

/-- A parameter with the type that it has otherwise. -/
theorem genericParameter_default {ty : Ty} (taken : g.ty true more left = .ok ((ty, rest), left)) :
    genericParameter g (.ident name :: .punct '=' false :: more) left =
      .ok ((.type [] name [] false (some ty), rest), left) := by
  simp [genericParameter, outerAttributes_ident, isName, typeParameter, Tokens.beginWithChars,
    taken]

end

/-! ### Visibilities -/

theorem visibility_front (shown : Visibility) (word : Ident) (rest : Tokens) :
    ∃ first more, shown.tokens ++ .ident word :: rest = .ident first :: more := by
  cases shown <;> exact ⟨_, _, rfl⟩

/-- How a visibility is read in front of an identifier: not at all, or as some visibility with
nothing left of it, if what goes on from there does not begin with a group. -/
theorem visibility_tokens (shown : Visibility) (left : Option Delimiter) :
    (∀ {α : Type} (next : Visibility → Parser α),
      (∀ inner rest left, remains (next .all) (.group .paren inner :: rest) left = none) →
      ∀ name rest, remains (visibility >>= next) (shown.tokens ++ .ident name :: rest) left =
        none) ∨
    ∃ found after, ∀ {α : Type} (next : Visibility → Parser α),
      (∀ inner rest left, remains (next .all) (.group .paren inner :: rest) left = none) →
      ∀ name rest, name ≠ .plain "pub" →
        remains (visibility >>= next) (shown.tokens ++ .ident name :: rest) left =
          remains (next found) (.ident name :: rest) after := by
  cases shown with
  | inherited =>
    refine .inr ⟨.inherited, left, fun next fails name rest other => ?_⟩
    simp [remains, Visibility.tokens, visibility, Tokens.beginWithWord, Tokens.ident?, other]
  | all =>
    refine .inr ⟨.all, left, fun next fails name rest other => ?_⟩
    simp [remains, Visibility.tokens, visibility, Token.word]
  | restricted within path =>
    generalize written : keywordIf within "in" ++ path.tokens = inner
    have front (rest : Tokens) : Tokens.beginWithWord "pub" (.word "pub" :: rest) = true := by
      simp [Token.word]
    simp only [Visibility.tokens, written, visibility, Token.paren, List.cons_append,
      List.nil_append, remains, run_bind, run_word?, front, if_true, List.drop_succ_cons,
      List.drop_zero, run_get]
    -- A lone word is taken, `in` asks for a path, and all else is left where it stands.
    by_cases short : (["crate", "self", "super"].any fun word => inner.beginWithWord word) = true
    · simp only [short, if_true]
      split
      · rename_i only
        refine .inr ⟨.restricted false (.ofIdent only), left, fun next fails name rest other => ?_⟩
        simp
      · exact .inl fun next fails name rest => fails inner (.ident name :: rest) left
    · simp only [short, Bool.false_eq_true, if_false]
      by_cases within : inner.beginWithWord "in" = true
      · simp only [within, if_true, run_group]
        rcases (do word "in"; return Visibility.restricted true (← plainPath) :
          Parser Visibility) inner left with fault | ⟨⟨found, more⟩, after⟩
        · exact .inl fun next fails name rest => rfl
        · exact .inr ⟨found, _, fun next fails name rest other => rfl⟩
      · simp only [within]
        exact .inl fun next fails name rest => fails inner (.ident name :: rest) left

/-! ### Items -/

theorem seesSignature_word {word : String}
    (other : word ∉ ["const", "async", "unsafe", "extern", "fn"]) :
    seesSignature false (.ident (.plain word) :: rest) left =
      .ok ((false, .ident (.plain word) :: rest), left) := by
  simp only [List.mem_cons, List.not_mem_nil, or_false, not_or] at other
  simp [seesSignature, signatureWords, seesWord, linkage?, other]

theorem seesSignature_unsafe :
    seesSignature false (.ident (.plain "unsafe") :: .ident (.plain "impl") :: rest) left =
      .ok ((false, .ident (.plain "unsafe") :: .ident (.plain "impl") :: rest), left) := by
  simp [seesSignature, signatureWords, seesWord, linkage?]

theorem seesSignature_fn :
    seesSignature false (.ident (.plain "fn") :: rest) left =
      .ok ((true, .ident (.plain "fn") :: rest), left) := by
  simp [seesSignature, signatureWords, seesWord, linkage?]

theorem seesSignature_group (delimiter : Delimiter) (inner : Tokens) :
    seesSignature false (.group delimiter inner :: rest) left =
      .ok ((false, .group delimiter inner :: rest), left) := by
  simp [seesSignature, signatureWords, seesWord, linkage?]

/-- No item whose visibility has been read begins with a group. -/
theorem itemRest_group (start : Tokens) (attributes : Attributes) (inner : Tokens) :
    remains (itemRest g start attributes .all) (.group .paren inner :: rest) left = none := by
  simp [remains, itemRest, seesSignature_group, seesWord, seesInvocation]

theorem itemRest_struct (start : Tokens) (attributes : Attributes) (shown : Visibility) :
    itemRest g start attributes shown (.ident (.plain "struct") :: rest) left =
      (Item.struct <$> structRest g attributes shown) (.ident (.plain "struct") :: rest) left := by
  simp [itemRest, seesSignature_word, seesWord]

theorem itemRule_impl (isUnsafe : Bool) :
    itemRule g (keywordIf isUnsafe "unsafe" ++ .ident (.plain "impl") :: rest) left =
      implementation g (keywordIf isUnsafe "unsafe" ++ .ident (.plain "impl") :: rest) [] .inherited
        (keywordIf isUnsafe "unsafe" ++ .ident (.plain "impl") :: rest) left := by
  cases isUnsafe <;>
    simp [keywordIf, Token.word, itemRule, itemRest, outerAttributes_ident, visibility,
      seesSignature_word, seesSignature_unsafe, seesWord]

/-- What is left behind a function does not hang on its attributes. -/
theorem implementationItem_attributed {first second : Tokens} {held others : Attributes}
    {shown : Visibility} {more : Tokens}
    (read : outerAttributes g first left =
      .ok ((held, shown.tokens ++ .ident (.plain "fn") :: .ident name :: more), left))
    (taken : outerAttributes g second left =
      .ok ((others, shown.tokens ++ .ident (.plain "fn") :: .ident name :: more), left)) :
    remains (implementationItem g) first left = remains (implementationItem g) second left := by
  unfold implementationItem
  dsimp only
  rw [remains_step (run_get ..), remains_step (run_get ..), remains_step read, remains_step taken]
  rcases visibility_tokens shown left with failed | ⟨found, after, same⟩
  · rw [failed, failed] <;> intro inner rest left <;>
      simp [remains, seesSignature_group, seesInvocation]
  · rw [same, same]
    · simp only [remains, ↓run_bind, List.drop_one, run_sees, List.tail_cons, ne_eq,
        String.reduceEq, not_false_eq_true, Tokens.beginWith_ident, Bool.not_false, ↓run_ite,
        ↓reduceIte, run_word?, Tokens.beginWithWord_plain, String.reduceBEq, Bool.false_eq_true,
        seesSignature_fn, run_punct?, String.reduceToList, List.length_cons, List.length_nil,
        zero_add, since, run_get, run_pure, bodied]
      rcases g.signature false (.ident (.plain "fn") :: .ident name :: more) after with
        fault | ⟨⟨signature, rest⟩, behind⟩
      · rfl
      · cases ended : rest.beginWith ";" <;> cases ran : g.body rest behind <;> simp [ended, ran]
    all_goals first
      | decide
      | intro inner rest left
        simp [remains, seesSignature_group, seesInvocation]

/-- A word that no type begins with. -/
theorem typeRule_reserved {word : String} (reserved : Ident.isName (.plain word) = false)
    (other : word ∉ ["for", "fn", "unsafe", "extern", "super", "self", "Self", "crate", "dyn",
      "impl", "_"]) (plus : Bool) :
    remains (typeRule g plus) (.ident (.plain word) :: rest) left = none := by
  simp only [List.mem_cons, List.not_mem_nil, or_false, not_or] at other
  simp [remains, typeRule, binder?, seesGroup, Tokens.beginWith_ident, reserved, other, pathWords]

/-- No type begins with `for` and a name. -/
theorem typeRule_binder (plus : Bool) (name : Ident) :
    remains (typeRule g plus) (.ident (.plain "for") :: .ident name :: rest) left = none := by
  simp [remains, typeRule, binder?, Tokens.beginWith_ident]

/-- A type in front of `for` is read alike before all names, or before none. -/
theorem typeRule_for (name : Ident) :
    (name ≠ .plain "const" ∧ ∃ ty, ∀ rest left, 
      typeRule g true (.ident name :: .ident (.plain "for") :: rest) left =
        .ok ((ty, .ident (.plain "for") :: rest), left)) ∨
    ∀ other rest left,
      remains (typeRule g true)
        (.ident name :: .ident (.plain "for") :: .ident other :: rest) left = none := by
  cases isName : name.isName with
  | true =>
    refine .inl ⟨?_, nameTy name, fun rest left =>
      typeRule_name g isName (Tokens.apart_ident rest _) true⟩
    rintro rfl
    exact absurd isName (by decide)
  | false =>
    obtain ⟨word, rfl⟩ : ∃ word, name = .plain word := by
      obtain ⟨text, raw⟩ := name
      simp only [Ident.isName, Bool.or_eq_false_iff] at isName
      exact ⟨text, by rw [isName.1]; rfl⟩
    by_cases path : word ∈ ["super", "self", "Self", "crate"]
    · simp only [List.mem_cons, List.not_mem_nil, or_false] at path
      refine .inl ⟨by rcases path with rfl | rfl | rfl | rfl <;> decide, nameTy (.plain word),
        fun rest left => ?_⟩
      rcases path with rfl | rfl | rfl | rfl <;>
        simp +decide [typeRule, binder?, seesGroup, seesPunct, pathTy, qualifiedPath, fullPath,
          steps, Grammar.path, segment, furtherSegments, seesWord, Tokens.beginWith_ident, nameTy,
          Path.ofIdent]
    · by_cases infer : word = "_"
      · subst infer
        refine .inl ⟨by decide, .infer, fun rest left => ?_⟩
        simp +decide [typeRule, binder?, seesGroup, pathWords, Tokens.beginWith_ident]
      · refine .inr fun other rest left => ?_
        by_cases opens : word ∈ ["for", "fn", "unsafe", "extern", "dyn", "impl"]
        · simp only [List.mem_cons, List.not_mem_nil, or_false] at opens
          rcases opens with rfl | rfl | rfl | rfl | rfl | rfl <;>
            simp +decide [remains, typeRule, binder?, seesGroup, pathWords, functionTy, linkage?,
              group, objectBounds, typeBounds, bound, traitBound, steps, seesWord,
              Tokens.beginWith_ident]
        · refine typeRule_reserved g isName ?_ true
          simp_all

section

variable {tokens behind body : Tokens} {generics : Generics} {ty : Ty}
  (opens : beginsParameters tokens = true)

include opens

/-- An implementation of no trait, for a type that begins with a name, is read as its body is. -/
theorem itemRule_inherent (isName : name.isName = true)
    (bounds : genericParameters g tokens left = .ok ((generics, .ident name :: behind), left))
    (taken : g.ty true (.ident name :: behind) left =
      .ok ((ty, .group .brace body :: rest), left)) :
    remains (itemRule g) (.ident (.plain "impl") :: tokens) left =
      remains (associatedItems g (implementationItem g)) (.group .brace body :: rest) left := by
  have read : itemRule g (.ident (.plain "impl") :: tokens) left = _ := itemRule_impl g false
  rw [remains, read, remains]
  unfold implementation
  dsimp only
  cases ended : associatedItems g (implementationItem g) (.group .brace body :: rest) left <;>
    simp +decide [keywordIf, opens, bounds, Tokens.beginWithWord_name _ isName,
      Tokens.beginWith_ident, taken, whereClause?, ended]

variable {trait : Ident} (isUnsafe : Bool)
  (bounds : genericParameters g tokens left =
    .ok ((generics, .ident trait :: .ident (.plain "for") :: .ident name :: behind), left))

include bounds

/-- An implementation of a trait is read as its body is. -/
theorem itemRule_trait {first : Ty} (notConst : trait ≠ .plain "const")
    (read : g.ty true (.ident trait :: .ident (.plain "for") :: .ident name :: behind) left =
      .ok ((first, .ident (.plain "for") :: .ident name :: behind), left))
    (taken : g.ty true (.ident name :: behind) left =
      .ok ((ty, .group .brace body :: rest), left)) :
    remains (itemRule g) (keywordIf isUnsafe "unsafe" ++ .ident (.plain "impl") :: tokens) left =
      remains (associatedItems g (implementationItem g)) (.group .brace body :: rest) left := by
  have noConst (rest : Tokens) : Tokens.beginWithWord "const" (.ident trait :: rest) = false := by
    simpa [Tokens.beginWithWord, Tokens.ident?] using notConst
  rw [remains, itemRule_impl, remains]
  unfold implementation
  dsimp only
  cases isUnsafe <;>
    cases ended : associatedItems g (implementationItem g) (.group .brace body :: rest) left <;>
    cases first <;>
    simp +decide [keywordIf, Token.word, opens, bounds, noConst, Tokens.beginWith_ident, read,
      taken, whereClause?, since, ended]

/-- An implementation of what is no trait is not read. -/
theorem itemRule_no_trait
    (failed : remains (g.ty true)
      (.ident trait :: .ident (.plain "for") :: .ident name :: behind) left = none)
    (binder : remains (g.ty true) (.ident (.plain "for") :: .ident name :: behind) left = none) :
    remains (itemRule g) (keywordIf isUnsafe "unsafe" ++ .ident (.plain "impl") :: tokens) left =
      none := by
  obtain ⟨_, failed⟩ := remains_eq_none_iff.mp failed
  obtain ⟨_, binder⟩ := remains_eq_none_iff.mp binder
  rw [remains, itemRule_impl]
  unfold implementation
  dsimp only
  -- The word `const` in the place of the trait is taken for a mark of the implementation.
  cases constant : Tokens.beginWithWord "const"
      (.ident trait :: .ident (.plain "for") :: .ident name :: behind) <;>
    cases isUnsafe <;>
    simp [keywordIf, Token.word, opens, bounds, constant, Tokens.beginWith_ident, failed, binder]

end

end Grammar

end Endpoint.Source
