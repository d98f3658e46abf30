import Endpoint.Proofs.Source.Rereading.Signature

/-!
Traits and enums are read again, if their parts are. A part is the value of an attribute, or a
stretch of tokens between attributes.
-/

namespace Endpoint.Source.Grammar

open Source.Parser

variable {g : Grammar} {rest : Tokens} {left : Option Delimiter}

/-! ### Members of traits -/

/-- A function begins with one of its words. -/
theorem signature_begins {tokens behind : Tokens} {words : SignatureWords}
    {before after : Option Delimiter}
    (ranWords : signatureWords false tokens left = .ok ((words, behind), before))
    (ranWord : word "fn" behind before = .ok (((), rest), after)) :
    ∃ word ∈ ["const", "async", "unsafe", "extern", "fn"],
      ∃ more, tokens = .ident (.plain word) :: more := by
  by_contra none
  have not (word : String) (member : word ∈ ["const", "async", "unsafe", "extern", "fn"]) :
      tokens.beginWithWord word = false :=
    Bool.eq_false_iff.mpr fun begins => none ⟨word, member, beginWithWord_iff.mp begins⟩
  have ran : signatureWords false tokens left =
      .ok ((⟨false, false, Option.none, false, Option.none⟩, tokens), left) := by
    simp [signatureWords, seesWord, linkage?, not]
  rw [ran] at ranWords
  cases ranWords
  rw [run_word, not "fn" (by simp)] at ranWord
  cases ranWord

/-- A method as a trait may hold it: with nothing in front of its signature, and such inputs and
attributes as are read. -/
structure InTrait (declared : Method) : Prop where
  shown : declared.visibility = .inherited
  plain : declared.isDefault = false
  paths : ∀ held ∈ declared.attributes, AttributePath held.path
  inputs : HoldsInputs true declared.signature.inputs

/-- A member of a trait: a method, if it is one, as traits hold them. -/
def MemberInTrait (member : Associated) : Prop :=
  ∀ declared, member = .method declared → InTrait declared

theorem method_inTrait {attributes : Attributes}
    (paths : ∀ held ∈ attributes, AttributePath held.path) :
    Yields (method g attributes .inherited false) InTrait := by
  have inBody : Yields (body g) fun found => ∀ held ∈ found.1, AttributePath held.path :=
    Yields.group (Yields.bind_of innerAttributes_paths fun _ inner =>
      Yields.bind fun _ => Yields.pure inner)
  refine Yields.bind_of (signature_holds false) fun found holds => ?_
  refine Yields.bind fun _ => Yields.ite (fun _ => ?_) fun _ => Yields.bind fun _ => ?_
  · refine Yields.bind_of inBody fun found inner => Yields.pure ⟨rfl, rfl, ?_, holds⟩
    intro held member
    exact (List.mem_append.mp member).elim (paths held) (inner held)
  · refine Yields.ite (fun _ => Yields.pure ⟨rfl, rfl, paths, holds⟩) fun _ => ?_
    exact Yields.failExpecting _

theorem traitConstant_inTrait (start : Tokens) (attributes : Attributes) (shown : Visibility)
    (isDefault : Bool) :
    Yields (traitConstant g start attributes shown isDefault) MemberInTrait := by
  refine Yields.bind fun _ => Yields.bind fun _ => Yields.ite (fun _ => ?_) fun _ => ?_
  · refine Yields.bind fun found => ?_
    cases found with
    | some held => exact Yields.pure fun _ method => by cases method
    | none => exact Yields.bind fun _ => Yields.pure fun _ method => by cases method
  · exact Yields.failExpecting _

/-- What a trait holds as a method has nothing in front of its signature: what has is kept as it
stands. -/
theorem traitItem_inTrait : Yields (traitItem g) MemberInTrait := by
  refine Yields.bind fun start => Yields.bind_of outerAttributes_paths fun attributes paths => ?_
  refine Yields.bind fun shown => ?_
  refine Yields.bind fun isDefault => ?_
  extract_lets bare after
  have behind {item : Associated} (fits : bare = true → MemberInTrait item) :
      Yields (after item) MemberInTrait := by
    refine Yields.ite (fun alone => Yields.pure (fits alone)) fun _ => ?_
    exact Yields.bind fun _ => Yields.pure fun _ method => by cases method
  have asMethod : Yields (method g attributes shown isDefault) fun declared =>
      bare = true → InTrait declared := by
    cases shown with
    | inherited =>
      cases isDefault with
      | false =>
        exact fun tokens left declared rest last ran _ => method_inTrait paths _ _ _ _ _ ran
      | true => exact fun _ _ _ _ _ _ alone => by simp [bare] at alone
    | _ => exact fun _ _ _ _ _ _ alone => by simp [bare] at alone
  iterate 4 refine Yields.bind fun _ => ?_
  refine Yields.ite (fun _ => ?_) fun _ => Yields.ite (fun _ => ?_) fun _ =>
    Yields.ite (fun _ => ?_) fun _ => Yields.ite (fun _ => ?_) fun _ => ?_
  · refine Yields.bind_of asMethod fun declared fits => Yields.bind_of (Yields.pure rfl) ?_
    rintro _ rfl
    refine behind fun alone other same => ?_
    cases same
    exact fits alone
  · exact Yields.bind_of (traitConstant_inTrait _ _ _ _) fun item fits => behind fun _ => fits
  · refine Yields.bind fun _ => Yields.bind_of (Yields.pure rfl) ?_
    rintro _ rfl
    exact behind fun _ _ same => by cases same
  · refine Yields.bind fun _ => Yields.bind_of (Yields.pure rfl) ?_
    rintro _ rfl
    exact behind fun _ _ same => by cases same
  · exact Yields.bind_of (Yields.failExpecting _) fun _ => False.elim

/-- The parts of a method are read again: the values of its attributes, its signature and its
statements. -/
structure ReadsMethod (g : Grammar) (declared : Method) : Prop where
  values : ∀ held ∈ declared.attributes, ReadsValue g held
  signature : ReadsSignature g declared.signature
  begins : ∀ body, declared.body = some body → EndsSide true body.tokens
  statements : ∀ body, declared.body = some body →
    Reads (fragment stmtRows g.stmts) body.tokens AtEnd fun found => found.tokens = body.tokens

/-- The method is written like the other, with attributes of the same paths, and so are its
inputs. -/
structure MethodAgain (again declared : Method) : Prop where
  among : AreAmong again.attributes declared.attributes
  inputs : List.Forall₂ InputAgain again.signature.inputs declared.signature.inputs
  written : again.tokens = declared.tokens

/-- What stands behind the signature of a method: its body, or the semicolon in its place. -/
def bodyRow (attributes : Attributes) : Option Fragment → Tokens
  | some body => [.brace (attributes.inner ++ body.tokens)]
  | none => itemEnd

/-- What stands behind the attributes of a method. -/
def methodRow (declared : Method) : Tokens :=
  declared.signature.tokens ++ bodyRow declared.attributes declared.body

/-- A method is read behind its attributes. -/
theorem reads_methodRow {declared : Method} (reads : ReadsMethod g declared)
    (holds : InTrait declared) {outer : Attributes}
    (areOuter : ∀ held ∈ outer, held.inner = false) :
    Reads (method g outer .inherited false) (methodRow declared) Anything fun again =>
      ∃ inner, again.attributes = outer ++ inner ∧ AreAmong inner declared.attributes ∧
        List.Forall₂ InputAgain again.signature.inputs declared.signature.inputs ∧
        again.tokens = outer.outer ++ methodRow declared := by
  obtain ⟨attributes, visibility, isDefault, signature, body⟩ := declared
  obtain ⟨-, -, paths, holdsInputs⟩ := holds
  intro rest left _
  cases body with
  | none =>
    obtain ⟨found, ran, written, inputs⟩ :=
      reads_signature reads.signature holdsInputs (itemEnd ++ rest) left (.nothing rest)
    refine ⟨⟨outer, .inherited, false, found.1, none⟩, ?_, [], by simp, by simp [AreAmong], inputs,
      ?_⟩
    · rw [methodRow, List.append_assoc]
      exact bind_ok_iff.mpr ⟨_, _, _, ran, rfl⟩
    · simp [Method.tokens, Visibility.tokens, keywordIf, methodRow, bodyRow, written]
  | some body =>
    obtain ⟨found, ran, written, inputs⟩ := reads_signature reads.signature holdsInputs
      (.brace (attributes.inner ++ body.tokens) :: rest) left (.body _ rest)
    obtain ⟨inner, ranInner, among, areInner, sameInner⟩ :=
      reads_begin (fun held member => ⟨paths held member, reads.values held member⟩)
        (reads.begins body rfl) left
    obtain ⟨statements, ranBody, sameBody⟩ := reads.statements body rfl [] left rfl
    have ranBraces : g.body (.brace (attributes.inner ++ body.tokens) :: rest) left =
        .ok (((inner, statements), rest), left) := by
      rw [List.append_nil] at ranBody
      rw [Grammar.body, Token.brace, run_group, run_step ranInner, run_step ranBody]
      rfl
    refine ⟨⟨outer ++ inner, .inherited, false, found.1, some statements⟩, ?_, inner, rfl, among,
      inputs, ?_⟩
    · rw [methodRow, List.append_assoc]
      refine bind_ok_iff.mpr ⟨_, _, _, ran, ?_⟩
      refine bind_ok_iff.mpr ⟨true, _, _, rfl, ?_⟩
      exact bind_ok_iff.mpr ⟨_, _, _, ranBraces, rfl⟩
    · obtain ⟨sameOuter, onlyInner⟩ := attributes_append areOuter areInner
      simp [Method.tokens, Visibility.tokens, keywordIf, methodRow, bodyRow, written, sameOuter,
        onlyInner, sameInner, sameBody]

/-- A signature begins with a word, and is seen before it is read. -/
theorem signature_front {held : Signature} (reads : ReadsSignature g held) (rest : Tokens)
    (left : Option Delimiter) :
    (∃ word ∈ ["const", "async", "unsafe", "extern", "fn"],
      ∃ more, held.tokens ++ rest = .ident (.plain word) :: more) ∧
    seesSignature false (held.tokens ++ rest) left = .ok ((true, held.tokens ++ rest), left) := by
  rw [signature_tokens, List.append_assoc, List.cons_append]
  obtain ⟨found, ran, -⟩ := reads.front (.paren (inputsRow held.inputs held.comma held.variadic) ::
    (backRow held.output held.generics.clause ++ rest)) left ⟨_, _, rfl⟩
  obtain ⟨words, _, _, ranWords, ran⟩ := bind_ok_iff.mp ran
  obtain ⟨_, _, _, ranWord, ran⟩ := bind_ok_iff.mp ran
  refine ⟨signature_begins ranWords ranWord, ?_⟩
  refine bind_ok_iff.mpr ⟨some (), _, _, ?_, rfl⟩
  rw [run_ahead, run_step ranWords, ranWord]

theorem method_tokens {declared : Method} (holds : InTrait declared) :
    declared.tokens = declared.attributes.outer ++ methodRow declared := by
  cases body : declared.body <;>
    simp [Method.tokens, holds.shown, holds.plain, Visibility.tokens, keywordIf, methodRow, bodyRow,
      body]

theorem reads_method {declared : Method} (reads : ReadsMethod g declared)
    (holds : InTrait declared) :
    Reads (traitItem g) declared.tokens Anything fun found =>
      ∃ again, found = .method again ∧ MethodAgain again declared := by
  intro rest left _
  obtain ⟨⟨word, isWord, more, begins⟩, seen⟩ := signature_front reads.signature
    (bodyRow declared.attributes declared.body ++ rest) left
  rw [← List.append_assoc] at begins seen
  change methodRow declared ++ rest = .ident (.plain word) :: more at begins
  change seesSignature false (methodRow declared ++ rest) left =
    .ok ((true, methodRow declared ++ rest), left) at seen
  have isOther : word ≠ "pub" ∧ word ≠ "default" ∧ word ≠ "type" := by
    refine ⟨?_, ?_, ?_⟩ <;> rintro rfl <;> simp at isWord
  have noMark : (methodRow declared ++ rest).beginWith "#" = false := by
    rw [begins]
    exact Tokens.beginWith_ident _ (by decide) _
  have noVisibility : visibility (methodRow declared ++ rest) left =
      .ok ((.inherited, methodRow declared ++ rest), left) := by
    simp [begins, visibility, isOther]
  have noDefault : word? "default" (methodRow declared ++ rest) left =
      .ok ((false, methodRow declared ++ rest), left) := by
    simp [begins, isOther]
  have noType : word? "type" (methodRow declared ++ rest) left =
      .ok ((false, methodRow declared ++ rest), left) := by
    simp [begins, isOther]
  obtain ⟨outer, front, among, areOuter, sameOuter⟩ :=
    reads_front (fun held member => ⟨holds.paths held member, reads.values held member⟩) noMark left
  obtain ⟨again, ran, inner, held, innerAmong, inputs, written⟩ :=
    reads_methodRow reads holds areOuter rest left trivial
  refine ⟨.method again, ?_, again, rfl, ?_, inputs, ?_⟩
  · rw [method_tokens holds, List.append_assoc, traitItem, run_step (run_get _ _),
      run_step front, run_step noVisibility, run_step noDefault]
    refine bind_ok_iff.mpr ⟨_, _, _, seen, ?_⟩
    refine bind_ok_iff.mpr ⟨_, _, _, run_sees _ _ _, ?_⟩
    refine bind_ok_iff.mpr ⟨_, _, _, noType, ?_⟩
    refine bind_ok_iff.mpr ⟨_, _, _, run_sees _ _ _, ?_⟩
    exact bind_ok_iff.mpr ⟨_, _, _, ran, rfl⟩
  · rw [held]
    exact among.append innerAmong
  · rw [written, sameOuter, method_tokens holds]

/-- The parts of a member are read again. One that is no method is one part. -/
inductive ReadsMember (g : Grammar) : Associated → Prop
  | method {declared : Method} (reads : ReadsMethod g declared) : ReadsMember g (.method declared)
  | other {member : Associated} (noMethod : ∀ declared, member ≠ .method declared)
      (reads : Reads (traitItem g) member.tokens Anything fun found =>
        found.tokens = member.tokens ∧ ∀ declared, found ≠ .method declared) :
      ReadsMember g member

/-- The member is of the same kind and written like the other. -/
inductive MemberAgain : Associated → Associated → Prop
  | method {again declared : Method} (same : MethodAgain again declared) :
      MemberAgain (.method again) (.method declared)
  | other {again member : Associated} (noMethod : ∀ declared, again ≠ .method declared)
      (written : again.tokens = member.tokens) : MemberAgain again member

theorem MemberAgain.written {again member : Associated} (same : MemberAgain again member) :
    again.tokens = member.tokens := by
  cases same with
  | method same => exact same.written
  | other _ written => exact written

theorem reads_member {member : Associated} (reads : ReadsMember g member)
    (holds : MemberInTrait member) :
    Reads (traitItem g) member.tokens Anything fun again => MemberAgain again member := by
  intro rest left fits
  cases reads with
  | method reads =>
    obtain ⟨_, ran, again, rfl, same⟩ := reads_method reads (holds _ rfl) rest left fits
    exact ⟨.method again, ran, .method same⟩
  | other noMethod reads =>
    obtain ⟨again, ran, written, noMethod⟩ := reads rest left fits
    exact ⟨again, ran, .other noMethod written⟩

/-! ### Traits -/

/-- An item of a trait begins with no inner attribute, and with something. -/
theorem traitItem_begins {tokens : Tokens} {found : Associated} {after : Option Delimiter}
    (ran : traitItem g tokens left = .ok ((found, rest), after)) :
    tokens ≠ [] ∧ (tokens.beginWith "#" && Tokens.beginWith "!" (tokens.drop 1)) = false := by
  constructor
  · rintro rfl
    have failed : remains (traitItem g) [] left = none := by
      have noMark : Tokens.beginWith "#" [] = false := rfl
      have noColons : Tokens.beginWith "::" [] = false := rfl
      have noName : Tokens.beginWithName [] = false := rfl
      have noWord (word : String) : Tokens.beginWithWord word [] = false := rfl
      simp [remains, traitItem, outerAttributes, many, repeatFor, visibility, seesSignature,
        signatureWords, linkage?, seesWord, seesInvocation, noMark, noColons, noName, noWord]
    rw [remains_of_ok ran] at failed
    cases failed
  · refine Bool.eq_false_iff.mpr fun begins => ?_
    obtain ⟨mark, exclamation⟩ := Bool.and_eq_true_iff.mp begins
    obtain ⟨joint, behind, rfl⟩ := (beginWith_char_iff '#' rfl).mp mark
    obtain ⟨_, more, same⟩ := (beginWith_char_iff '!' rfl).mp exclamation
    obtain rfl : behind = _ := same
    obtain ⟨_, _, _, got, begun⟩ := bind_ok_iff.mp ran
    cases got
    obtain ⟨attributes, _, _, front, -⟩ := bind_ok_iff.mp begun
    simp only [outerAttributes, many, run_bind, run_get, repeatFor, run_punct?, mark] at front
    cases front

/-- The bounds and conditions of a trait. -/
def traitConditions (g : Grammar) : Parser ((List Bound × Bool) × Option WhereClause) := do
  let ends := sees fun tokens => tokens.beginWithWord "where" || tokens.beginWithGroup .brace
  let bounds ←
    if ← punct? ":" then
      separatedFor "+" ends (anyBound g) ((← get).length + 1)
    else pure ([], false)
  return (bounds, ← whereClause? g)

/-- A trait in front of its braces, behind its attributes. -/
def traitFront (g : Grammar) : Parser Trait := do
  let visibility ← visibility
  let isUnsafe ← word? "unsafe"
  let isAuto ← word? "auto"
  word "trait"
  let name ← ident
  let generics ← genericParameters g
  let found ← traitConditions g
  return ⟨[], visibility, isUnsafe, isAuto, name, { generics with clause := found.2 }, found.1.1,
    found.1.2 && !found.1.1.isEmpty, []⟩

/-- Behind its name and parameters a trait has its conditions and its members. -/
theorem run_traitRest {tokens behind : Tokens} {before after : Option Delimiter}
    {found : (List Bound × Bool) × Option WhereClause} {inner : Attributes}
    {items : List Associated} (attributes : Attributes) (shown : Visibility)
    (isUnsafe isAuto : Bool) (name : Ident) (generics : Generics)
    (conditions : traitConditions g tokens left = .ok ((found, behind), before))
    (members : associatedItems g (traitItem g) behind before =
      .ok (((inner, items), rest), after)) :
    traitRest g attributes shown isUnsafe isAuto name generics tokens left =
      .ok ((⟨attributes ++ inner, shown, isUnsafe, isAuto, name,
        { generics with clause := found.2 }, found.1.1, found.1.2 && !found.1.1.isEmpty, items⟩,
        rest), after) := by
  obtain ⟨colon, _, _, ranColon, ran⟩ := bind_ok_iff.mp conditions
  refine bind_ok_iff.mpr ⟨colon, _, _, ranColon, ?_⟩
  cases colon with
  | false =>
    obtain ⟨bounds, _, _, got, atClause⟩ := bind_ok_iff.mp ran
    cases got
    obtain ⟨clause, _, _, ranClause, ended⟩ := bind_ok_iff.mp atClause
    cases ended
    refine bind_ok_iff.mpr ⟨_, _, _, rfl, ?_⟩
    refine bind_ok_iff.mpr ⟨_, _, _, ranClause, ?_⟩
    exact bind_ok_iff.mpr ⟨_, _, _, members, rfl⟩
  | true =>
    obtain ⟨_, _, _, got, atBounds⟩ := bind_ok_iff.mp ran
    cases got
    obtain ⟨bounds, _, _, ranBounds, atClause⟩ := bind_ok_iff.mp atBounds
    obtain ⟨clause, _, _, ranClause, ended⟩ := bind_ok_iff.mp atClause
    cases ended
    refine bind_ok_iff.mpr ⟨_, _, _, run_get _ _, ?_⟩
    refine bind_ok_iff.mpr ⟨_, _, _, ranBounds, ?_⟩
    refine bind_ok_iff.mpr ⟨_, _, _, ranClause, ?_⟩
    exact bind_ok_iff.mpr ⟨_, _, _, members, rfl⟩

def traitRow (item : Trait) : Tokens :=
  item.visibility.tokens ++ keywordIf item.isUnsafe "unsafe" ++ keywordIf item.isAuto "auto" ++
    [.word "trait", .ident item.name] ++ item.generics.tokens ++
    boundsTokens item.plus (item.bounds.map Bound.tokens) ++ item.generics.clauseTokens

theorem trait_tokens (item : Trait) :
    item.tokens = item.attributes.outer ++ (traitRow item ++
      [.brace (item.attributes.inner ++ (item.items.map Associated.tokens).flatten)]) := by
  simp [Trait.tokens, traitRow]

/-- Braces stand behind. -/
def OpensBrace (rest : Tokens) : Prop := ∃ inner more, rest = .brace inner :: more

/-- The members of a trait are such as traits hold, and its attributes have the paths of
attributes. -/
structure HoldsTrait (item : Trait) : Prop where
  paths : ∀ held ∈ item.attributes, AttributePath held.path
  members : ∀ member ∈ item.items, MemberInTrait member

theorem trait_holds : Yields (Trait.rule g) HoldsTrait := by
  have members : Yields (associatedItems g (traitItem g)) fun found =>
      (∀ held ∈ found.1, AttributePath held.path) ∧ ∀ member ∈ found.2, MemberInTrait member := by
    refine Yields.group (Yields.bind_of innerAttributes_paths fun inner paths => ?_)
    refine Yields.bind_of (many_yields ?_) fun items fits => Yields.pure ⟨paths, fits⟩
    refine Yields.bind fun _ => Yields.ite (fun _ => Yields.pure (by simp)) fun _ => ?_
    refine Yields.bind_of traitItem_inTrait fun item fits => Yields.pure ?_
    rintro _ ⟨⟩
    exact fits
  have rest {attributes : Attributes} (paths : ∀ held ∈ attributes, AttributePath held.path)
      (shown : Visibility) (isUnsafe isAuto : Bool) (name : Ident) (generics : Generics) :
      Yields (traitRest g attributes shown isUnsafe isAuto name generics) HoldsTrait := by
    refine Yields.bind fun colon => Yields.ite (fun _ => Yields.bind fun _ => ?_) fun _ => ?_
    all_goals
      refine Yields.bind fun bounds => Yields.bind fun clause =>
        Yields.bind_of members fun found fits => Yields.pure ⟨?_, fits.2⟩
      exact fun held member => (List.mem_append.mp member).elim (paths held) (fits.1 held)
  refine Yields.bind_of outerAttributes_paths fun attributes paths => ?_
  iterate 6 refine Yields.bind fun _ => ?_
  exact rest paths _ _ _ _ _

/-- The parts of a trait are read again: the values of its attributes, what stands in front of its
braces, and each member. -/
structure ReadsTrait (g : Grammar) (item : Trait) : Prop where
  values : ∀ held ∈ item.attributes, ReadsValue g held
  front : Reads (traitFront g) (traitRow item) OpensBrace
    fun found => traitRow found = traitRow item
  members : ∀ member ∈ item.items, ReadsMember g member

/-- The members between the braces of a trait are read again. -/
theorem reads_members {item : Trait} (attributes : ∀ held ∈ item.attributes, ReadsAttribute g held)
    (members : ∀ member ∈ item.items, ReadsMember g member)
    (holds : ∀ member ∈ item.items, MemberInTrait member) (rest : Tokens)
    (left : Option Delimiter) :
    ∃ inner items, associatedItems g (traitItem g)
        (.brace (item.attributes.inner ++ (item.items.map Associated.tokens).flatten) :: rest)
          left =
          .ok (((inner, items), rest), left) ∧
      (∀ held ∈ inner, held.inner = true) ∧ inner.inner = item.attributes.inner ∧
      List.Forall₂ MemberAgain items item.items := by
  have some : ∀ member ∈ item.items, member.tokens ≠ [] := by
    intro member inside
    obtain ⟨again, ran, -⟩ :=
      reads_member (members member inside) (holds member inside) [] left trivial
    rw [List.append_nil] at ran
    exact (traitItem_begins ran).1
  have noMark : (Tokens.beginWith "#" (item.items.map Associated.tokens).flatten &&
      Tokens.beginWith "!" ((item.items.map Associated.tokens).flatten.drop 1)) = false := by
    cases held : item.items with
    | nil => rfl
    | cons member others =>
      have inside : member ∈ item.items := held ▸ .head _
      obtain ⟨again, ran, -⟩ := reads_member (members member inside) (holds member inside)
        (others.map Associated.tokens).flatten left trivial
      exact (traitItem_begins ran).2
  obtain ⟨inner, ranInner, -, areInner, sameInner⟩ := reads_begin attributes noMark left
  have each : Reads (many do
      if ← atEnd then return none
      return .some (← traitItem g)) (item.items.map Associated.tokens).flatten AtEnd
        fun items => List.Forall₂ MemberAgain items item.items := by
    refine reads_many some (fun member inside rest left _ => ?_) fun rest left ends => ?_
    · obtain ⟨again, ran, same⟩ :=
        reads_member (members member inside) (holds member inside) rest left trivial
      refine ⟨.some again, ?_, again, rfl, same⟩
      have nonempty := List.append_ne_nil_of_left_ne_nil (some member inside) rest
      refine bind_ok_iff.mpr ⟨_, _, _, run_atEnd nonempty left, ?_⟩
      exact bind_ok_iff.mpr ⟨_, _, _, ran, rfl⟩
    · obtain rfl : rest = [] := ends
      rfl
  obtain ⟨items, ranItems, same⟩ := each [] left rfl
  rw [List.append_nil] at ranItems
  refine ⟨inner, items, ?_, areInner, sameInner, same⟩
  rw [associatedItems, Token.brace, run_group, run_step ranInner, run_step ranItems]
  rfl

/-- What stands in front of the braces of a trait does not begin with an attribute. -/
theorem traitFront_begins {tokens : Tokens} {found : Trait} {after : Option Delimiter}
    (ran : traitFront g tokens left = .ok ((found, rest), after)) :
    tokens.beginWith "#" = false := by
  refine Bool.eq_false_iff.mpr fun mark => ?_
  obtain ⟨joint, behind, rfl⟩ := (beginWith_char_iff '#' rfl).mp mark
  simp [traitFront, visibility] at ran

/-- A trait whose parts are read again is read again. -/
theorem reads_trait {item : Trait} (reads : ReadsTrait g item) (holds : HoldsTrait item) :
    Reads (Trait.rule g) item.tokens AtEnd fun again =>
      again.tokens = item.tokens ∧ List.Forall₂ MemberAgain again.items item.items := by
  intro rest left ends
  obtain rfl : rest = [] := ends
  obtain ⟨found, ran, sameFront⟩ := reads.front
    [.brace (item.attributes.inner ++ (item.items.map Associated.tokens).flatten)] left ⟨_, _, rfl⟩
  have noMark := traitFront_begins ran
  have readsAttributes : ∀ held ∈ item.attributes, ReadsAttribute g held :=
    fun held member => ⟨holds.paths held member, reads.values held member⟩
  obtain ⟨outer, front, -, areOuter, sameOuter⟩ := reads_front readsAttributes noMark left
  obtain ⟨inner, items, ranItems, areInner, sameInner, same⟩ :=
    reads_members readsAttributes reads.members holds.members [] left
  obtain ⟨shown, _, _, ranShown, ran⟩ := bind_ok_iff.mp ran
  obtain ⟨isUnsafe, _, _, ranUnsafe, ran⟩ := bind_ok_iff.mp ran
  obtain ⟨isAuto, _, _, ranAuto, ran⟩ := bind_ok_iff.mp ran
  obtain ⟨_, _, _, ranWord, ran⟩ := bind_ok_iff.mp ran
  obtain ⟨name, _, _, ranName, ran⟩ := bind_ok_iff.mp ran
  obtain ⟨generics, _, _, ranGenerics, ran⟩ := bind_ok_iff.mp ran
  obtain ⟨conditions, _, _, ranConditions, ended⟩ := bind_ok_iff.mp ran
  cases ended
  refine ⟨⟨outer ++ inner, shown, isUnsafe, isAuto, name,
    { generics with clause := conditions.2 }, conditions.1.1,
    conditions.1.2 && !conditions.1.1.isEmpty, items⟩, ?_, ?_, same⟩
  · rw [trait_tokens, List.append_nil]
    refine bind_ok_iff.mpr ⟨_, _, _, front, ?_⟩
    refine bind_ok_iff.mpr ⟨_, _, _, ranShown, ?_⟩
    refine bind_ok_iff.mpr ⟨_, _, _, ranUnsafe, ?_⟩
    refine bind_ok_iff.mpr ⟨_, _, _, ranAuto, ?_⟩
    refine bind_ok_iff.mpr ⟨_, _, _, ranWord, ?_⟩
    refine bind_ok_iff.mpr ⟨_, _, _, ranName, ?_⟩
    refine bind_ok_iff.mpr ⟨_, _, _, ranGenerics, ?_⟩
    exact run_traitRest _ _ _ _ _ _ ranConditions ranItems
  · obtain ⟨onlyOuter, onlyInner⟩ := attributes_append areOuter areInner
    have rows : items.map Associated.tokens = item.items.map Associated.tokens :=
      rows_eq_of_related (fun _ _ like => like.written) same
    rw [trait_tokens, trait_tokens item, onlyOuter, onlyInner, sameOuter, sameInner, rows,
      ← sameFront]
    rfl

/-! ### Enums -/

/-- A variant behind its attributes. -/
def variantRest (g : Grammar) (attributes : Attributes) : Parser Variant := do
  let _ ← visibility
  let name ← ident
  let fields ←
    if ← seesGroup .brace then namedFields g
    else if ← seesGroup .paren then positionalFields g
    else pure .unit
  let discriminant ← if ← punct? "=" then some <$> g.constant else pure none
  return ⟨attributes, name, fields, discriminant⟩

theorem variantRest_under (attributes : Attributes) :
    variantRest g attributes = (fun found => { found with attributes }) <$> variantRest g [] := by
  simp [variantRest, map_bind, apply_ite fun parser : Parser Variant =>
    (fun found : Variant => { found with attributes }) <$> parser]

/-- A variant without its attributes. -/
def bareVariant (variant : Variant) : Variant := { variant with attributes := [] }

theorem variant_tokens (variant : Variant) :
    variant.tokens = variant.attributes.outer ++ (bareVariant variant).tokens := by
  simp [Variant.tokens, bareVariant, Attributes.outer, outerTokens]

/-- The parts of a variant are read again: the values of its attributes, and what stands behind
them. -/
structure ReadsVariant (g : Grammar) (variant : Variant) : Prop where
  values : ∀ held ∈ variant.attributes, ReadsValue g held
  bare : Reads (variantRest g []) (bareVariant variant).tokens Ends fun found =>
    (bareVariant found).tokens = (bareVariant variant).tokens

/-- The variant is written like the other, with attributes of the same paths. -/
structure VariantAgain (again variant : Variant) : Prop where
  among : AreAmong again.attributes variant.attributes
  written : again.tokens = variant.tokens

theorem reads_variant {held : Variant} (reads : ReadsVariant g held)
    (paths : ∀ mark ∈ held.attributes, AttributePath mark.path) :
    Reads (variant g) held.tokens Ends fun again => VariantAgain again held := by
  intro rest left ends
  obtain ⟨found, ran, same⟩ := reads.bare rest left ends
  have noMark : ((bareVariant held).tokens ++ rest).beginWith "#" = false :=
    Tokens.beginWith_ident _ (by decide) _
  obtain ⟨attributes, front, among, -, sameOuter⟩ := reads_front
    (fun mark member => ⟨paths mark member, reads.values mark member⟩) noMark left
  refine ⟨{ found with attributes }, ?_, among, ?_⟩
  · rw [variant_tokens, List.append_assoc]
    refine bind_ok_iff.mpr ⟨_, _, _, front, ?_⟩
    change variantRest g attributes _ left = _
    rw [variantRest_under, run_map, ran]
  · rw [variant_tokens, variant_tokens held, sameOuter, ← same]
    rfl

/-- An enum in front of its braces, behind its attributes. -/
def enumFront (g : Grammar) : Parser Enum := do
  let visibility ← visibility
  word "enum"
  let name ← ident
  let generics ← genericParameters g
  let clause ← whereClause? g
  return ⟨[], visibility, name, { generics with clause }, [], false⟩

def enumRow (item : Enum) : Tokens :=
  item.visibility.tokens ++ [.word "enum", .ident item.name] ++ item.generics.tokens ++
    item.generics.clauseTokens

theorem enum_tokens (item : Enum) :
    item.tokens = item.attributes.outer ++ (enumRow item ++
      [.brace (withCommas item.comma (item.variants.map Variant.tokens))]) := by
  simp [Enum.tokens, enumRow]

/-- The attributes of an enum and of its variants have the paths of attributes. -/
structure HoldsEnum (item : Enum) : Prop where
  paths : ∀ held ∈ item.attributes, AttributePath held.path
  variants : ∀ variant ∈ item.variants, ∀ held ∈ variant.attributes, AttributePath held.path

theorem enum_holds : Yields (Enum.rule g) HoldsEnum := by
  have each : Yields (variant g) fun found =>
      ∀ held ∈ found.attributes, AttributePath held.path := by
    refine Yields.bind_of outerAttributes_paths fun attributes paths => ?_
    change Yields (variantRest g attributes) _
    intro tokens left found rest after ran
    rw [variantRest_under, run_map] at ran
    split at ran <;> cases ran
    exact paths
  refine Yields.bind_of outerAttributes_paths fun attributes paths => ?_
  iterate 5 refine Yields.bind fun _ => ?_
  exact Yields.bind_of (Yields.group (commasToEnd_yields each)) fun found variants =>
    Yields.pure ⟨paths, variants⟩

/-- The parts of an enum are read again: the values of its attributes, what stands in front of its
braces, and each variant. -/
structure ReadsEnum (g : Grammar) (item : Enum) : Prop where
  values : ∀ held ∈ item.attributes, ReadsValue g held
  front : Reads (enumFront g) (enumRow item) OpensBrace fun found => enumRow found = enumRow item
  variants : ∀ variant ∈ item.variants, ReadsVariant g variant

theorem enumFront_begins {tokens : Tokens} {found : Enum} {after : Option Delimiter}
    (ran : enumFront g tokens left = .ok ((found, rest), after)) :
    tokens.beginWith "#" = false := by
  refine Bool.eq_false_iff.mpr fun mark => ?_
  obtain ⟨joint, behind, rfl⟩ := (beginWith_char_iff '#' rfl).mp mark
  simp [enumFront, visibility] at ran

/-- An enum whose parts are read again is read again. -/
theorem reads_enum {item : Enum} (reads : ReadsEnum g item) (holds : HoldsEnum item) :
    Reads (Enum.rule g) item.tokens AtEnd fun again =>
      again.tokens = item.tokens ∧ List.Forall₂ VariantAgain again.variants item.variants := by
  intro rest left ends
  obtain rfl : rest = [] := ends
  obtain ⟨found, ran, sameFront⟩ := reads.front
    [.brace (withCommas item.comma (item.variants.map Variant.tokens))] left ⟨_, _, rfl⟩
  have noMark := enumFront_begins ran
  obtain ⟨attributes, front, -, areOuter, sameOuter⟩ :=
    reads_front (fun held member => ⟨holds.paths held member, reads.values held member⟩) noMark left
  have some : ∀ held ∈ item.variants, held.tokens ≠ [] :=
    fun held _ => by simp [Variant.tokens]
  obtain ⟨⟨variants, comma⟩, ranVariants, same, isComma⟩ := reads_commas some
    (fun held member => reads_variant (reads.variants held member) (holds.variants held member))
    item.comma [] left rfl
  obtain ⟨shown, _, _, ranShown, ran⟩ := bind_ok_iff.mp ran
  obtain ⟨_, _, _, ranWord, ran⟩ := bind_ok_iff.mp ran
  obtain ⟨name, _, _, ranName, ran⟩ := bind_ok_iff.mp ran
  obtain ⟨generics, _, _, ranGenerics, ran⟩ := bind_ok_iff.mp ran
  obtain ⟨clause, _, _, ranClause, ended⟩ := bind_ok_iff.mp ran
  cases ended
  refine ⟨⟨attributes, shown, name, { generics with clause }, variants, comma⟩, ?_, ?_, same⟩
  · rw [enum_tokens, List.append_nil]
    refine bind_ok_iff.mpr ⟨_, _, _, front, ?_⟩
    refine bind_ok_iff.mpr ⟨_, _, _, ranShown, ?_⟩
    refine bind_ok_iff.mpr ⟨_, _, _, ranWord, ?_⟩
    refine bind_ok_iff.mpr ⟨_, _, _, ranName, ?_⟩
    refine bind_ok_iff.mpr ⟨_, _, _, ranGenerics, ?_⟩
    refine bind_ok_iff.mpr ⟨_, _, _, ranClause, ?_⟩
    rw [List.append_nil] at ranVariants
    refine bind_ok_iff.mpr ⟨(variants, comma), _, _, ?_, rfl⟩
    rw [Token.brace, run_group, ranVariants]
    rfl
  · have rows : variants.map Variant.tokens = item.variants.map Variant.tokens :=
      rows_eq_of_related (fun _ _ like => like.written) same
    have commas : withCommas comma (item.variants.map Variant.tokens) =
        withCommas item.comma (item.variants.map Variant.tokens) := by
      rw [show comma = (item.comma && !item.variants.isEmpty) from isComma]
      cases item.variants with
      | nil => cases item.comma <;> rfl
      | cons => simp
    rw [enum_tokens, enum_tokens item, sameOuter, ← sameFront, rows, commas]
    rfl

end Endpoint.Source.Grammar
