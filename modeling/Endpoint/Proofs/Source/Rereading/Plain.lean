import Endpoint.Proofs.Source.Rereading.Statement

/-!
The parts of plain declarations are read again, whatever the names in them are: receivers,
parameters and results of plain types, plain parameters and bounds, literals as the values of
attributes and of variants.
-/

namespace Endpoint.Source

open Source.Parser

namespace Grammar

variable {g : Grammar} {depth : Nat} {rest : Tokens} {left : Option Delimiter}

/-! ### Attributes -/

/-- A literal in the place of an expression is kept as the token that it is. -/
theorem run_constant_literal (text : String) (ends : Ends rest) :
    constant (level (depth + 1)) (.literal text :: rest) left =
      .ok ((⟨[.literal text], [.literal text]⟩, rest), left) := by
  have taken : exprRule (level depth) true (.literal text :: rest) left = _ :=
    exprRule_token text ends
  refine bind_ok_iff.mpr ⟨_, _, _, run_get _ _, ?_⟩
  refine bind_ok_iff.mpr ⟨_, _, _, taken, ?_⟩
  simp [since, Expr.tokens]

/-- The attribute has no value, or a literal. -/
def PlainValue (held : Attribute) : Prop :=
  ∀ value, held.content = .value value → ∃ text, value.tokens = [.literal text]

theorem readsValue_of_plain {held : Attribute} (plain : PlainValue held) :
    ReadsValue (level (depth + 1)) held := by
  intro value has rest left ends
  obtain rfl : rest = [] := ends
  obtain ⟨text, literal⟩ := plain value has
  rw [literal]
  refine ⟨⟨[.literal text], [.literal text]⟩, ?_, rfl⟩
  refine bind_ok_iff.mpr ⟨false, _, _, rfl, ?_⟩
  exact run_constant_literal text .nothing

/-! ### Inputs -/

/-- A receiver, with a plain type if it has one, or a parameter with a name and a plain type. -/
inductive PlainInput : Input → Prop
  | receiver {held : Receiver}
      (typed : ∀ ty, held.ty = some ty → held.reference = none ∧ PlainTy ty) :
      PlainInput (.receiver held)
  | typed (attributes : Attributes) (mutable : Bool) {name : Ident} (isName : name.isName = true)
      {ty : Ty} (plain : PlainTy ty) :
      PlainInput (.typed attributes (.ident false mutable name none) ty)

/-- A parameter begins with no receiver. -/
theorem optional_receiver_name (mutable : Bool) {name : Ident} (isName : name.isName = true) :
    optional? (receiver g []) (keywordIf mutable "mut" ++ .ident name :: rest) left =
      .ok ((none, keywordIf mutable "mut" ++ .ident name :: rest), left) := by
  cases mutable <;>
    simp +decide [optional?, receiver, keywordIf, Token.word, Tokens.beginWith_ident,
      Tokens.beginWithWord_name _ isName]

section

variable {size : Nat} (reads : ReadsTypes (level (depth + 1)) size)

include reads

theorem readsInput_of_receiver {held : Receiver}
    (typed : ∀ ty, held.ty = some ty → held.reference = none ∧ PlainTy ty)
    (fits : Tokens.size held.tokens ≤ size) (values : ∀ mark ∈ held.attributes, PlainValue mark) :
    ReadsInput (level (depth + 1)) (.receiver held) := by
  obtain ⟨attributes, reference, mutable, ty⟩ := held
  refine ⟨fun mark member => readsValue_of_plain (values mark member), ?_, ?_⟩
  · rcases reference with _ | _ | name <;> cases mutable <;> rfl
  · intro rest left ends
    have noColon : rest.beginWith ":" = false := by rcases ends with _ | ⟨_ | _, behind⟩ <;> rfl
    have noPoints : Tokens.beginWith "..."
        ((Input.under [] (.receiver ⟨attributes, reference, mutable, ty⟩)).tokens ++ rest) =
          false := by
      rcases reference with _ | _ | name <;> cases mutable <;> rfl
    have taken : receiver (level (depth + 1)) []
        ((Input.under [] (.receiver ⟨attributes, reference, mutable, ty⟩)).tokens ++ rest) left =
          .ok ((⟨[], reference, mutable, ty⟩, rest), left) := by
      cases ty with
      | none =>
        rcases reference with _ | _ | name <;> cases mutable <;>
          simp [Input.under, Input.tokens, Receiver.tokens, Attributes.outer, outerTokens, receiver,
            keywordIf, Token.word, Token.lifetime, lifetime?, lifetime, Tokens.beginWithLifetime,
            Tokens.beginWithChars, Tokens.beginWith_ident, punctWhere?, noColon]
      | some ty =>
        obtain ⟨rfl, plain⟩ := typed ty rfl
        have small : ty.tokens.size ≤ size := by
          simp [Receiver.tokens, Tokens.size_append, Token.word] at fits
          omega
        obtain ⟨ty, taken, rfl⟩ := reads ty true plain small (.inl rfl) rest left ends.endsType
        cases mutable <;>
          simp [Input.under, Input.tokens, Receiver.tokens, Attributes.outer, outerTokens, receiver,
            keywordIf, Token.word, Tokens.beginWithChars, Tokens.beginWith_ident, punctWhere?,
            taken]
    refine ⟨some (.receiver ⟨[], reference, mutable, ty⟩), ?_, _, rfl, rfl, rfl⟩
    simp [bareInput, noPoints, optional?, taken]

theorem readsInput_of_typed {attributes : Attributes} (mutable : Bool) {name : Ident}
    (isName : name.isName = true) {ty : Ty} (plain : PlainTy ty) (fits : ty.tokens.size ≤ size)
    (values : ∀ mark ∈ attributes, PlainValue mark) :
    ReadsInput (level (depth + 1)) (.typed attributes (.ident false mutable name none) ty) where
  values := fun mark member => readsValue_of_plain (values mark member)
  noMark := by cases mutable <;> exact Tokens.beginWith_ident _ (by decide) _
  bare := by
    intro rest left ends
    have noPoints := (plain.begins rest).points
    obtain ⟨found, taken, rfl⟩ := reads ty true plain fits (.inl rfl) rest left ends.endsType
    have bound : (level (depth + 1)).pattern (keywordIf mutable "mut" ++
        .ident name :: .punct ':' false :: (found.tokens ++ rest)) left =
          .ok ((.ident false mutable name none, .punct ':' false :: (found.tokens ++ rest)), left) :=
      pattern_bound mutable isName (.inl rfl)
    have noSelf : optional? (receiver (level (depth + 1)) []) (keywordIf mutable "mut" ++
        .ident name :: .punct ':' false :: (found.tokens ++ rest)) left = _ :=
      optional_receiver_name mutable isName
    have noType : (Tokens.beginWithName (keywordIf mutable "mut" ++
        .ident name :: .punct ':' false :: (found.tokens ++ rest)) &&
          Tokens.beginWith "<" (keywordIf mutable "mut" ++
            .ident name :: .punct ':' false :: (found.tokens ++ rest)).tail) = false := by
      cases mutable <;> simp [keywordIf, Token.word, Tokens.beginWith_ident, Tokens.beginWithChars]
    have noMark : Tokens.beginWith "..." (keywordIf mutable "mut" ++
        .ident name :: .punct ':' false :: (found.tokens ++ rest)) = false := by
      cases mutable <;> exact Tokens.beginWith_ident _ (by decide) _
    refine ⟨some (.typed [] (.ident false mutable name none) found), ?_, _, rfl, rfl, rfl⟩
    have row : (Input.under [] (.typed attributes (.ident false mutable name none) found)).tokens ++
        rest = keywordIf mutable "mut" ++ .ident name :: .punct ':' false ::
          (found.tokens ++ rest) := by
      simp [Input.under, Input.tokens, Pattern.tokens, subTokens, keywordIf, Attributes.outer,
        outerTokens]
    rw [row]
    generalize keywordIf mutable "mut" ++ .ident name :: .punct ':' false ::
      (found.tokens ++ rest) = behind at bound noSelf noType noMark ⊢
    simp [bareInput, noSelf, bound, taken, noPoints, noMark, noType, Tokens.beginWithChars]

theorem readsInput_of_plain {input : Input} (plain : PlainInput input)
    (fits : Tokens.size input.tokens ≤ size) (values : ∀ mark ∈ input.attributes, PlainValue mark) :
    ReadsInput (level (depth + 1)) input := by
  cases plain with
  | receiver typed => exact readsInput_of_receiver reads typed fits values
  | typed attributes mutable isName plain =>
    refine readsInput_of_typed reads mutable isName plain ?_ values
    simp [Input.tokens, Tokens.size_append] at fits
    omega

end

/-! ### Methods -/

/-- A function with nothing but `async` in front of `fn`, with plain parameters, inputs and
result. -/
structure PlainSignature (held : Signature) : Prop where
  notConst : held.isConst = false
  noSafety : held.safety = none
  noLinkage : held.linkage = none
  isName : held.name.isName = true
  generics : PlainGenerics held.generics
  inputs : ∀ input ∈ held.inputs, PlainInput input ∧ ∀ mark ∈ input.attributes, PlainValue mark
  noVariadic : held.variadic = none
  output : ∀ ty, held.output = some ty → PlainTy ty

theorem EndsSignature.endsType (ends : EndsSignature rest) : EndsType rest := by
  cases ends <;> exact ⟨⟨⟨rfl, rfl⟩, rfl⟩, rfl, rfl⟩

section

variable {size : Nat}

theorem reads_signatureFront (reads : ReadsTypes g size) {name : Ident}
    (isName : name.isName = true) (isAsync : Bool) {generics : Generics}
    (plain : PlainGenerics generics)
    (fits : generics.tokens.size ≤ size) :
    Reads (signatureFront g)
      (keywordIf isAsync "async" ++ [.word "fn", .ident name] ++ generics.tokens) OpensParen
      (· = ⟨false, isAsync, none, none, name, generics, [], false, none, none⟩) := by
  rintro _ left ⟨inner, more, rfl⟩
  refine ⟨_, ?_, rfl⟩
  obtain ⟨generics, taken, rfl⟩ :=
    reads_genericParameters reads plain fits (.paren inner :: more) left rfl
  cases isAsync <;> simp [signatureFront, signatureWords, keywordIf, Token.word, seesWord, linkage?,
    isName, taken]

theorem reads_signatureBack (reads : ReadsTypes g size) {output : Option Ty}
    (plain : ∀ ty, output = some ty → PlainTy ty)
    (fits : Tokens.size (returnTokens output) ≤ size) :
    Reads (signatureBack g) (returnTokens output) EndsSignature (· = (output, none)) := by
  intro rest left ends
  have noArrow : rest.beginWith "->" = false := by cases ends <;> rfl
  have noClause : whereClause? g rest left = .ok ((none, rest), left) := by
    have noWord : rest.beginWithWord "where" = false := by cases ends <;> rfl
    simp [whereClause?, noWord]
  refine ⟨_, bind_ok_iff.mpr ⟨output, _, _, ?_, run_step noClause⟩, rfl⟩
  cases output with
  | none => simp [result?, returnTokens, noArrow]
  | some ty =>
    have small : ty.tokens.size ≤ size := by
      simp [returnTokens, Token.operator, Token.operatorChars] at fits
      omega
    obtain ⟨_, taken, rfl⟩ :=
      reads ty true (plain ty rfl) small (.inl rfl) rest left ends.endsType
    exact bind_ok_iff.mpr ⟨true, _, _, rfl, bind_ok_iff.mpr ⟨_, _, _, taken, rfl⟩⟩

theorem readsSignature_of_plain (reads : ReadsTypes (level (depth + 1)) size) {held : Signature}
    (plain : PlainSignature held) (fits : Tokens.size held.tokens ≤ size) :
    ReadsSignature (level (depth + 1)) held := by
  have row {held : Signature} (notConst : held.isConst = false) (noSafety : held.safety = none)
      (noLinkage : held.linkage = none) :
      frontRow held = keywordIf held.isAsync "async" ++ [.word "fn", .ident held.name] ++
        held.generics.tokens := by
    simp [frontRow, notConst, noSafety, noLinkage, keywordIf, linkageTokens]
  have noClause : backRow held.output held.generics.clause = returnTokens held.output := by
    rw [plain.generics.noClause]
    exact List.append_nil _
  rw [signature_tokens, noClause, row plain.notConst plain.noSafety plain.noLinkage] at fits
  simp only [Token.paren, Tokens.size_append, Tokens.size_group] at fits
  refine ⟨fun rest left ends => ?_, fun input member => ?_, fun more has => ?_,
    fun rest left ends => ?_⟩
  · obtain ⟨_, ran, rfl⟩ := reads_signatureFront reads plain.isName held.isAsync plain.generics
      (by omega) rest left ends
    rw [row plain.notConst plain.noSafety plain.noLinkage]
    exact ⟨_, ran, row rfl rfl rfl⟩
  · obtain ⟨plainInput, values⟩ := plain.inputs input member
    refine readsInput_of_plain reads plainInput ?_ values
    have part := Tokens.size_joined joins_commas (List.mem_map_of_mem (f := Input.tokens) member)
    simp only [inputsRow, withCommas, Tokens.size_append] at fits
    omega
  · cases plain.noVariadic.symm.trans has
  · obtain ⟨_, ran, rfl⟩ := reads_signatureBack reads plain.output (by omega) rest left ends
    rw [noClause]
    exact ⟨_, ran, List.append_nil _⟩

end

/-- Nothing, `pub`, or `pub` with one word behind it. -/
inductive PlainVisibility : Visibility → Prop
  | inherited : PlainVisibility .inherited
  | all : PlainVisibility .all
  | word {word : String} (short : word ∈ ["crate", "self", "super"]) :
      PlainVisibility (.restricted false (.ofIdent (.plain word)))

theorem run_visibility {shown : Visibility} (plain : PlainVisibility shown) {word : String}
    (other : word ≠ "pub") (more : Tokens) :
    visibility (shown.tokens ++ .word word :: more) left =
      .ok ((shown, .word word :: more), left) := by
  cases plain with
  | inherited => simp [visibility, Visibility.tokens, Token.word, other]
  | all => simp [visibility, Visibility.tokens, Token.word]
  | word short =>
    simp only [List.mem_cons, List.not_mem_nil, or_false] at short
    obtain rfl | rfl | rfl := short <;> rfl

/-- A function with plain attributes, and with plain statements if it has a body. -/
structure PlainMethod (declared : Method) : Prop where
  values : ∀ held ∈ declared.attributes, PlainValue held
  signature : PlainSignature declared.signature
  body : ∀ body, declared.body = some body →
    ∃ stmts, body.tokens = stmtRows stmts ∧ PlainStmts stmts

/-- A trait with plain parameters and bounds, whose members are plain functions. -/
structure PlainTrait (item : Trait) : Prop where
  values : ∀ held ∈ item.attributes, PlainValue held
  visibility : PlainVisibility item.visibility
  notAuto : item.isAuto = false
  isName : item.name.isName = true
  generics : PlainGenerics item.generics
  bounds : ∀ held ∈ item.bounds, PlainBound held
  noPlus : item.plus = false
  members : ∀ member ∈ item.items, ∃ declared, member = .method declared ∧ PlainMethod declared

section

variable {size : Nat}

theorem readsMethod_of_plain (reads : ReadsTypes (level (depth + 1)) size) (deep : size < depth)
    {declared : Method} (plain : PlainMethod declared)
    (fits : Tokens.size declared.tokens ≤ size) : ReadsMethod (level (depth + 1)) declared where
  values held member := readsValue_of_plain (plain.values held member)
  signature := by
    refine readsSignature_of_plain reads plain.signature ?_
    simp only [Method.tokens, Tokens.size_append] at fits
    omega
  begins body has := by
    obtain ⟨stmts, row, plain⟩ := plain.body body has
    rw [row]
    exact plain.endsSide
  statements body has := by
    obtain ⟨stmts, row, plain⟩ := plain.body body has
    obtain ⟨depth, rfl⟩ : ∃ fewer, depth = fewer + 1 := ⟨depth - 1, by omega⟩
    rw [row]
    refine reads_body plain ?_
    simp only [Method.tokens, has, row, Token.brace, Tokens.size_append, Tokens.size_group] at fits
    omega

theorem reads_traitFront (reads : ReadsTypes g size) {shown : Visibility}
    (visible : PlainVisibility shown) {name : Ident} (isName : name.isName = true) (isUnsafe : Bool)
    {generics : Generics} (plain : PlainGenerics generics) {bounds : List Bound}
    (plainBounds : ∀ held ∈ bounds, PlainBound held)
    (fits : Tokens.size (generics.tokens ++ boundsTokens false (bounds.map Bound.tokens)) ≤ size) :
    Reads (traitFront g)
      (shown.tokens ++ keywordIf isUnsafe "unsafe" ++ [.word "trait", .ident name] ++
        (generics.tokens ++ boundsTokens false (bounds.map Bound.tokens))) OpensBrace
      (· = ⟨[], shown, isUnsafe, false, name, generics, bounds, false, []⟩) := by
  intro rest left ends
  refine ⟨_, ?_, rfl⟩
  rw [Tokens.size_append] at fits
  have noAngle : Tokens.beginWith "<" (boundsTokens false (bounds.map Bound.tokens) ++ rest) =
      false := by
    obtain ⟨inner, more, rfl⟩ := ends
    cases bounds <;> rfl
  obtain ⟨_, conditions, rfl⟩ :=
    reads_traitConditions reads plainBounds (by omega) rest left ends
  obtain ⟨parameters, comma, clause⟩ := generics
  obtain rfl : clause = none := plain.noClause
  obtain ⟨_, taken, rfl⟩ := reads_genericParameters reads plain (by omega) _ left noAngle
  generalize boundsTokens false (bounds.map Bound.tokens) = row at conditions taken ⊢
  generalize Generics.tokens ⟨parameters, comma, none⟩ = front at taken ⊢
  have begins : visibility (shown.tokens ++ keywordIf isUnsafe "unsafe" ++
      [.word "trait", .ident name] ++ (front ++ row) ++ rest) left =
      .ok ((shown, keywordIf isUnsafe "unsafe" ++ .word "trait" :: .ident name ::
        (front ++ (row ++ rest))), left) := by
    simp only [List.append_assoc, List.cons_append, List.nil_append]
    cases isUnsafe <;> exact run_visibility visible (by decide) _
  rw [traitFront, run_step begins]
  cases isUnsafe <;> simp [keywordIf, Token.word, isName, taken, conditions]

theorem readsTrait_of_fits (reads : ReadsTypes (level (depth + 1)) size) (deep : size < depth)
    {item : Trait} (plain : PlainTrait item) (fits : Tokens.size item.tokens ≤ size) :
    ReadsTrait (level (depth + 1)) item := by
  have row {item : Trait} (notAuto : item.isAuto = false) (noPlus : item.plus = false)
      (noClause : item.generics.clause = none) :
      traitRow item = item.visibility.tokens ++ keywordIf item.isUnsafe "unsafe" ++
        [.word "trait", .ident item.name] ++
          (item.generics.tokens ++ boundsTokens false (item.bounds.map Bound.tokens)) := by
    simp [traitRow, notAuto, noPlus, noClause, keywordIf, Generics.clauseTokens]
  rw [trait_tokens, row plain.notAuto plain.noPlus plain.generics.noClause] at fits
  simp only [Token.brace, Tokens.size_append, Tokens.size_group] at fits
  refine ⟨fun held member => readsValue_of_plain (plain.values held member), ?_,
    fun member inside => ?_⟩
  · intro rest left ends
    have small : Tokens.size (item.generics.tokens ++
        boundsTokens false (item.bounds.map Bound.tokens)) ≤ size := by
      rw [Tokens.size_append]
      omega
    obtain ⟨_, ran, rfl⟩ := reads_traitFront reads plain.visibility plain.isName item.isUnsafe
      plain.generics plain.bounds small rest left ends
    rw [row plain.notAuto plain.noPlus plain.generics.noClause]
    exact ⟨_, ran, row rfl rfl plain.generics.noClause⟩
  · have part := Tokens.size_flatten (List.mem_map_of_mem (f := Associated.tokens) inside)
    obtain ⟨declared, rfl, method⟩ := plain.members member inside
    exact .method (readsMethod_of_plain reads deep method (Nat.le_trans part (by omega)))

end

/-- The rules for the tokens of a plain trait go deep enough to read it again. -/
theorem readsTrait_of_plain {item : Trait} (plain : PlainTrait item) :
    ReadsTrait (.covering item.tokens) item := by
  have reads : ReadsTypes (level (4 * Tokens.size item.tokens + 15 + 1)) item.tokens.size :=
    fun ty plus plain fits => readsTypes_level _ ty plus plain (by omega)
  exact readsTrait_of_fits reads (by omega) plain (Nat.le_refl _)

/-! ### Enums -/

/-- A name without fields under plain attributes, perhaps with a literal for its number. -/
structure PlainVariant (held : Variant) : Prop where
  values : ∀ mark ∈ held.attributes, PlainValue mark
  isName : held.name.isName = true
  noFields : held.fields = .unit
  discriminant : ∀ value, held.discriminant = some value → ∃ text, value.tokens = [.literal text]

theorem readsVariant_of_plain {held : Variant} (plain : PlainVariant held) :
    ReadsVariant (level (depth + 1)) held := by
  refine ⟨fun mark member => readsValue_of_plain (plain.values mark member),
    fun rest left ends => ?_⟩
  obtain ⟨attributes, name, fields, discriminant⟩ := held
  obtain ⟨-, isName, noFields, literal⟩ := plain
  obtain rfl : fields = .unit := noFields
  have noWord (more : Tokens) := Tokens.beginWithWord_name more isName "pub" (by decide)
  cases discriminant with
  | none =>
    have row : (bareVariant ⟨attributes, name, .unit, none⟩).tokens = [.ident name] := by
      simp [bareVariant, Variant.tokens, Fields.tokens, Attributes.outer, outerTokens]
    have noGroup (delimiter : Delimiter) : rest.beginWithGroup delimiter = false := by
      cases ends <;> rfl
    have noValue : rest.beginWith "=" = false := by rcases ends with _ | ⟨_ | _, behind⟩ <;> rfl
    refine ⟨⟨[], name, .unit, none⟩, ?_, rfl⟩
    rw [row]
    simp [variantRest, visibility, noWord, isName, seesGroup, noGroup, noValue]
  | some value =>
    obtain ⟨text, same⟩ := literal value rfl
    have row : (bareVariant ⟨attributes, name, .unit, some value⟩).tokens =
        [.ident name, .punct '=' false, .literal text] := by
      simp [bareVariant, Variant.tokens, Fields.tokens, Attributes.outer, outerTokens, same]
    have taken : constant (level (depth + 1)) (.literal text :: rest) left = _ :=
      run_constant_literal text ends
    refine ⟨⟨[], name, .unit, some ⟨[.literal text], [.literal text]⟩⟩, ?_, ?_⟩
    · rw [row]
      simp [variantRest, visibility, noWord, isName, seesGroup, Tokens.beginWithChars, taken]
    · rw [row]
      simp [bareVariant, Variant.tokens, Fields.tokens, Attributes.outer, outerTokens]

/-- An enum with plain parameters, whose variants are plain. -/
structure PlainEnum (item : Enum) : Prop where
  values : ∀ held ∈ item.attributes, PlainValue held
  visibility : PlainVisibility item.visibility
  isName : item.name.isName = true
  generics : PlainGenerics item.generics
  variants : ∀ held ∈ item.variants, PlainVariant held

theorem readsEnum_of_fits {size : Nat} (reads : ReadsTypes (level (depth + 1)) size) {item : Enum}
    (plain : PlainEnum item) (fits : Tokens.size item.tokens ≤ size) :
    ReadsEnum (level (depth + 1)) item := by
  have row (item : Enum) (noClause : item.generics.clause = none) :
      enumRow item = item.visibility.tokens ++ [.word "enum", .ident item.name] ++
        item.generics.tokens := by
    simp [enumRow, noClause, Generics.clauseTokens]
  refine ⟨fun held member => readsValue_of_plain (plain.values held member), ?_,
    fun held member => readsVariant_of_plain (plain.variants held member)⟩
  rintro _ left ⟨inner, more, rfl⟩
  rw [enum_tokens, row _ plain.generics.noClause] at fits
  simp only [Tokens.size_append] at fits
  rw [row _ plain.generics.noClause]
  obtain ⟨attributes, shown, name, ⟨parameters, comma, clause⟩, variants, trailing⟩ := item
  obtain rfl : clause = none := plain.generics.noClause
  obtain ⟨_, taken, rfl⟩ :=
    reads_genericParameters reads plain.generics (by omega) (.brace inner :: more) left rfl
  have isName := plain.isName
  have same := row ⟨[], shown, name, ⟨parameters, comma, none⟩, [], false⟩ rfl
  generalize Generics.tokens ⟨parameters, comma, none⟩ = front at taken same ⊢
  have begins : visibility (shown.tokens ++ [.word "enum", .ident name] ++ front ++
      .brace inner :: more) left =
      .ok ((shown, .word "enum" :: .ident name :: (front ++ .brace inner :: more)), left) := by
    simp only [List.append_assoc, List.cons_append, List.nil_append]
    exact run_visibility plain.visibility (by decide) _
  refine ⟨⟨[], shown, name, ⟨parameters, comma, none⟩, [], false⟩, ?_, ?_⟩
  · rw [enumFront, run_step begins]
    simp only [Token.brace] at taken ⊢
    simp [Token.word, isName, taken, whereClause?]
  · exact same

theorem readsEnum_of_plain {item : Enum} (plain : PlainEnum item) :
    ReadsEnum (.covering item.tokens) item := by
  have reads : ReadsTypes (level (4 * Tokens.size item.tokens + 15 + 1)) _ := readsTypes_level _
  exact readsEnum_of_fits reads plain (by omega)

end Grammar

end Endpoint.Source
