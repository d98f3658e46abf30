import Endpoint.Emission.Unit
import Endpoint.Proofs.Source.Grammar.Known
import Mathlib

/-!
The code of a client under any name. Main statement: it is refused exactly if the name is a keyword,
or if it is refused under every name.
-/

namespace Endpoint

open Source (Ident Token Tokens Visibility keywords)
open Source.Grammar
open Source.Parser

/-- The client under a name. -/
def ClientDefinition.named (client : ClientDefinition) (name : Ident) : ClientDefinition :=
  { client with name }

namespace Emission

variable {context : Context} {client : ClientDefinition} {depth : Nat}

/-! ### Attributes -/

theorem attributeBody_doc (text : String) (left : Option Source.Delimiter) :
    attributeBody (level (depth + 1)) (Token.phrase "doc =" ++ [.literal text]) left =
      .ok ((⟨.ofIdent (.plain "doc"), .value ⟨[.literal text], [.literal text]⟩⟩, []), left) := by
  cbv

theorem attributeBody_derive (inner : Tokens) (left : Option Source.Delimiter) :
    attributeBody (level (depth + 1)) (Token.phrase "derive" ++ [.paren inner]) left =
      .ok ((⟨.ofIdent (.plain "derive"), .list .paren inner⟩, []), left) := by
  cbv

theorem outerAttributes_doc (depth : Nat) (text : String) (word : Ident) (rest : Tokens)
    (left : Option Source.Delimiter) :
    ∃ attributes, outerAttributes (level (depth + 1)) (docTokens text ++ .ident word :: rest) left =
      .ok ((attributes, .ident word :: rest), left) := by
  simp [docTokens, attributeTokens, Token.string, Token.bracket, outerAttributes, many, repeatFor,
    Tokens.beginWithChars, Tokens.beginWith_ident, attributeBody_doc]

theorem outerAttributes_derived (depth : Nat) (text : String) (inner : Tokens) (word : Ident)
    (rest : Tokens) (left : Option Source.Delimiter) :
    ∃ attributes, outerAttributes (level (depth + 1)) (docTokens text ++
        (attributeTokens (Token.phrase "derive" ++ [.paren inner]) ++ .ident word :: rest)) left =
      .ok ((attributes, .ident word :: rest), left) := by
  simp [docTokens, attributeTokens, Token.string, Token.bracket, outerAttributes, many, repeatFor,
    Tokens.beginWithChars, Tokens.beginWith_ident, attributeBody_doc, attributeBody_derive]

/-! ### The struct -/

variable {rest : Tokens} {left : Option Source.Delimiter}

/-- The names that emitted code uses for its own. -/
theorem isName_own : ∀ text ∈ ["T", "C", "core", "Transport", "Codec", "JsonCodec", "ClientCore"],
    Ident.isName (.plain text) = true := by
  decide

/-- What follows the name of a client's struct. -/
def structEnd (context : Context) : Tokens :=
  Token.phrase "< T , C =" ++ context.path "JsonCodec >" ++
    [.brace (Token.phrase "core :" ++ context.path "ClientCore < T , C > ,")]

theorem structEnd_eq : structEnd context ++ rest =
    .punct '<' false :: .ident (.plain "T") :: .punct ',' false :: .ident (.plain "C") ::
      .punct '=' false :: Token.colons (.ident context.runtime ::
        Token.colons (.ident (.plain "JsonCodec") :: .punct '>' false ::
          .group .brace (.ident (.plain "core") :: .punct ':' false ::
            Token.colons (.ident context.runtime :: Token.colons (.ident (.plain "ClientCore") ::
              (Token.angled [.plain "T", .plain "C"] ++ [.punct ',' false])))) :: rest)) := rfl

/-- A struct of any name is read, but none that is named for a keyword. -/
theorem structRest_remains (usable : context.runtime.isName = true) (name : Ident)
    (attributes : Source.Attributes) (shown : Visibility) :
    remains (structRest (level (depth + 2)) attributes shown)
        (.ident (.plain "struct") :: .ident name :: (structEnd context ++ rest)) left =
      if name.isName then some (rest, left) else none := by
  cases isName : name.isName with
  | false => simp [remains, structRest, isName]
  | true =>
    have codec (rest : Tokens) : (level (depth + 2)).ty true (Token.colons (.ident context.runtime ::
        Token.colons (.ident (.plain "JsonCodec") :: .punct '>' false :: rest))) left = _ :=
      typeRule_rootedPath _ usable (isName_own "JsonCodec" (by simp)) (Tokens.apart_close _) true
    have core : (level (depth + 2)).ty true (Token.colons (.ident context.runtime ::
        Token.colons (.ident (.plain "ClientCore") ::
          (Token.angled [.plain "T", .plain "C"] ++ [.punct ',' false])))) left = _ :=
      typeRule_rooted _ true (path_rooted _ _ usable
        (segment_angled _ (by simp) (by decide) depth (isName_own "ClientCore" (by simp)))
        (Tokens.apart_comma _)) (Tokens.apart_comma _)
    have second (rest : Tokens) := genericParameter_default (level (depth + 2))
      (isName_own "C" (by simp)) (codec rest)
    have first (rest : Tokens) : genericParameter (level (depth + 2))
        (.ident (.plain "T") :: .punct ',' false :: rest) left = _ :=
      genericParameter_name _ (isName_own "T" (by simp)) (Tokens.apart_comma rest)
    have isCore : Ident.isName (.plain "core") = true := isName_own "core" (by simp)
    obtain ⟨found, read⟩ : ∃ found, structRest (level (depth + 2)) attributes shown
        (.ident (.plain "struct") :: .ident name :: (structEnd context ++ rest)) left =
          .ok ((found, rest), left) := by
      rw [structEnd_eq]
      simp [structRest, isName, genericParameters, commas, separatedFor, seesPunct,
        Tokens.beginWithChars, Tokens.beginWith_ident, first, second, structBody, whereClause?,
        seesGroup, namedFields, namedField, commasToEnd, atEnd, outerAttributes_ident, visibility,
        seesWord, isCore, core]
    rw [remains_of_ok read, if_pos rfl]

/-- The struct of a client is read alike under all names, but not if it is named for a keyword. -/
theorem structTokens_remains (usable : context.runtime.isName = true) (client : ClientDefinition)
    (depth : Nat) (left : Option Source.Delimiter) :
    ∃ after : Option (Option Source.Delimiter), ∀ name rest,
      remains (itemRule (level (depth + 2))) (structTokens context (client.named name) ++ rest)
          left =
        if name.isName then after.map fun after => (rest, after) else none := by
  have begins (name : Ident) (rest : Tokens) : ∃ attributes,
      remains (itemRule (level (depth + 2))) (structTokens context (client.named name) ++ rest)
          left =
        remains (visibility >>= itemRest (level (depth + 2))
            (structTokens context (client.named name) ++ rest) attributes)
          (client.visibility.tokens ++ .ident (.plain "struct") ::
            (.ident name :: (structEnd context ++ rest))) left := by
    obtain ⟨first, more, front⟩ := visibility_front client.visibility (.plain "struct")
      (.ident name :: (structEnd context ++ rest))
    obtain ⟨attributes, taken⟩ := outerAttributes_derived (depth + 1)
      (" HTTP client for [" ++ "`" ++ client.trait.written ++ "`].") (Token.phrase "Debug , Clone")
      first more left
    refine ⟨attributes, ?_⟩
    have written : structTokens context (client.named name) ++ rest =
        docTokens (" HTTP client for [" ++ "`" ++ client.trait.written ++ "`].") ++
          (attributeTokens (Token.phrase "derive" ++ [.paren (Token.phrase "Debug , Clone")]) ++
            .ident first :: more) := by
      rw [← front]
      simp [structTokens, structEnd, ClientDefinition.named, Token.word]
    unfold itemRule
    rw [remains_step (run_get ..), written, remains_step taken, front]
  rcases visibility_tokens client.visibility left with failed | ⟨found, after, same⟩
  · refine ⟨none, fun name rest => ?_⟩
    obtain ⟨attributes, goesOn⟩ := begins name rest
    rw [goesOn, failed _ fun inner rest left => itemRest_group _ _ _ inner]
    simp
  · refine ⟨some after, fun name rest => ?_⟩
    obtain ⟨attributes, goesOn⟩ := begins name rest
    rw [goesOn, same _ (fun inner rest left => itemRest_group _ _ _ inner) _ _ (by decide), remains,
      itemRest_struct]
    exact (remains_map ..).trans (structRest_remains usable name attributes found)

/-! ### The implementations -/

/-- A parameter that is bound by a trait of the runtime crate. -/
def boundParameter (context : Context) (name bound : String) : Source.GenericParameter :=
  .type [] (.plain name)
    [.trait false false none (rootedPath context.runtime (.plain bound))] false none

theorem boundTokens_eq (withCodec : Bool) : boundTokens context withCodec ++ rest =
    .punct '<' false :: .ident (.plain "T") :: .punct ':' false ::
      Token.colons (.ident context.runtime :: Token.colons (.ident (.plain "Transport") ::
        ((if withCodec then .punct ',' false :: .ident (.plain "C") :: .punct ':' false ::
            Token.colons (.ident context.runtime :: Token.colons [.ident (.plain "Codec")])
          else []) ++ .punct '>' false :: rest))) := by
  cases withCodec <;> rfl

theorem beginsParameters_boundTokens (withCodec : Bool) :
    beginsParameters (boundTokens context withCodec ++ rest) = true := by
  rw [boundTokens_eq]
  simp [beginsParameters, Tokens.beginWithChars, Tokens.afterOne, isName_own]

theorem genericParameters_boundTokens (g : Source.Grammar) (usable : context.runtime.isName = true)
    (withCodec : Bool) : ∃ generics, ∀ rest left,
      genericParameters g (boundTokens context withCodec ++ rest) left =
        .ok ((generics, rest), left) := by
  have bounded {name bound : String} (isName : Ident.isName (.plain name) = true)
      (isBound : Ident.isName (.plain bound) = true) {rest : Tokens} (apart : rest.Apart)
      (noGroup : rest.beginWithGroup .paren = false) (left : Option Source.Delimiter) :
      genericParameter g (.ident (.plain name) :: .punct ':' false ::
          Token.colons (.ident context.runtime :: Token.colons (.ident (.plain bound) :: rest)))
          left =
        .ok ((boundParameter context name bound, rest), left) :=
    genericParameter_bound g isName usable isBound apart noGroup
  have transport {rest : Tokens} (apart : rest.Apart) := bounded (isName_own "T" (by simp))
    (isName_own "Transport" (by simp)) apart
  have codec (rest : Tokens) := bounded (isName_own "C" (by simp)) (isName_own "Codec" (by simp))
    (Tokens.apart_close rest) rfl
  cases withCodec with
  | false =>
    refine ⟨⟨[boundParameter context "T" "Transport"], false, none⟩, fun rest left => ?_⟩
    rw [boundTokens_eq]
    simp [genericParameters, commas, separatedFor, seesPunct, Tokens.beginWithChars,
      Tokens.beginWith_ident, transport (Tokens.apart_close rest) rfl, boundParameter]
  | true =>
    refine ⟨⟨[boundParameter context "T" "Transport", boundParameter context "C" "Codec"], false,
      none⟩, fun rest left => ?_⟩
    rw [boundTokens_eq]
    simp [genericParameters, commas, separatedFor, seesPunct, Tokens.beginWithChars,
      Tokens.beginWith_ident, transport (Tokens.apart_comma _) rfl, codec, boundParameter]

/-- What is left of a body does not hang on the words of the documentation that it begins with. -/
theorem associatedItems_documented (first second : String) (shown : Visibility) (name : Ident)
    (more rest : Tokens) (left : Option Source.Delimiter) :
    remains (associatedItems (level (depth + 1)) (implementationItem (level (depth + 1))))
        (.group .brace (docTokens first ++
          (shown.tokens ++ .ident (.plain "fn") :: .ident name :: more)) :: rest) left =
      remains (associatedItems (level (depth + 1)) (implementationItem (level (depth + 1))))
        (.group .brace (docTokens second ++
          (shown.tokens ++ .ident (.plain "fn") :: .ident name :: more)) :: rest) left := by
  have noInner (text : String) (more : Tokens) :
      innerAttributes (level (depth + 1)) (docTokens text ++ more) left =
        .ok (([], docTokens text ++ more), left) := by
    simp [innerAttributes, many, repeatFor, docTokens, attributeTokens, Token.bracket,
      Tokens.beginWithChars, Tokens.beginWith_group]
  obtain ⟨word, behind, front⟩ :=
    visibility_front shown (.plain "fn") (.ident name :: more)
  obtain ⟨held, read⟩ := outerAttributes_doc depth first word behind left
  obtain ⟨others, taken⟩ := outerAttributes_doc depth second word behind left
  rw [← front] at read taken
  have item := implementationItem_attributed (level (depth + 1)) read taken
  unfold associatedItems
  rw [remains_group, remains_group, remains_step (noInner first _), remains_step (noInner second _)]
  refine congrArg _ (remains_bind ?_ fun _ _ => rfl)
  refine (remains_step (run_get ..)).trans (Eq.trans ?_ (remains_step (run_get ..)).symm)
  refine (remains_repeat _ _ (by simp [docTokens, attributeTokens])).trans
    (Eq.trans ?_ (remains_repeat _ _ (by simp [docTokens, attributeTokens])).symm)
  rw [item]
  rfl

/-! ### Code under any name -/

/-- Code with a name in it that is read alike under all names: under none, or always up to what
stands behind it. -/
def ReadAlike {α : Type} (rule : Source.Parser α) (written : Ident → Tokens) : Prop :=
  ∀ left, ∃ after : Option (Option Source.Delimiter), ∀ name, name.isName = true → ∀ rest,
    remains rule (written name ++ rest) left = after.map fun after => (rest, after)

section

variable (usable : context.runtime.isName = true) (depth : Nat)

include usable

theorem structTokens_alike (client : ClientDefinition) :
    ReadAlike (itemRule (level (depth + 2))) fun name =>
      structTokens context (client.named name) := by
  intro left
  obtain ⟨after, read⟩ := structTokens_remains usable client depth left
  exact ⟨after, fun name isName rest => by rw [read, if_pos isName]⟩

variable (withCodec : Bool) (names : List Ident) (some : names ≠ [])
  (areNames : ∀ name ∈ names, name.isName = true)

include some areNames

/-- An implementation of no trait is read alike if its body is. -/
theorem inherent_alike (body : Ident → Tokens)
    (same : ∀ first second rest left,
      remains (associatedItems (level (depth + 2)) (implementationItem (level (depth + 2))))
          (.group .brace (body first) :: rest) left =
        remains (associatedItems (level (depth + 2)) (implementationItem (level (depth + 2))))
          (.group .brace (body second) :: rest) left) :
    ReadAlike (itemRule (level (depth + 2))) fun name =>
      .ident (.plain "impl") :: (boundTokens context withCodec ++
        .ident name :: (Token.angled names ++ [.group .brace (body name)])) := by
  intro left
  obtain ⟨generics, bounds⟩ := genericParameters_boundTokens (level (depth + 2)) usable withCodec
  obtain ⟨after, read⟩ : ∃ after : Option (Option Source.Delimiter), ∀ rest,
      remains (associatedItems (level (depth + 2)) (implementationItem (level (depth + 2))))
        (.group .brace (body (.plain "T")) :: rest) left = after.map fun after => (rest, after) :=
    exists_remains_group ..
  refine ⟨after, fun name isName rest => ?_⟩
  rw [← read rest, ← same name]
  simp only [List.cons_append, List.append_assoc, List.nil_append]
  exact itemRule_inherent _ (beginsParameters_boundTokens withCodec) isName (bounds _ left)
    (typeRule_angled some areNames depth isName (Tokens.apart_group rest .brace _) true)

/-- An implementation of a trait is read alike. -/
theorem trait_alike (isUnsafe : Bool) (trait : Ident) (body : Tokens) :
    ReadAlike (itemRule (level (depth + 2))) fun name =>
      Source.keywordIf isUnsafe "unsafe" ++ .ident (.plain "impl") ::
        (boundTokens context withCodec ++ .ident trait :: .ident (.plain "for") ::
          .ident name :: (Token.angled names ++ [.group .brace body])) := by
  intro left
  obtain ⟨generics, bounds⟩ := genericParameters_boundTokens (level (depth + 2)) usable withCodec
  obtain ⟨after, read⟩ : ∃ after : Option (Option Source.Delimiter), ∀ rest,
      remains (associatedItems (level (depth + 2)) (implementationItem (level (depth + 2))))
        (.group .brace body :: rest) left = after.map fun after => (rest, after) :=
    exists_remains_group ..
  rcases typeRule_for (level (depth + 1)) trait with ⟨notConst, ty, taken⟩ | failed
  · refine ⟨after, fun name isName rest => ?_⟩
    rw [← read rest]
    simp only [List.append_assoc, List.cons_append, List.nil_append]
    exact itemRule_trait _ (beginsParameters_boundTokens withCodec) isUnsafe (bounds _ left)
      notConst (taken _ left)
      (typeRule_angled some areNames depth isName (Tokens.apart_group rest .brace _) true)
  · refine ⟨none, fun name isName rest => ?_⟩
    simp only [List.append_assoc, List.cons_append, List.nil_append]
    exact itemRule_no_trait _ (beginsParameters_boundTokens withCodec) isUnsafe (bounds _ left)
      (failed name _ left) (typeRule_binder (level (depth + 1)) true name)

end

/-- What the documentation of the constructor with the default codec says. -/
def constructorText (name : Ident) : String :=
  " Creates a `" ++ name.written ++ "` that encodes bodies as JSON."

/-- What follows the name of that constructor. -/
def constructorEnd (context : Context) : Tokens :=
  [Token.paren (Token.phrase "transport : T")] ++ Token.phrase "-> Self" ++
    [constructorBody context "new" "transport"]

/-- In the code of the constructor, the name stands behind the bounds and in its documentation. -/
theorem newTokens_eq (client : ClientDefinition) (name : Ident) :
    newTokens context (client.named name) =
      .ident (.plain "impl") :: (boundTokens context false ++
        .ident name :: (Token.angled [.plain "T"] ++
          [.group .brace (docTokens (constructorText name) ++ (client.visibility.tokens ++
            .ident (.plain "fn") :: .ident (.plain "new") :: constructorEnd context))])) := by
  have angled : Token.phrase "< T >" = Token.angled [.plain "T"] := rfl
  have new : Token.phrase "fn new" = [.ident (.plain "fn"), .ident (.plain "new")] := rfl
  simp [newTokens, ClientDefinition.named, Token.word, Token.brace, angled, new, constructorText,
    constructorEnd]

section

variable (usable : context.runtime.isName = true) (depth : Nat) (client : ClientDefinition)

include usable

theorem newTokens_alike :
    ReadAlike (itemRule (level (depth + 2))) fun name => newTokens context (client.named name) := by
  simp only [newTokens_eq]
  exact inherent_alike usable depth false _ (by simp) (by decide) _ fun first second =>
    associatedItems_documented (constructorText first) (constructorText second) _ _ _

theorem accessTokens_alike :
    ReadAlike (itemRule (level (depth + 2))) fun name =>
      accessTokens context (client.named name) := by
  have angled : Token.phrase "< T , C >" = Token.angled [.plain "T", .plain "C"] := rfl
  simp only [accessTokens, ClientDefinition.named, Token.word, Token.brace, angled,
    List.append_assoc, List.cons_append, List.nil_append]
  exact inherent_alike usable depth true _ (by simp) (by decide) _
    fun first second rest left => rfl

theorem traitTokens_alike :
    ReadAlike (itemRule (level (depth + 2))) fun name =>
      traitTokens context (client.named name) := by
  have alike := trait_alike usable depth true [.plain "T", .plain "C"] (by simp) (by decide)
    client.isUnsafe client.trait (client.methods.flatMap (methodTokens context))
  have angled : Token.phrase "< T , C >" = Token.angled [.plain "T", .plain "C"] := rfl
  simpa [traitTokens, ClientDefinition.named, Token.word, Token.brace, angled] using alike

end

/-- Items that are each read alike are read alike one behind the other. -/
theorem items_alike {α : Type} {item : Source.Parser α} {parts : List (Ident → Tokens)}
    (each : ∀ part ∈ parts, ReadAlike item part) (written : ∀ part ∈ parts, ∀ name, part name ≠ [])
    (left : Option Source.Delimiter) :
    ∃ after : Option (Option Source.Delimiter), ∀ name, name.isName = true →
      ∀ fuel, (parts.flatMap (· name)).length ≤ fuel →
        remains (repeatFor (unlessEnd item) fuel) (parts.flatMap (· name)) left =
          after.map fun after => ([], after) := by
  induction parts generalizing left with
  | nil => exact ⟨some left, fun name isName fuel enough => remains_repeat_end item fuel⟩
  | cons part parts ih =>
    obtain ⟨alike, each⟩ := List.forall_mem_cons.mp each
    obtain ⟨more, written⟩ := List.forall_mem_cons.mp written
    have goesOn (name : Ident) (fuel : Nat)
        (enough : ((part :: parts).flatMap (· name)).length ≤ fuel) :
        (parts.flatMap (· name)).length ≤ fuel - 1 ∧
          remains (repeatFor (unlessEnd item) fuel) ((part :: parts).flatMap (· name)) left =
            (remains item (part name ++ parts.flatMap (· name)) left).bind fun read =>
              remains (repeatFor (unlessEnd item) (fuel - 1)) read.1 read.2 := by
      have some := List.length_pos_of_ne_nil (more name)
      rw [List.flatMap_cons, List.length_append] at enough
      obtain ⟨fuel, rfl⟩ : ∃ fewer, fuel = fewer + 1 := ⟨fuel - 1, by omega⟩
      exact ⟨by omega, remains_repeat item fuel (by simp [more name])⟩
    obtain ⟨_ | after, first⟩ := alike left
    · refine ⟨none, fun name isName fuel enough => ?_⟩
      rw [(goesOn name fuel enough).2, first name isName]
      rfl
    · obtain ⟨final, rest⟩ := ih each written after
      refine ⟨final, fun name isName fuel enough => ?_⟩
      obtain ⟨fewer, step⟩ := goesOn name fuel enough
      rw [step, first name isName]
      exact rest name isName (fuel - 1) fewer

/-! ### The code of a client -/

theorem size_append (first second : Tokens) :
    Tokens.size (first ++ second) = Tokens.size first + Tokens.size second := by
  induction first with
  | nil => simp [Tokens.size]
  | cons token rest ih => simp [Tokens.size, ih, Nat.add_assoc]

/-- The code of a client has as many tokens under any name. -/
theorem size_clientTokens (client : ClientDefinition) (first second : Ident) :
    Tokens.size (clientTokens context (client.named first)) =
      Tokens.size (clientTokens context (client.named second)) := by
  simp [clientTokens, structTokens, newTokens, accessTokens, traitTokens, ClientDefinition.named,
    docTokens, attributeTokens, Token.string, Token.bracket, Token.brace, size_append, Tokens.size,
    Tokens.sizeOne]

/-- The items of a client by its name. -/
def clientParts (context : Context) (client : ClientDefinition) : List (Ident → Tokens) :=
  [fun name => structTokens context (client.named name),
    fun name => newTokens context (client.named name),
    fun name => accessTokens context (client.named name),
    fun name => traitTokens context (client.named name)]

theorem clientTokens_parts (client : ClientDefinition) (name : Ident) :
    clientTokens context (client.named name) =
      (clientParts context client).flatMap (· name) := by
  simp [clientTokens, clientParts]

/-- A file without attributes of its own is read as its items are. -/
theorem fileRule_clientTokens (client : ClientDefinition) (name : Ident) :
    remains (fileRule (level (depth + 3))) (clientTokens context (client.named name)) left =
      remains (repeatFor (unlessEnd (itemRule (level (depth + 2))))
        ((clientTokens context (client.named name)).length + 1))
        (clientTokens context (client.named name)) left := by
  have noInner : innerAttributes (level (depth + 3)) (clientTokens context (client.named name))
      left = .ok (([], clientTokens context (client.named name)), left) := by
    simp [innerAttributes, many, repeatFor, clientTokens, structTokens, docTokens, attributeTokens,
      Token.bracket, Tokens.beginWithChars, Tokens.beginWith_group]
  unfold fileRule
  rw [remains_step noInner]
  exact (remains_return _ _).trans (remains_step (run_get ..))

theorem covering_eq (tokens : Tokens) :
    Source.Grammar.covering tokens = level (4 * tokens.size + 13 + 3) := rfl

/-- What is left of the code of a client is the same under all names. -/
theorem remains_clientTokens (usable : context.runtime.isName = true) (client : ClientDefinition)
    (depth : Nat) (left : Option Source.Delimiter) :
    ∃ after : Option (Option Source.Delimiter), ∀ name, name.isName = true →
      remains (fileRule (level (depth + 3))) (clientTokens context (client.named name)) left =
        after.map fun after => ([], after) := by
  have alike : ∀ part ∈ clientParts context client,
      ReadAlike (itemRule (level (depth + 2))) part := by
    simp [clientParts, structTokens_alike usable, newTokens_alike usable, accessTokens_alike usable,
      traitTokens_alike usable]
  have written : ∀ part ∈ clientParts context client, ∀ name, part name ≠ [] := by
    simp [clientParts, structTokens, newTokens, accessTokens, traitTokens, docTokens,
      attributeTokens]
  obtain ⟨after, read⟩ := items_alike alike written left
  refine ⟨after, fun name isName => ?_⟩
  rw [fileRule_clientTokens, clientTokens_parts]
  exact read name isName _ (Nat.le_succ _)

/-- The code of a client is not read if it is named for a keyword. -/
theorem remains_keyword (usable : context.runtime.isName = true) (client : ClientDefinition)
    {name : Ident} (reserved : name.isName = false) (depth : Nat)
    (left : Option Source.Delimiter) :
    remains (fileRule (level (depth + 3))) (clientTokens context (client.named name)) left =
      none := by
  obtain ⟨after, read⟩ := structTokens_remains usable client depth left
  have first (rest : Tokens) := read name rest
  simp only [reserved, Bool.false_eq_true, if_false] at first
  have some : clientTokens context (client.named name) ≠ [] := by
    simp [clientTokens, structTokens, docTokens, attributeTokens]
  rw [fileRule_clientTokens, remains_repeat _ _ some]
  simp only [clientTokens, List.append_assoc, first, Option.bind_none]

/-- Code is refused exactly if it is not read to its end. -/
theorem render_eq_emission_iff {tokens : Tokens} {hint : String} {kind : Kind}
    {source : Identity} :
    render tokens hint kind source = .error .emission ↔
      remains (fileRule (.covering tokens)) tokens none ≠ some ([], none) := by
  rw [← Tokens.parse_eq_error_iff]
  unfold render
  cases tokens.parse fileRule with
  | error fault => simp
  | ok file => cases formatted : file.format? tokens.size <;> simp [formatted]

/-- The code of a client is refused exactly if its name is a keyword, or if it is refused under
every name. -/
theorem render_named_iff (usable : context.runtime.isName = true) (client : ClientDefinition)
    (name : Ident) {hint : String} {kind : Kind} {source : Identity} :
    render (clientTokens context (client.named name)) hint kind source = .error .emission ↔
      name.isName = false ∨ ∀ other, other.isName = true →
        render (clientTokens context (client.named other)) hint kind source = .error .emission := by
  simp only [render_eq_emission_iff, covering_eq]
  cases isName : name.isName with
  | false => simp [remains_keyword usable client isName]
  | true =>
    obtain ⟨after, read⟩ := remains_clientTokens usable client
      (4 * Tokens.size (clientTokens context (client.named name)) + 13) none
    have same (other : Ident) (isOther : other.isName = true) :
        remains (fileRule (level (4 * Tokens.size (clientTokens context (client.named other)) +
          13 + 3))) (clientTokens context (client.named other)) none =
            after.map fun after => ([], after) := by
      rw [size_clientTokens client other name]
      exact read other isOther
    rw [read name isName]
    constructor
    · intro refused
      exact .inr fun other isOther => by rwa [same other isOther]
    · rintro (⟨⟨⟩⟩ | refused)
      simpa [read name isName] using refused name isName

end Emission

end Endpoint
