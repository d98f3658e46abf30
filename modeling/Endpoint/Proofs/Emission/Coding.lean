import Endpoint.Emission.Serializer
import Endpoint.Proofs.Emission.Reading
import Endpoint.Proofs.Outcome

/-!
Reading the tables of an enumeration back from its emitted code. The reader knows the runtime crate
and the enumeration by name and nothing else of what was emitted.
-/

namespace Endpoint.Emission

open Source (Ident Token Tokens)

/-! ### Expected tokens -/

mutual

/-- Whether two token trees are written alike. -/
def sameToken : Token → Token → Bool
  | .ident name, .ident found => name == found
  | .punct char joint, .punct found close => char == found && joint == close
  | .literal text, .literal found => text == found
  | .group delimiter inner, .group found held => delimiter == found && sameTokens inner held
  | _, _ => false

def sameTokens : Tokens → Tokens → Bool
  | [], [] => true
  | token :: rest, found :: held => sameToken token found && sameTokens rest held
  | _, _ => false

end

mutual

theorem sameToken_self : ∀ token : Token, sameToken token token = true
  | .ident _ => by simp [sameToken]
  | .punct .. => by simp [sameToken]
  | .literal _ => by simp [sameToken]
  | .group _ inner => by simp [sameToken, sameTokens_self inner]

theorem sameTokens_self : ∀ tokens : Tokens, sameTokens tokens tokens = true
  | [] => rfl
  | token :: rest => by simp [sameTokens, sameToken_self token, sameTokens_self rest]

end

/-- What is left behind tokens that are expected to come first, groups among them. -/
def behind? : Tokens → Tokens → Option Tokens
  | [], tokens => some tokens
  | token :: expected, found :: tokens =>
    if sameToken token found then behind? expected tokens else none
  | _ :: _, [] => none

@[simp] theorem behind?_nil (tokens : Tokens) : behind? [] tokens = some tokens := rfl

@[simp] theorem behind?_cons (token : Token) (expected tokens : Tokens) :
    behind? (token :: expected) (token :: tokens) = behind? expected tokens := by
  simp [behind?, sameToken_self]

@[simp] theorem behind?_append (expected rest : Tokens) :
    behind? expected (expected ++ rest) = some rest := by
  induction expected with
  | nil => rfl
  | cons token expected ih => simpa using ih

@[simp] theorem behind?_self (expected : Tokens) : behind? expected expected = some [] := by
  simpa using behind?_append expected []

/-- Tokens that are expected one behind the other. -/
@[simp] theorem behind?_of_append (first second tokens : Tokens) :
    behind? (first ++ second) tokens = (behind? first tokens).bind (behind? second) := by
  induction first generalizing tokens with
  | nil => rfl
  | cons token first ih =>
    cases tokens with
    | nil => rfl
    | cons found tokens =>
      by_cases same : sameToken token found = true
      · simpa [behind?, same] using ih tokens
      · simp [behind?, same]

/-- The body of the function that stands first, and what is behind it. -/
def bodyOf? : Tokens → Option (Tokens × Tokens)
  | [] => none
  | .group .brace inner :: rest => some (inner, rest)
  | _ :: rest => bodyOf? rest

/-- Whether a token tree stands between braces. -/
def isBraced : Token → Bool
  | .group .brace _ => true
  | _ => false

theorem bodyOf?_append (signature : Tokens) (plain : signature.any isBraced = false)
    (inner rest : Tokens) :
    bodyOf? (signature ++ .group .brace inner :: rest) = some (inner, rest) := by
  induction signature with
  | nil => rfl
  | cons token signature ih =>
    rw [List.any_cons, Bool.or_eq_false_iff] at plain
    rw [List.cons_append, bodyOf?, ih plain.2]
    intro held same
    rw [same] at plain
    cases plain.1

theorem isBraced_of_isPlain {tokens : Tokens} (plain : tokens.all isPlain = true) :
    tokens.any isBraced = false := by
  rw [List.any_eq_false]
  intro token member
  have here := List.all_eq_true.mp plain token member
  cases token with
  | group delimiter inner => cases here
  | _ => exact Bool.false_ne_true

/-- What stands behind a documentation comment. -/
def skipDoc : Tokens → Tokens
  | .punct '#' _ :: .group .bracket _ :: rest => rest
  | tokens => tokens

/-! ### Rows -/

def isComma : Token → Bool
  | .punct char _ => char == ','
  | _ => false

/-- The items of a row, with commas between or behind them. -/
def rowItems (tokens : Tokens) : List Tokens :=
  (tokens.splitOnP isComma).filter fun item => !item.isEmpty

/-- An item of a row: some tokens, none of them a comma. -/
def IsItem (item : Tokens) : Prop := item ≠ [] ∧ ∀ token ∈ item, isComma token = false

theorem rowItems_cons {item : Tokens} (plain : IsItem item) (rest : Tokens) :
    rowItems (item ++ .punct ',' false :: rest) = item :: rowItems rest := by
  rw [rowItems, List.splitOnP_append_cons _ _ (by rfl), List.splitOnP_eq_singleton plain.2]
  simp [rowItems, plain.1]

theorem rowItems_single {item : Tokens} (plain : IsItem item) : rowItems item = [item] := by
  rw [rowItems, List.splitOnP_eq_singleton plain.2]
  simp [plain.1]

theorem rowItems_commaSeparated {items : List Tokens} (plain : ∀ item ∈ items, IsItem item) :
    rowItems (Token.commaSeparated items) = items := by
  induction items with
  | nil => rfl
  | cons item rest ih =>
    have here := plain item (by simp)
    have behind := ih fun other later => plain other (List.mem_cons_of_mem _ later)
    cases rest with
    | nil => exact rowItems_single here
    | cons next rest => rw [Token.commaSeparated, rowItems_cons here, behind]; simp

theorem rowItems_flatMap {α : Type} (item : α → Tokens) (held : List α)
    (plain : ∀ one ∈ held, IsItem (item one)) (rest : Tokens) :
    rowItems (held.flatMap (fun one => item one ++ [.punct ',' false]) ++ rest) =
      held.map item ++ rowItems rest := by
  induction held with
  | nil => rfl
  | cons one held ih =>
    have here := plain one (by simp)
    have behind := ih fun other later => plain other (List.mem_cons_of_mem _ later)
    simp only [List.flatMap_cons, List.append_assoc, List.cons_append, List.nil_append,
      rowItems_cons here, behind, List.map_cons]

/-! ### Reading the code of an enumeration -/

/-- The name of a variant of the enumeration at hand, whether it is written raw or not. -/
def readVariant? (tokens : Tokens) : Option (String × Tokens) := do
  match ← behind? (Token.phrase "Self ::") tokens with
  | .ident name :: rest => return (name.text, rest)
  | _ => none

/-- An entry `(Self :: Name , "text")` of the table. -/
def readRow? : Tokens → Option (String × String)
  | [.group .paren inner] => do
    match ← readVariant? inner with
    | (variant, [.punct ',' false, text]) => return (variant, ← text.stringValue?)
    | _ => none
  | _ => none

/-- An arm `Self :: Name => "text"`. -/
def readAliasArm? (tokens : Tokens) : Option (String × String) := do
  let (variant, rest) ← readVariant? tokens
  match ← behind? (Token.phrase "=>") rest with
  | [text] => return (variant, ← text.stringValue?)
  | _ => none

/-- An arm of the look-up by alias: the text that it is for, or all texts, and the variant that it
gives, if any. -/
structure Arm where
  text : Option String
  variant : Option String

/-- An arm `"text" => Some (Self :: Name)`, or `_ => None`. -/
def readVariantArm? : Tokens → Option Arm
  | .literal text :: rest => do
    match ← behind? (Token.phrase "=> :: core :: option :: Option :: Some") rest with
    | [.group .paren inner] =>
      match ← readVariant? inner with
      | (variant, []) => return ⟨some (← (Token.literal text).stringValue?), some variant⟩
      | _ => none
    | _ => none
  | .ident name :: rest => do
    match ← behind? (Token.phrase "=> :: core :: option :: Option :: None") rest with
    | [] => if name = .plain "_" then return ⟨none, none⟩ else none
    | _ => none
  | _ => none

/-- A value of the list of texts that a refusal names. -/
def readText? : Tokens → Option String
  | [text] => text.stringValue?
  | _ => none

/-- The constant with the table. -/
def readTable? (tokens : Tokens) : Option (AliasTable String × Tokens) := do
  let kind := [.bracket [.paren (Token.phrase "Self , & 'static str")]]
  match ← behind? (Token.phrase "pub const ALIASES : & 'static" ++ kind ++ Token.phrase "= &")
      (skipDoc tokens) with
  | .group .bracket inner :: .punct ';' false :: rest =>
    return (← (rowItems inner).mapM readRow?, rest)
  | _ => none

/-- The arms of a function that is one `match` on the value. -/
def readMatch? (name value : String) (tokens : Tokens) : Option (List Tokens × Tokens) := do
  let (body, rest) ← bodyOf? (← behind? (Token.phrase ("pub fn " ++ name)) (skipDoc tokens))
  match ← behind? (Token.phrase ("match " ++ value)) body with
  | [.group .brace arms] => return (rowItems arms, rest)
  | _ => none

/-- Checks that a variant is written as the text that its alias is. -/
def readSerialize? (runtime name : Ident) (tokens : Tokens) : Option Tokens := do
  match ← behind? ([.word "impl"] ++ pathOf runtime "serde :: Serialize for" ++ [.ident name])
      tokens with
  | .group .brace inner :: rest =>
    let (body, _) ← bodyOf? (← behind? (Token.phrase "fn serialize") inner)
    match ← behind? (Token.phrase "serializer . serialize_str" ++
        [.paren (Token.phrase "self . alias" ++ [.paren []])]) body with
    | [] => return rest
    | _ => none
  | _ => none

/-- The texts that are named where a text is the alias of no variant. -/
def readRefusal? (runtime : Ident) (tokens : Tokens) : Option (List String) := do
  match ← behind? (Token.phrase "< D :: Error as" ++ pathOf runtime "serde :: de :: Error >" ++
      Token.phrase ":: unknown_variant") tokens with
  | [.group .paren inner] =>
    match ← behind? (Token.phrase "& alias , &") inner with
    | [.group .bracket texts] => (rowItems texts).mapM readText?
    | _ => none
  | _ => none

/-- Checks that a text is read and looked up, and gives the texts that are named where it is the
alias of no variant. -/
def readDeserialize? (runtime name : Ident) (tokens : Tokens) : Option (List String × Tokens) := do
  match ← behind? (Token.phrase "impl < 'de >" ++
      pathOf runtime "serde :: Deserialize < 'de > for" ++ [.ident name]) tokens with
  | .group .brace inner :: rest =>
    let (body, _) ← bodyOf? (← behind? (Token.phrase "fn deserialize") inner)
    match ← behind? (Token.phrase "let alias = < :: std :: string :: String as" ++
        pathOf runtime "serde :: Deserialize > :: deserialize" ++
        [.paren (Token.phrase "deserializer")] ++ Token.phrase "? ;" ++
        Token.phrase "Self :: from_alias" ++ [.paren (Token.phrase "& alias")] ++
        Token.phrase ". ok_or_else") body with
    | [.group .paren closure] =>
      match ← behind? (Token.phrase "||") closure with
      | [.group .brace refusal] => return (← readRefusal? runtime refusal, rest)
      | _ => none
    | _ => none
  | _ => none

/-- What the code of an enumeration holds: the constant table, the arms of the two look-ups, and
the texts that a refusal names. Variants go by their names. -/
structure Coding where
  entries : AliasTable String
  aliasArms : AliasTable String
  variantArms : List Arm
  choices : List String

/-- Reads the code of the enumeration with the name. -/
def Coding.read? (runtime name : Ident) (tokens : Tokens) : Option (Coding × Tokens) := do
  match ← behind? [.word "impl", .ident name] tokens with
  | .group .brace inner :: rest =>
    let (entries, inner) ← readTable? inner
    let (aliasArms, inner) ← readMatch? "alias" "* self" inner
    let (variantArms, inner) ← readMatch? "from_alias" "alias" inner
    if !inner.isEmpty then failure
    let rest ← readSerialize? runtime name rest
    let (choices, rest) ← readDeserialize? runtime name rest
    return (⟨entries, ← aliasArms.mapM readAliasArm?, ← variantArms.mapM readVariantArm?, choices⟩,
      rest)
  | _ => none

/-! ### Round trip -/

/-- The entry of a table by the name of its variant. -/
def shown (entry : Ident × String) : String × String := (entry.1.text, entry.2)

/-- The arm that gives an alias its variant. -/
def armOf (entry : Ident × String) : Arm := ⟨some entry.2, some entry.1.text⟩

theorem readVariant?_tokens (name : Ident) (rest : Tokens) :
    readVariant? (variantTokens name ++ rest) = some (name.text, rest) := by
  simp [readVariant?, variantTokens]

theorem isComma_variantTokens (name : Ident) :
    ∀ token ∈ variantTokens name, isComma token = false := by
  have word : Token.phrase "Self ::" =
      [.ident (.plain "Self"), .punct ':' true, .punct ':' false] := rfl
  simp [variantTokens, word, isComma]

/-- The tokens of an entry. -/
def entryTokens (entry : Ident × String) : Tokens :=
  [.paren (variantTokens entry.1 ++ [.punct ',' false, Token.string entry.2])]

theorem readRow?_tokens (entry : Ident × String) :
    readRow? (entryTokens entry) = some (shown entry) := by
  simp [readRow?, entryTokens, Token.paren, readVariant?_tokens, stringValue?_string, shown]

/-- The arm that gives a variant its alias, without the comma behind it. -/
def aliasArm (entry : Ident × String) : Tokens :=
  variantTokens entry.1 ++ Token.phrase "=>" ++ [Token.string entry.2]

theorem readAliasArm?_tokens (entry : Ident × String) :
    readAliasArm? (aliasArm entry) = some (shown entry) := by
  simp [readAliasArm?, aliasArm, readVariant?_tokens, stringValue?_string, shown]

theorem aliasArm_isItem (entry : Ident × String) : IsItem (aliasArm entry) := by
  have arrow : Token.phrase "=>" = [.punct '=' true, .punct '>' false] := rfl
  refine ⟨by simp [aliasArm], ?_⟩
  intro token member
  simp only [aliasArm, arrow, List.mem_append, List.mem_cons, List.not_mem_nil, or_false] at member
  rcases member with (inside | rfl | rfl) | rfl
  · exact isComma_variantTokens entry.1 token inside
  · rfl
  · rfl
  · rfl

/-- The arm that gives an alias its variant, without the comma behind it. -/
def variantArm (entry : Ident × String) : Tokens :=
  Token.string entry.2 :: (Token.phrase "=> :: core :: option :: Option :: Some" ++
    [.paren (variantTokens entry.1)])

theorem readVariantArm?_tokens (entry : Ident × String) :
    readVariantArm? (variantArm entry) = some (armOf entry) := by
  have variant := readVariant?_tokens entry.1 []
  rw [List.append_nil] at variant
  have text := stringValue?_string entry.2
  simp only [Token.string] at text
  simp [readVariantArm?, variantArm, Token.string, Token.paren, variant, text, armOf]

theorem variantArm_isItem (entry : Ident × String) : IsItem (variantArm entry) := by
  refine ⟨by simp [variantArm], ?_⟩
  have plain : ∀ token ∈ Token.phrase "=> :: core :: option :: Option :: Some",
      isComma token = false := by decide
  intro token member
  simp only [variantArm, List.mem_cons, List.mem_append, List.not_mem_nil, or_false] at member
  rcases member with rfl | inside | rfl
  · rfl
  · exact plain token inside
  · rfl

/-- The arm for every other text. -/
def otherArm : Tokens := .word "_" :: Token.phrase "=> :: core :: option :: Option :: None"

theorem otherArm_isItem : IsItem otherArm := ⟨List.cons_ne_nil _ _, by decide⟩

theorem readVariantArm?_other : readVariantArm? otherArm = some ⟨none, none⟩ := by
  simp [readVariantArm?, otherArm, Token.word]

theorem rowItems_tableTokens (table : AliasTable Ident) :
    rowItems (tableTokens table) = table.map entryTokens := by
  refine rowItems_commaSeparated ?_
  intro item member
  obtain ⟨entry, _, rfl⟩ := List.mem_map.mp member
  exact ⟨by simp, by simp [Token.paren, isComma]⟩

theorem rowItems_aliasArms (table : AliasTable Ident) :
    rowItems (aliasArms table) = table.map aliasArm := by
  have split := rowItems_flatMap aliasArm table
    (fun entry _ => aliasArm_isItem entry) []
  have none : rowItems [] = [] := rfl
  rw [List.append_nil, none, List.append_nil] at split
  rw [← split]
  simp [aliasArms, aliasArm]

theorem rowItems_variantArms (table : AliasTable Ident) :
    rowItems (variantArms table) = table.map variantArm ++ [otherArm] := by
  have split := rowItems_flatMap variantArm table
    (fun entry _ => variantArm_isItem entry) (otherArm ++ [.punct ',' false])
  have last : rowItems (otherArm ++ [.punct ',' false]) = [otherArm] :=
    rowItems_cons otherArm_isItem []
  rw [last] at split
  rw [← split]
  have ended : Token.phrase "_ => :: core :: option :: Option :: None ," =
      otherArm ++ [.punct ',' false] := rfl
  simp [variantArms, variantArm, ended]

theorem rowItems_choices (table : AliasTable Ident) :
    rowItems (Token.commaSeparated (table.map fun entry => [Token.string entry.2])) =
      table.map fun entry => [Token.string entry.2] := by
  refine rowItems_commaSeparated ?_
  intro item member
  obtain ⟨entry, _, rfl⟩ := List.mem_map.mp member
  exact ⟨by simp, by simp [Token.string, isComma]⟩

/-- The constant with the table, as it is emitted. -/
def tablePart (table : AliasTable Ident) : Tokens :=
  rawDocTokens " Every variant with its wire name, in declaration order." ++
    Token.phrase "pub const ALIASES : & 'static" ++
    [.bracket [.paren (Token.phrase "Self , & 'static str")]] ++ Token.phrase "= &" ++
    [.bracket (tableTokens table), .punct ';' false]

theorem readTable?_tokens (table : AliasTable Ident) (rest : Tokens) :
    readTable? (tablePart table ++ rest) = some (table.map shown, rest) := by
  have entries := mapM_map_eq_some readRow?_tokens table
  simp [readTable?, tablePart, rawDocTokens, attributeTokens, Token.bracket, skipDoc,
    rowItems_tableTokens, entries]

/-- The look-up of the alias of a variant, as it is emitted. -/
def aliasPart (table : AliasTable Ident) : Tokens :=
  rawDocTokens " The wire name of this variant." ++ Token.phrase "pub fn alias" ++
    [.paren (Token.phrase "& self")] ++ Token.phrase "-> & 'static str" ++
    [.brace (Token.phrase "match * self" ++ [.brace (aliasArms table)])]

theorem readMatch?_aliasPart (table : AliasTable Ident) (rest : Tokens) :
    readMatch? "alias" "* self" (aliasPart table ++ rest) = some (table.map aliasArm, rest) := by
  have body := bodyOf?_append
    ([.paren (Token.phrase "& self")] ++ Token.phrase "-> & 'static str") (by decide)
    (Token.phrase "match * self" ++ [.brace (aliasArms table)]) rest
  simp only [List.cons_append, List.nil_append, Token.brace] at body
  simp [readMatch?, aliasPart, rawDocTokens, attributeTokens, Token.bracket, Token.brace,
    skipDoc, body, rowItems_aliasArms]

/-- The look-up of the variant of an alias, as it is emitted. -/
def variantPart (table : AliasTable Ident) : Tokens :=
  rawDocTokens " Looks up a variant by its wire name. Matching is exact." ++
    Token.phrase "pub fn from_alias" ++ [.paren (Token.phrase "alias : & str")] ++
    Token.phrase "-> :: core :: option :: Option < Self >" ++
    [.brace (Token.phrase "match alias" ++ [.brace (variantArms table)])]

theorem readMatch?_variantPart (table : AliasTable Ident) (rest : Tokens) :
    readMatch? "from_alias" "alias" (variantPart table ++ rest) =
      some (table.map variantArm ++ [otherArm], rest) := by
  have body := bodyOf?_append
    ([.paren (Token.phrase "alias : & str")] ++
      Token.phrase "-> :: core :: option :: Option < Self >") (by decide)
    (Token.phrase "match alias" ++ [.brace (variantArms table)]) rest
  simp only [List.cons_append, List.nil_append, Token.brace] at body
  simp [readMatch?, variantPart, rawDocTokens, attributeTokens, Token.bracket, Token.brace,
    skipDoc, body, rowItems_variantArms]

theorem lookupTokens_eq (name : Ident) (table : AliasTable Ident) :
    lookupTokens name table =
      [.word "impl", .ident name,
        .brace (tablePart table ++ (aliasPart table ++ variantPart table))] := by
  simp [lookupTokens, tablePart, aliasPart, variantPart]

theorem readSerialize?_tokens (context : Context) (name : Ident) (rest : Tokens) :
    readSerialize? context.runtime name (serializeTokens context name ++ rest) = some rest := by
  have plain : (Token.phrase "< S >" ++ [Token.paren (Token.phrase "& self , serializer : S")] ++
      Token.phrase "-> :: core :: result :: Result < S :: Ok , S :: Error > where S :" ++
      pathOf context.runtime "serde :: Serializer ,").any isBraced = false := by
    rw [List.any_append, isBraced_of_isPlain (pathOf_plain _ _ (by decide))]
    decide
  have body := bodyOf?_append _ plain (Token.phrase "serializer . serialize_str" ++
    [.paren (Token.phrase "self . alias" ++ [.paren []])]) []
  simp only [List.append_assoc, List.cons_append, List.nil_append] at body
  have generic : Token.phrase "fn serialize < S >" =
      Token.phrase "fn serialize" ++ Token.phrase "< S >" := rfl
  simp [readSerialize?, serializeTokens, path_eq, Token.brace, generic, body]

theorem readRefusal?_tokens (context : Context) (table : AliasTable Ident) :
    readRefusal? context.runtime (Token.phrase "< D :: Error as" ++
        (pathOf context.runtime "serde :: de :: Error >" ++ (Token.phrase ":: unknown_variant" ++
          [.paren (Token.phrase "& alias , &" ++
            [.bracket (Token.commaSeparated (table.map fun entry => [Token.string entry.2]))])]))) =
      some (table.map Prod.snd) := by
  have text : ∀ entry : Ident × String, readText? [Token.string entry.2] = some entry.2 :=
    fun entry => stringValue?_string entry.2
  have texts := mapM_map_eq_some text table
  simp [readRefusal?, Token.paren, Token.bracket, rowItems_choices, texts]

theorem readDeserialize?_tokens (context : Context) (name : Ident) (table : AliasTable Ident)
    (rest : Tokens) :
    readDeserialize? context.runtime name (deserializeTokens context name table ++ rest) =
      some (table.map Prod.snd, rest) := by
  have plain : (Token.phrase "< D >" ++ [Token.paren (Token.phrase "deserializer : D")] ++
      Token.phrase "-> :: core :: result :: Result < Self , D :: Error > where D :" ++
      pathOf context.runtime "serde :: Deserializer < 'de > ,").any isBraced = false := by
    rw [List.any_append, isBraced_of_isPlain (pathOf_plain _ _ (by decide))]
    decide
  have generic : Token.phrase "fn deserialize < D >" =
      Token.phrase "fn deserialize" ++ Token.phrase "< D >" := rfl
  have body := fun inner => bodyOf?_append _ plain inner []
  simp only [List.append_assoc, List.cons_append, List.nil_append] at body
  simp only [readDeserialize?, deserializeTokens, path_eq, generic, Token.brace,
    List.append_assoc, List.cons_append, List.nil_append]
  simp only [behind?_of_append, behind?_append, behind?_cons, behind?_nil, Option.bind_some,
    Option.bind_eq_bind, body]
  have refusal := readRefusal?_tokens context table
  simp only [Token.paren] at refusal
  simp only [Token.paren, Option.bind_some, behind?_append]
  rw [refusal]
  rfl

/-- What the code of an enumeration with the table holds. -/
def Coding.ofTable (table : AliasTable Ident) : Coding :=
  ⟨table.map shown, table.map shown, table.map armOf ++ [⟨none, none⟩], table.map Prod.snd⟩

/-- The code of an enumeration is read back to its table. -/
theorem Coding.read?_tokens (context : Context) (enumeration : Enumeration) :
    Coding.read? context.runtime enumeration.name (serializerTokens context enumeration) =
      some (.ofTable enumeration.table, queryValueTokens context enumeration.name) := by
  have aliases := mapM_map_eq_some readAliasArm?_tokens enumeration.table
  have variants : (enumeration.table.map variantArm ++ [otherArm]).mapM readVariantArm? =
      some (enumeration.table.map armOf ++ [⟨none, none⟩]) := by
    simp [List.mapM_append, mapM_map_eq_some readVariantArm?_tokens, readVariantArm?_other]
  have last := readMatch?_variantPart enumeration.table []
  rw [List.append_nil] at last
  simp only [read?, serializerTokens, lookupTokens_eq, List.append_assoc, List.cons_append,
    List.nil_append, behind?_cons, behind?_nil, Token.brace, Option.bind_eq_bind, Option.bind_some,
    readTable?_tokens, readMatch?_aliasPart, last, List.isEmpty_nil, Bool.not_true,
    Bool.false_eq_true, if_false, readSerialize?_tokens, readDeserialize?_tokens, aliases, variants]
  rfl

end Endpoint.Emission
