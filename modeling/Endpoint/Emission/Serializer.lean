import Endpoint.Alias
import Endpoint.Emission.Client

/-!
The code of an enumeration: its table of aliases, the look-ups in both directions, and the
implementations of the traits that read and write it.
-/

namespace Endpoint

/-- The table of an enumeration: every variant with its alias, in order. -/
def Enumeration.table (enumeration : Enumeration) : AliasTable Source.Ident :=
  enumeration.members.map fun member => (member.variant, member.wireName)

namespace Emission

open Source (Ident Token Tokens)

/-- A variant of the enumeration at hand. -/
def variantTokens (name : Ident) : Tokens := Token.phrase "Self ::" ++ [.ident name]

/-- The entries of the table. -/
def tableTokens (table : AliasTable Ident) : Tokens :=
  Token.commaSeparated (table.map fun (name, text) =>
    [.paren (variantTokens name ++ [.punct ',' false, Token.string text])])

/-- The arms that give each variant its alias. -/
def aliasArms (table : AliasTable Ident) : Tokens :=
  table.flatMap fun (name, text) =>
    variantTokens name ++ Token.phrase "=>" ++ [Token.string text, .punct ',' false]

/-- The arms that give each alias its variant. -/
def variantArms (table : AliasTable Ident) : Tokens :=
  (table.flatMap fun (name, text) =>
    Token.string text :: (Token.phrase "=> :: core :: option :: Option :: Some" ++
      [.paren (variantTokens name), .punct ',' false])) ++
    Token.phrase "_ => :: core :: option :: Option :: None ,"

/-- The table as a constant, and the look-ups. -/
def lookupTokens (name : Ident) (table : AliasTable Ident) : Tokens :=
  [.word "impl", .ident name,
    .brace (rawDocTokens " Every variant with its wire name, in declaration order." ++
      Token.phrase "pub const ALIASES : & 'static" ++
      [.bracket [.paren (Token.phrase "Self , & 'static str")]] ++ Token.phrase "= &" ++
      [.bracket (tableTokens table), .punct ';' false] ++
      rawDocTokens " The wire name of this variant." ++
      Token.phrase "pub fn alias" ++ [.paren (Token.phrase "& self")] ++
      Token.phrase "-> & 'static str" ++
      [.brace (Token.phrase "match * self" ++ [.brace (aliasArms table)])] ++
      rawDocTokens " Looks up a variant by its wire name. Matching is exact." ++
      Token.phrase "pub fn from_alias" ++ [.paren (Token.phrase "alias : & str")] ++
      Token.phrase "-> :: core :: option :: Option < Self >" ++
      [.brace (Token.phrase "match alias" ++ [.brace (variantArms table)])])]

/-- Writing a variant as its alias. -/
def serializeTokens (context : Context) (name : Ident) : Tokens :=
  [.word "impl"] ++ context.path "serde :: Serialize for" ++
    [.ident name,
      .brace (Token.phrase "fn serialize < S >" ++
        [.paren (Token.phrase "& self , serializer : S")] ++
        Token.phrase "-> :: core :: result :: Result < S :: Ok , S :: Error > where S :" ++
        context.path "serde :: Serializer ," ++
        [.brace (Token.phrase "serializer . serialize_str" ++
          [.paren (Token.phrase "self . alias" ++ [.paren []])])])]

/-- Reading a variant from its alias. -/
def deserializeTokens (context : Context) (name : Ident) (table : AliasTable Ident) : Tokens :=
  let refusal : Tokens :=
    Token.phrase "< D :: Error as" ++ context.path "serde :: de :: Error >" ++
      Token.phrase ":: unknown_variant" ++
      [.paren (Token.phrase "& alias , &" ++
        [.bracket (Token.commaSeparated (table.map fun entry => [Token.string entry.2]))])]
  Token.phrase "impl < 'de >" ++ context.path "serde :: Deserialize < 'de > for" ++
    [.ident name,
      .brace (Token.phrase "fn deserialize < D >" ++
        [.paren (Token.phrase "deserializer : D")] ++
        Token.phrase "-> :: core :: result :: Result < Self , D :: Error > where D :" ++
        context.path "serde :: Deserializer < 'de > ," ++
        [.brace (Token.phrase "let alias = < :: std :: string :: String as" ++
          context.path "serde :: Deserialize > :: deserialize" ++
          [.paren (Token.phrase "deserializer")] ++ Token.phrase "? ;" ++
          Token.phrase "Self :: from_alias" ++ [.paren (Token.phrase "& alias")] ++
          Token.phrase ". ok_or_else" ++
          [.paren (Token.phrase "||" ++ [.brace refusal])])])]

/-- Writing a variant into a query. -/
def queryValueTokens (context : Context) (name : Ident) : Tokens :=
  [.word "impl"] ++ context.path "QueryValue for" ++
    [.ident name,
      .brace (Token.phrase "fn to_query" ++ [.paren (Token.phrase "& self")] ++
        Token.phrase "-> :: core :: option :: Option < :: std :: string :: String >" ++
        [.brace (Token.phrase ":: core :: option :: Option :: Some" ++
          [.paren (Token.phrase ":: std :: string :: String :: from" ++
            [.paren (Token.phrase "self . alias" ++ [.paren []])])])] ++
        Token.phrase "fn is_default" ++ [.paren (Token.phrase "& self")] ++
        Token.phrase "-> bool" ++ [.brace (Token.phrase "false")])]

/-- All that is emitted for an enumeration. -/
def serializerTokens (context : Context) (enumeration : Enumeration) : Tokens :=
  let table := enumeration.table
  lookupTokens enumeration.name table ++ serializeTokens context enumeration.name ++
    deserializeTokens context enumeration.name table ++
    queryValueTokens context enumeration.name

end Emission

end Endpoint
