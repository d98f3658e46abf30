import Endpoint.Emission.Method

/-!
The code of a client: its struct, its constructors, and its implementation of the trait.
-/

namespace Endpoint.Emission

open Source (Ident Token Tokens)

/-- An attribute. -/
def attributeTokens (inner : Tokens) : Tokens := [.punct '#' false, .bracket inner]

/-- A documentation comment. -/
def docTokens (text : String) : Tokens :=
  attributeTokens (Token.phrase "doc =" ++ [Token.string text])

/-- A documentation comment in a raw literal, for text that is the same in all clients. -/
def rawDocTokens (text : String) : Tokens :=
  attributeTokens (Token.phrase "doc =" ++ [.literal ("r\"" ++ text ++ "\"")])

/-- The parameters `T : Transport` and, if asked for, `C : Codec`. -/
def boundTokens (context : Context) (withCodec : Bool) : Tokens :=
  Token.phrase "< T :" ++ context.path "Transport" ++
    (if withCodec then Token.phrase ", C :" ++ context.path "Codec" else []) ++
    [.punct '>' false]

/-- A body that builds the client by a constructor of its core. -/
def constructorBody (context : Context) (call : String) (arguments : String) : Token :=
  .brace (Token.phrase "Self" ++
    [.brace (Token.phrase "core :" ++ context.path ("ClientCore :: " ++ call) ++
      [.paren (Token.phrase arguments), .punct ',' false])])

/-- The struct of a client. -/
def structTokens (context : Context) (client : ClientDefinition) : Tokens :=
  docTokens (" HTTP client for [" ++ "`" ++ client.trait.written ++ "`].") ++
    attributeTokens (Token.phrase "derive" ++ [.paren (Token.phrase "Debug , Clone")]) ++
    client.visibility.tokens ++ [.word "struct", .ident client.name] ++
    Token.phrase "< T , C =" ++ context.path "JsonCodec >" ++
    [.brace (Token.phrase "core :" ++ context.path "ClientCore < T , C > ,")]

/-- The constructor with the default codec. -/
def newTokens (context : Context) (client : ClientDefinition) : Tokens :=
  [.word "impl"] ++ boundTokens context false ++ [.ident client.name] ++ Token.phrase "< T >" ++
    [.brace (docTokens (" Creates a `" ++ client.name.written ++
        "` that encodes bodies as JSON.") ++
      client.visibility.tokens ++ Token.phrase "fn new" ++
      [.paren (Token.phrase "transport : T")] ++ Token.phrase "-> Self" ++
      [constructorBody context "new" "transport"])]

/-- The constructor with a codec, and the accessor of the core. -/
def accessTokens (context : Context) (client : ClientDefinition) : Tokens :=
  [.word "impl"] ++ boundTokens context true ++ [.ident client.name] ++
    Token.phrase "< T , C >" ++
    [.brace (rawDocTokens " Creates a client with a custom codec." ++
      client.visibility.tokens ++ Token.phrase "fn with_codec" ++
      [.paren (Token.phrase "transport : T , codec : C")] ++ Token.phrase "-> Self" ++
      [constructorBody context "with_codec" "transport , codec"] ++
      rawDocTokens " The request core, for access to the transport and codec." ++
      client.visibility.tokens ++ Token.phrase "fn core" ++ [.paren (Token.phrase "& self")] ++
      Token.phrase "-> &" ++ context.path "ClientCore < T , C >" ++
      [.brace (Token.phrase "& self . core")])]

/-- The implementation of the trait. -/
def traitTokens (context : Context) (client : ClientDefinition) : Tokens :=
  Source.keywordIf client.isUnsafe "unsafe" ++ [.word "impl"] ++ boundTokens context true ++
    [.ident client.trait, .word "for", .ident client.name] ++ Token.phrase "< T , C >" ++
    [.brace (client.methods.flatMap (methodTokens context))]

/-- All that is emitted for a client. -/
def clientTokens (context : Context) (client : ClientDefinition) : Tokens :=
  structTokens context client ++ newTokens context client ++ accessTokens context client ++
    traitTokens context client

end Endpoint.Emission
