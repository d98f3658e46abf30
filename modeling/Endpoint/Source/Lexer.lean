import Endpoint.Source.Token
import Endpoint.Text.Identifier

/-!
Reading token trees from text. Each scanner takes the characters that are left and gives those
that remain after it, or nothing when the text does not begin with what it looks for.
-/

namespace Endpoint.Source.Lexer

open Endpoint.Text (isIdentifierStart isIdentifierContinue apostrophe)

/-- What remains after a fixed beginning. -/
def after (start : String) (cs : List Char) : Option (List Char) :=
  if start.toList.isPrefixOf cs then some (cs.drop start.length) else none

/-- Whether the characters begin with the text. -/
def begins (start : String) (cs : List Char) : Bool := start.toList.isPrefixOf cs

/-- Space, tabulator, line ends, and the Unicode characters with the property White_Space, with
the two direction marks. -/
def isBlank (c : Char) : Bool :=
  let n := c.toNat
  n == 32 || (9 ≤ n && n ≤ 13) || n == 0x85 || n == 0xa0 || n == 0x1680 ||
    (0x2000 ≤ n && n ≤ 0x200a) || n == 0x200e || n == 0x200f || n == 0x2028 || n == 0x2029 ||
    n == 0x202f || n == 0x205f || n == 0x3000

/-- The characters up to the end of the line, and the rest, in which a line feed is left but a
carriage return before it is not. -/
def lineEnd : List Char → List Char × List Char
  | [] => ([], [])
  | '\n' :: rest => ([], '\n' :: rest)
  | '\r' :: '\n' :: rest => ([], '\n' :: rest)
  | c :: rest => let (line, left) := lineEnd rest; (c :: line, left)

/-- Inside a block comment at the given depth: what it holds from here up to its end, and the
rest. Block comments nest. -/
def blockBody : Nat → List Char → Option (List Char × List Char)
  | _, [] => none
  | depth, '/' :: '*' :: rest =>
    (blockBody (depth + 1) rest).map fun (body, left) => ('/' :: '*' :: body, left)
  | 0, '*' :: '/' :: rest => some ([], rest)
  | depth + 1, '*' :: '/' :: rest =>
    (blockBody depth rest).map fun (body, left) => ('*' :: '/' :: body, left)
  | depth, c :: rest => (blockBody depth rest).map fun (body, left) => (c :: body, left)

/-- A block comment: what stands between its ends, and the rest. -/
def blockComment (cs : List Char) : Option (List Char × List Char) := do
  blockBody 0 (← after "/*" cs)

/-- The characters after blanks and comments that are not documentation. -/
def skipBlanks : Nat → List Char → List Char
  | 0, cs => cs
  | fuel + 1, cs =>
    if begins "//" cs && (!begins "///" cs || begins "////" cs) && !begins "//!" cs then
      skipBlanks fuel (lineEnd cs).2
    else if begins "/**/" cs then skipBlanks fuel (cs.drop 4)
    else if begins "/*" cs && (!begins "/**" cs || begins "/***" cs) && !begins "/*!" cs then
      match blockComment cs with
      | some (_, rest) => skipBlanks fuel rest
      | none => cs
    else
      match cs with
      | c :: rest => if isBlank c then skipBlanks fuel rest else cs
      | [] => []

/-- Whether every carriage return is followed by a line feed. -/
def returnsPaired : List Char → Bool
  | [] => true
  | '\r' :: '\n' :: rest => returnsPaired rest
  | '\r' :: _ => false
  | _ :: rest => returnsPaired rest

/-- A documentation comment: whether it documents what encloses it, its text, and the rest. -/
def docComment (cs : List Char) : Option (Bool × List Char × List Char) := do
  let (inner, body, rest) ←
    if begins "//!" cs then
      let (line, rest) := lineEnd (cs.drop 3)
      some (true, line, rest)
    else if begins "/*!" cs then
      let (body, rest) ← blockComment cs
      some (true, body.drop 1, rest)
    else if begins "///" cs && !begins "////" cs then
      let (line, rest) := lineEnd (cs.drop 3)
      some (false, line, rest)
    else if begins "/**" cs && !begins "/***" cs then
      let (body, rest) ← blockComment cs
      some (false, body.drop 1, rest)
    else none
  if returnsPaired body then some (inner, body, rest) else none

/-- The attribute that a documentation comment stands for. -/
def docTokens (inner : Bool) (body : List Char) : Tokens :=
  [.punct '#' false] ++ (if inner then [.punct '!' false] else []) ++
    [.bracket [.word "doc", .punct '=' false, .string (String.ofList body)]]

/-! ### Identifiers -/

/-- An identifier or keyword without the raw mark. -/
def name : List Char → Option (String × List Char)
  | c :: rest =>
    if isIdentifierStart c then
      some (String.ofList (c :: rest.takeWhile isIdentifierContinue),
        rest.dropWhile isIdentifierContinue)
    else none
  | [] => none

/-- Words that cannot be raw identifiers. -/
def neverRaw : List String := ["_", "super", "self", "Self", "crate"]

/-- An identifier, raw or not. -/
def anyIdent (cs : List Char) : Option (Ident × List Char) :=
  match after "r#" cs with
  | some rest => do
    let (text, left) ← name rest
    if neverRaw.contains text then none else some (⟨text, true⟩, left)
  | none => do
    let (text, left) ← name cs
    some (⟨text, false⟩, left)

/-- Beginnings that open a literal, so no identifier may be read there. -/
def literalOpenings : List String :=
  ["r\"", "r#\"", "r##", "b\"", "b'", "br\"", "br#", "c\"", "cr\"", "cr#"]

/-- An identifier that is not the beginning of a literal. -/
def ident (cs : List Char) : Option (Ident × List Char) :=
  if literalOpenings.any (begins · cs) then none else anyIdent cs

/-! ### Literals -/

/-- What remains after the suffix of a literal, if there is one. -/
def afterSuffix (cs : List Char) : List Char :=
  match name cs with
  | some (_, rest) => rest
  | none => cs

def isHexDigit (c : Char) : Bool :=
  c.isDigit || ('a' ≤ c && c ≤ 'f') || ('A' ≤ c && c ≤ 'F')

def hexValue (c : Char) : Nat :=
  if c.isDigit then c.toNat - 48
  else if 'a' ≤ c then c.toNat - 87 else c.toNat - 55

/-- The braced number of a Unicode escape, after the brace: its value and the rest. -/
def unicodeEscape : Nat → Nat → List Char → Option (Nat × List Char)
  | digits, value, c :: rest =>
    if c == '_' && digits != 0 then unicodeEscape digits value rest
    else if c.toNat == 125 && digits != 0 then
      if value.isValidChar then some (value, rest) else none
    else if isHexDigit c && digits < 6 then
      unicodeEscape (digits + 1) (value * 16 + hexValue c) rest
    else none
  | _, _, [] => none

/-- A Unicode escape after `\u`. -/
def afterUnicode : List Char → Option (Nat × List Char)
  | c :: rest => if c.toNat == 123 then unicodeEscape 0 0 rest else none
  | [] => none

/-- A two-digit escape for a character, which is ASCII. -/
def afterHexChar : List Char → Option (List Char)
  | a :: b :: rest => if '0' ≤ a && a ≤ '7' && isHexDigit b then some rest else none
  | _ => none

/-- A two-digit escape for a byte. -/
def afterHexByte : List Char → Option (List Char)
  | a :: b :: rest => if isHexDigit a && isHexDigit b then some rest else none
  | _ => none

/-- The letters and signs that may follow a backslash alone. -/
def simpleEscapes : List Char := ['n', 'r', 't', '\\', apostrophe, '"', '0']

/-- What remains after the white space that a backslash at a line end skips. A carriage return
in it must be followed by a line feed, and something must follow. -/
def afterLineJoin : Bool → List Char → Option (List Char)
  | true, '\n' :: rest => afterLineJoin false rest
  | true, _ => none
  | false, c :: rest =>
    if c == ' ' || c == '\t' || c == '\n' then afterLineJoin false rest
    else if c == '\r' then afterLineJoin true rest
    else some (c :: rest)
  | false, [] => none

/-- Which escapes and characters a quoted literal admits. -/
structure QuotedForm where
  unicode : Bool
  asciiOnly : Bool
  byteEscapes : Bool
  noNull : Bool

/-- The form of `"text"`. -/
def textForm : QuotedForm := ⟨true, false, false, false⟩

/-- The form of `b"bytes"`. -/
def byteForm : QuotedForm := ⟨false, true, true, false⟩

/-- The form of `c"text"`, which holds no null. -/
def cForm : QuotedForm := ⟨true, false, true, true⟩

/-- What remains after the closing quote of a literal with escapes. -/
def afterCooked (form : QuotedForm) : Nat → List Char → Option (List Char)
  | 0, _ => none
  | _, [] => none
  | fuel + 1, c :: rest =>
    if c == '"' then some (afterSuffix rest)
    else if c == '\r' then
      match rest with
      | '\n' :: more => afterCooked form fuel more
      | _ => none
    else if c == '\\' then
      match rest with
      | 'x' :: more =>
        if form.noNull && begins "00" more then none
        else
          match (if form.byteEscapes then afterHexByte more else afterHexChar more) with
          | some left => afterCooked form fuel left
          | none => none
      | 'u' :: more =>
        if form.unicode then
          match afterUnicode more with
          | some (value, left) =>
            if form.noNull && value == 0 then none else afterCooked form fuel left
          | none => none
        else none
      | '\n' :: more => (afterLineJoin false more).bind (afterCooked form fuel)
      | '\r' :: more => (afterLineJoin true more).bind (afterCooked form fuel)
      | e :: more =>
        if form.noNull && e == '0' then none
        else if simpleEscapes.contains e then afterCooked form fuel more else none
      | [] => none
    else if form.asciiOnly && 128 ≤ c.toNat then none
    else if form.noNull && c.toNat == 0 then none
    else afterCooked form fuel rest

/-- What remains after the end of a raw literal closed by a quote and a number of `#`. -/
def afterRawBody (form : QuotedForm) (hashes : Nat) : List Char → Option (List Char)
  | [] => none
  | '"' :: rest =>
    if (List.replicate hashes '#').isPrefixOf rest then some (afterSuffix (rest.drop hashes))
    else afterRawBody form hashes rest
  | '\r' :: '\n' :: rest => afterRawBody form hashes rest
  | '\r' :: _ => none
  | c :: rest =>
    if (form.asciiOnly && 128 ≤ c.toNat) || (form.noNull && c.toNat == 0) then none
    else afterRawBody form hashes rest

/-- What remains after a raw literal, from its `#` signs on; at most 255 of them. -/
def afterRaw (form : QuotedForm) (cs : List Char) : Option (List Char) :=
  let hashes := (cs.takeWhile (· == '#')).length
  match cs.drop hashes with
  | '"' :: rest => if hashes ≤ 255 then afterRawBody form hashes rest else none
  | _ => none

/-- What remains after a literal in double quotes of any form. -/
def afterQuoted (cs : List Char) : Option (List Char) :=
  let fuel := cs.length + 1
  match cs with
  | '"' :: rest => afterCooked textForm fuel rest
  | 'r' :: rest => afterRaw textForm rest
  | 'b' :: '"' :: rest => afterCooked byteForm fuel rest
  | 'b' :: 'r' :: rest => afterRaw byteForm rest
  | 'c' :: '"' :: rest => afterCooked cForm fuel rest
  | 'c' :: 'r' :: rest => afterRaw cForm rest
  | _ => none

/-- What remains after the closing apostrophe and the suffix. -/
def afterApostrophe : List Char → Option (List Char)
  | c :: rest => if c == apostrophe then some (afterSuffix rest) else none
  | [] => none

/-- What remains after a byte literal such as `b'x'`. -/
def afterByte (cs : List Char) : Option (List Char) := do
  match ← after "b'" cs with
  | '\\' :: 'x' :: rest => afterApostrophe (← afterHexByte rest)
  | '\\' :: e :: rest => if simpleEscapes.contains e then afterApostrophe rest else none
  | c :: rest => if c.toNat < 128 then afterApostrophe rest else none
  | [] => none

/-- What remains after a character literal. -/
def afterCharacter (cs : List Char) : Option (List Char) := do
  match ← after "'" cs with
  | '\\' :: 'x' :: rest => afterApostrophe (← afterHexChar rest)
  | '\\' :: 'u' :: rest => afterApostrophe (← afterUnicode rest).2
  | '\\' :: e :: rest => if simpleEscapes.contains e then afterApostrophe rest else none
  | _ :: rest => afterApostrophe rest
  | [] => none

/-- What remains after the suffix of a number, at whose end no identifier may go on. -/
def afterNumber (cs : List Char) : Option (List Char) :=
  let rest :=
    match cs with
    | c :: _ => if isIdentifierStart c then afterSuffix cs else cs
    | [] => cs
  match rest with
  | c :: _ => if isIdentifierContinue c then none else some rest
  | [] => some rest

/-- The sign, digits and underscores of an exponent: whether it holds a digit, and the rest.
A second sign before the first digit makes it no exponent. -/
def exponent : Bool → Bool → List Char → Option (List Char)
  | signed, valued, c :: rest =>
    if c == '+' || c == '-' then
      if valued then some (c :: rest)
      else if signed then none else exponent true false rest
    else if c.isDigit then exponent signed true rest
    else if c == '_' then exponent signed valued rest
    else if valued then some (c :: rest) else none
  | _, valued, [] => if valued then some [] else none

/-- What remains after the digits of a number with a point or an exponent. -/
def floatDigits : Bool → List Char → Option (List Char)
  | dotted, c :: rest =>
    if c.isDigit || c == '_' then floatDigits dotted rest
    else if c == '.' then
      if dotted then some (c :: rest)
      else
        match rest with
        | d :: _ => if d == '.' || isIdentifierStart d then none else floatDigits true rest
        | [] => some []
    else if c == 'e' || c == 'E' then
      match exponent false false rest with
      | some left => some left
      | none => if dotted then some (c :: rest) else none
    else if dotted then some (c :: rest) else none
  | dotted, [] => if dotted then some [] else none

/-- What remains after a number with a point or an exponent. -/
def afterFloat : List Char → Option (List Char)
  | c :: rest => if c.isDigit then (floatDigits false rest).bind afterNumber else none
  | [] => none

/-- What remains after the digits of a whole number of the given base; at least one digit must
stand there, and in base ten no underscore may stand first. -/
def digits (base : Nat) : Bool → List Char → Option (List Char)
  | seen, c :: rest =>
    if c.isDigit then
      if base ≤ hexValue c then none else digits base true rest
    else if isHexDigit c then
      if base ≤ hexValue c then (if seen then some (c :: rest) else none)
      else digits base true rest
    else if c == '_' then
      if !seen && base == 10 then none else digits base seen rest
    else if seen then some (c :: rest) else none
  | seen, [] => if seen then some [] else none

/-- What remains after a whole number. -/
def afterInt (cs : List Char) : Option (List Char) :=
  let rest :=
    match cs with
    | '0' :: 'x' :: rest => digits 16 false rest
    | '0' :: 'o' :: rest => digits 8 false rest
    | '0' :: 'b' :: rest => digits 2 false rest
    | _ => digits 10 false cs
  rest.bind afterNumber

/-- What remains after a literal of any kind. -/
def afterLiteral (cs : List Char) : Option (List Char) :=
  afterQuoted cs <|> afterByte cs <|> afterCharacter cs <|> afterFloat cs <|> afterInt cs

/-! ### Punctuation -/

/-- The punctuation characters. -/
def punctuation : List Char :=
  ['~', '!', '@', '#', '$', '%', '^', '&', '*', '-', '=', '+', '|', ';', ':', ',', '<', '.',
    '>', '/', '?', apostrophe]

/-- A punctuation character; a slash that opens a comment is none. -/
def punctChar (cs : List Char) : Option (Char × List Char) :=
  if begins "//" cs || begins "/*" cs then none
  else
    match cs with
    | c :: rest => if punctuation.contains c then some (c, rest) else none
    | [] => none

/-- A punctuation token. An apostrophe must open a lifetime. -/
def punct (cs : List Char) : Option (Token × List Char) := do
  let (c, rest) ← punctChar cs
  if c == apostrophe then
    let (_, left) ← anyIdent rest
    if left.head? == some apostrophe then none
    else if left.head? == some '#' && !begins "r#" rest then none
    else some (.punct c true, rest)
  else some (.punct c (punctChar rest).isSome, rest)

/-! ### Trees -/

/-- A piece of the flat token row: an opened or closed group, or a token without parts. -/
inductive Lexeme
  | opens (delimiter : Delimiter)
  | closes (delimiter : Delimiter)
  | leaf (token : Token)

/-- A literal, punctuation character or identifier. -/
def leaf (cs : List Char) : Option (Token × List Char) :=
  match afterLiteral cs with
  | some rest => some (.literal (String.ofList (cs.take (cs.length - rest.length))), rest)
  | none =>
    match punct cs with
    | some found => some found
    | none => (ident cs).map fun (name, rest) => (.ident name, rest)

/-- The literal that stands for a token which could not be made; it is written as brackets around
a comment, and is one token all the same. -/
def failedLiteral : String := "(/*ERROR*/)"

/-- The delimiter that the character opens. -/
def opening (c : Char) : Option Delimiter :=
  if c == '(' then some .paren
  else if c == '[' then some .bracket
  else if c.toNat == 123 then some .brace else none

/-- The delimiter that the character closes. -/
def closing (c : Char) : Option Delimiter :=
  if c == ')' then some .paren
  else if c == ']' then some .bracket
  else if c.toNat == 125 then some .brace else none

/-- The pieces of the text, or nothing if some character begins none. -/
def lexemes : Nat → List Char → Option (List Lexeme)
  | 0, _ => none
  | fuel + 1, cs =>
    let cs := skipBlanks (cs.length + 1) cs
    match docComment cs with
    | some (inner, body, rest) =>
      (lexemes fuel rest).map ((docTokens inner body).map .leaf ++ ·)
    | none =>
      match cs with
      | [] => some []
      | c :: rest =>
        if c == '(' && begins failedLiteral cs then
          (lexemes fuel (cs.drop failedLiteral.length)).map (.leaf (.literal failedLiteral) :: ·)
        else match opening c, closing c with
        | some delimiter, _ => (lexemes fuel rest).map (.opens delimiter :: ·)
        | _, some delimiter => (lexemes fuel rest).map (.closes delimiter :: ·)
        | none, none =>
          match leaf cs with
          | some (token, rest) => (lexemes fuel rest).map (.leaf token :: ·)
          | none => none

/-- Builds the trees from the pieces; `outer` holds the groups still open, each with the tokens
before it in reverse, and `row` the tokens of the innermost one in reverse. -/
def nest : List (Delimiter × Tokens) → Tokens → List Lexeme → Option Tokens
  | [], row, [] => some row.reverse
  | _ :: _, _, [] => none
  | outer, row, .leaf token :: rest => nest outer (token :: row) rest
  | outer, row, .opens delimiter :: rest => nest ((delimiter, row) :: outer) [] rest
  | (delimiter, before) :: outer, row, .closes closed :: rest =>
    if delimiter = closed then nest outer (.group delimiter row.reverse :: before) rest else none
  | [], _, .closes _ :: _ => none

end Lexer

/-- The token trees of the text, or nothing if it is no row of tokens. A byte order mark in
front is passed over. -/
def Tokens.read? (text : String) : Option Tokens :=
  let cs :=
    match text.toList with
    | c :: rest => if c.toNat == 0xfeff then rest else c :: rest
    | [] => []
  (Lexer.lexemes (cs.length + 1) cs).bind (Lexer.nest [] [])

end Endpoint.Source
