import Endpoint.Source.Grammar.Type
import Endpoint.Source.Numeral

/-!
Rules for patterns, and for the names and positions of fields.
-/

namespace Endpoint.Source.Grammar

open Source.Parser

/-! ### Fields -/

/-- A field position, from the text of a literal that is a whole number. -/
def fieldPosition (text : String) : Parser Nat := do
  match Numeral.read? text with
  | some held =>
    if held.suffix != "" then refuse "expected unsuffixed integer"
    else if 4294967296 ≤ held.value then refuse "number too large to fit in target type"
    else return held.value
  | none => refuse "expected integer literal"

/-- The name or position of a field. -/
def member : Parser Member := do
  match ← get with
  | .literal text :: rest =>
    if (Numeral.read? text).isSome then
      set rest
      return .indexed (← fieldPosition text)
    else refuseHere "expected identifier or integer"
  | .punct '-' _ :: .literal text :: _ =>
    match Numeral.read? text with
    | some held =>
      refuse (if held.suffix != "" then "expected unsuffixed integer"
        else "invalid digit found in string")
    | none => refuseHere "expected identifier or integer"
  | _ =>
    if ← sees Tokens.beginWithName then return .named (← ident)
    else refuseHere "expected identifier or integer"

/-! ### Alternatives and ranges -/

/-- A pattern with alternatives; a bar may stand in front of the first. -/
def alternatives (g : Grammar) : Parser Pattern := do
  let bar ← punct? "|"
  let first ← g.pattern
  let seesBar := sees fun tokens =>
    tokens.beginWith "|" && !tokens.beginWith "||" && !tokens.beginWith "|="
  if bar || (← seesBar) then
    let rest ← many do
      if ← seesBar then
        punct "|"
        return some (← g.pattern)
      else return none
    return .either bar (first :: rest)
  else return first

/-- A constant block. -/
def constantBlock (g : Grammar) : Parser Fragment :=
  fragment (fun body => [.word "const", body.token]) do
    word "const"
    attributedBlock g

/-- One end of a range as a pattern of its own: a literal, a path or a constant block. -/
def rangeBound (g : Grammar) : Parser (Fragment × (Fragment → Pattern)) := do
  if ← sees Tokens.beginWithLiteral then return (← fragment id literal, .literal)
  if ← sees fun tokens =>
      tokens.beginWithName || tokens.beginWith "::" || tokens.beginWith "<" ||
        pathWords.any fun word => tokens.beginWithWord word then
    let start ← get
    let path ← qualifiedPath g true
    return (⟨← since start, path.tokens⟩, fun _ => .path path)
  if ← seesWord "const" then return (← constantBlock g, .constant)
  failExpecting ["literal", "identifier", "`::`", "`<`", "`self`", "`Self`", "`super`", "`crate`",
    "`const`"]

/-- The end of a range, or nothing where the pattern ends. -/
def rangeEnd (g : Grammar) : Parser (Option Fragment) := do
  let stops ← sees fun tokens =>
    tokens.isEmpty || tokens.beginWith "|" || tokens.beginWith "=" ||
      (tokens.beginWith ":" && !tokens.beginWith "::") || tokens.beginWith "," ||
      tokens.beginWith ";" || tokens.beginWithWord "if"
  if stops then return none else return some (← rangeBound g).1

/-- The mark of a range, if one stands in front. An old spelling of `..=` has three points. -/
def rangeMark? : Parser (Option RangeMark) := do
  if ← punct? "..=" then return some .closed
  else if ← punct? "..." then return some .closed
  else if ← punct? ".." then return some .halfOpen
  else return none

/-- A range whose low end and mark have been read. -/
def rangeFrom (g : Grammar) (low : Option Fragment) (mark : RangeMark) : Parser Pattern := do
  let high ← rangeEnd g
  if mark == .closed && high.isNone then refuseHere "expected range upper bound"
  return .range low mark high

/-- A pattern that begins with a literal or a constant block. -/
def constantPattern (g : Grammar) : Parser Pattern := do
  let (found, alone) ← rangeBound g
  match ← rangeMark? with
  | some mark => rangeFrom g (some found) mark
  | none => return alone found

/-- A variable: how it is bound, its name, and the pattern behind `@`. -/
def binding (g : Grammar) : Parser Pattern := do
  let reference ← word? "ref"
  let mutable ← word? "mut"
  let name ← if ← seesWord "self" then anyIdent else ident
  let sub ← if ← punct? "@" then some <$> g.pattern else pure none
  return .ident reference mutable name sub

/-! ### Structs -/

/-- A field of a struct pattern: a position or a name, with a pattern behind a colon; a name
alone is bound. One bound in a box is kept as it stands. -/
def patternField (g : Grammar) (attributes : Attributes) : Parser PatternField := do
  let start ← get
  let boxed ← word? "box"
  let reference ← word? "ref"
  let mutable ← word? "mut"
  if boxed || reference || mutable then
    let name ← ident
    if boxed then return .mk attributes none (.verbatim (← since start))
    else return .mk attributes none (.ident reference mutable name none)
  match ← member with
  | .named name =>
    if ← punct? ":" then return .mk attributes (some (.named name)) (← alternatives g)
    else return .mk attributes none (.ident false false name none)
  | position =>
    punct ":"
    return .mk attributes (some position) (← alternatives g)

/-- The fields of a struct pattern, and the attributes of the `..` that ends them. -/
def patternFields (g : Grammar) : Nat → Parser (List PatternField × Bool × Option Attributes)
  | 0 => failExpecting []
  | fuel + 1 => do
    if ← atEnd then return ([], true, none)
    let attributes ← outerAttributes g
    if ← punct? ".." then return ([], true, some attributes)
    let first ← patternField g attributes
    if ← atEnd then return ([first], false, none)
    punct ","
    let (rest, comma, ends) ← patternFields g fuel
    return (first :: rest, comma, ends)

/-- A pattern that begins with a path: a macro call, a struct, a tuple struct, a range or the
path itself. -/
def pathPattern (g : Grammar) : Parser Pattern := do
  let start ← get
  let found ← qualifiedPath g true
  if found.self.isNone && (← seesPunct "!") && !(← seesPunct "!=") && found.path.isPlain then
    punct "!"
    let (delimiter, inner) ← invocationGroup
    return .invocation found.path delimiter inner
  if ← seesGroup .brace then
    let (fields, comma, rest) ← group .brace (do patternFields g ((← get).length + 1))
    return .record found fields (comma && !fields.isEmpty) rest
  if ← seesGroup .paren then
    let (elements, comma) ← group .paren (commasToEnd (alternatives g))
    return .tupleRecord found elements comma
  let low : Fragment := ⟨← since start, found.tokens⟩
  match ← rangeMark? with
  | some mark => rangeFrom g (some low) mark
  | none => return .path found

/-! ### Patterns -/

/-- An element of a slice pattern. A range without one of its ends must stand in parentheses. -/
def sliceElement (g : Grammar) : Parser Pattern := do
  match ← alternatives g with
  | .range none _ _ | .range _ _ none =>
    refuse "range pattern is not allowed unparenthesized inside slice pattern"
  | found => return found

/-- Patterns in parentheses: a tuple, or one pattern alone that is not `..`. -/
def parenPattern (g : Grammar) : Parser Pattern :=
  group .paren do
    if ← atEnd then return .tuple [] false
    let first ← alternatives g
    if ← atEnd then
      match first with
      | .rest => return .tuple [.rest] false
      | _ => return .paren first
    punct ","
    let (rest, comma) ← commasToEnd (alternatives g)
    return .tuple (first :: rest) (comma || rest.isEmpty)

/-- A pattern that begins with two points: a range without a low end, or the rest. -/
def openPattern (g : Grammar) : Parser Pattern := do
  let closed ← punct? "..="
  if !closed then punct ".."
  match ← rangeEnd g with
  | some high => return .range none (if closed then .closed else .halfOpen) (some high)
  | none => if closed then refuseHere "expected range upper bound" else return .rest

/-- Whether a pattern in front begins with a path that is more than a name. -/
def seesPathPattern : Parser Bool :=
  sees fun tokens =>
    let second := tokens.drop 1
    (tokens.beginWithName &&
      (Tokens.beginWith "::" second || Tokens.beginWith "!" second ||
        Tokens.beginWithGroup .brace second || Tokens.beginWithGroup .paren second ||
        Tokens.beginWith ".." second)) ||
    (tokens.beginWithWord "self" && Tokens.beginWith "::" second) ||
    tokens.beginWith "::" || tokens.beginWith "<" || tokens.beginWithWord "Self" ||
    tokens.beginWithWord "super" || tokens.beginWithWord "crate"

/-- A pattern without alternatives at its top. -/
def patternRule (g : Grammar) : Parser Pattern := do
  let start ← get
  if ← seesPathPattern then pathPattern g
  else if ← word? "_" then return .wild
  else if ← word? "box" then
    let _ ← g.pattern
    return .verbatim (← since start)
  else if ← sees fun tokens =>
      tokens.beginWith "-" || tokens.beginWithLiteral || tokens.beginWithWord "const" then
    constantPattern g
  else if ← sees fun tokens =>
      tokens.beginWithWord "ref" || tokens.beginWithWord "mut" ||
        tokens.beginWithWord "self" || tokens.beginWithName then
    binding g
  else if ← punct? "&" then
    let mutable ← word? "mut"
    return .reference mutable (← g.pattern)
  else if ← seesGroup .paren then parenPattern g
  else if ← seesGroup .bracket then
    group .bracket do
      let (elements, comma) ← commasToEnd (sliceElement g)
      return .slice elements comma
  else if ← sees fun tokens => tokens.beginWith ".." && !tokens.beginWith "..." then
    openPattern g
  else
    failExpecting ["identifier", "`::`", "`<`", "`_`", "literal", "`const`", "`ref`", "`mut`",
      "`&`", "parentheses", "square brackets", "`..`"]

end Endpoint.Source.Grammar
