/-!
Route templates: literal text with placeholders in braces. A template is a path alone, without
query or fragment.
-/

namespace Endpoint

namespace Route

inductive Segment
  | literal (text : String)
  | placeholder (name : String)
deriving DecidableEq, Repr

end Route

/-- A template as written, and its segments. -/
structure Route where
  raw : String
  segments : List Route.Segment
deriving DecidableEq, Repr, Inhabited

namespace Route

/-- Why text is no template; offsets count bytes. -/
inductive Fault
  | nested (offset : Nat)
  | unclosed (offset : Nat)
  | unnamed (offset : Nat)
  | name (text : String)
  | stray (offset : Nat)
  | tail (mark : Char) (offset : Nat)
deriving DecidableEq, Repr

def Fault.message : Fault → String
  | .nested offset => s!"nested `\x7b` at offset {offset}"
  | .unclosed offset => s!"unclosed `\x7b` at offset {offset}"
  | .unnamed offset => s!"empty placeholder at offset {offset}"
  | .name text => s!"placeholder `{text}` is not an identifier"
  | .stray offset => s!"stray `\x7d` at offset {offset}"
  | .tail mark offset =>
    s!"`{mark}` at offset {offset}; query and fragment are not part of a route"

def openBrace : Char := Char.ofNat 123

def closeBrace : Char := Char.ofNat 125

/-- Whether a placeholder may have the name: an ASCII identifier other than the low line. -/
def isName (name : List Char) : Bool :=
  match name with
  | [] => false
  | first :: rest =>
    name != ['_'] && (first.isAlpha || first == '_') &&
      rest.all fun c => c.isAlphanum || c == '_'

/-- Where reading stands: in literal text, or inside a brace that opened at an offset, with the
literal before it. -/
inductive Place
  | outside (literal : List Char)
  | inside (start : Nat) (literal name : List Char)

/-- The segment of a literal, if it is not empty. -/
def literalSegment (literal : List Char) : List Segment :=
  if literal.isEmpty then [] else [.literal (String.ofList literal)]

/-- The segments of text that begins at the offset. -/
def readFrom : Nat → Place → List Char → Except Fault (List Segment)
  | _, .outside literal, [] => .ok (literalSegment literal)
  | _, .inside start _ _, [] => .error (.unclosed start)
  | offset, .outside literal, c :: rest =>
    if c = openBrace then readFrom (offset + c.utf8Size) (.inside offset literal []) rest
    else if c = closeBrace then .error (.stray offset)
    else if c = '?' || c = '#' then .error (.tail c offset)
    else readFrom (offset + c.utf8Size) (.outside (literal ++ [c])) rest
  | offset, .inside start literal name, c :: rest =>
    if c = closeBrace then
      if name.isEmpty then .error (.unnamed start)
      else if !isName name then .error (.name (String.ofList name))
      else do
        let more ← readFrom (offset + c.utf8Size) (.outside []) rest
        return literalSegment literal ++ .placeholder (String.ofList name) :: more
    else if c = openBrace then .error (.nested start)
    else readFrom (offset + c.utf8Size) (.inside start literal (name ++ [c])) rest

def read (raw : String) : Except Fault Route := do
  return ⟨raw, ← readFrom 0 (.outside []) raw.toList⟩

/-- A segment as it is written in a template. -/
def Segment.written : Segment → List Char
  | .literal text => text.toList
  | .placeholder name => openBrace :: (name.toList ++ [closeBrace])

/-- The template that segments are written as. -/
def writtenSegments (segments : List Segment) : String :=
  String.ofList (segments.flatMap Segment.written)

def Segment.name? : Segment → Option String
  | .placeholder name => some name
  | .literal _ => none

/-- The names of the placeholders as they occur, each once. -/
def placeholders (route : Route) : List String :=
  (route.segments.filterMap Segment.name?).foldl
    (fun names name => if names.contains name then names else names ++ [name]) []

end Route

end Endpoint
