/-!
Marks of a layout: text, possible line breaks, and boxes around them. A box is laid out on one
line if it fits; if it does not, a consistent box breaks at all of its breaks, an inconsistent
one only where the next piece would not fit. One mark stands for text that has no layout at all.
-/

namespace Endpoint.Layout

inductive Fill
  | consistent
  | inconsistent
deriving DecidableEq, Repr

/-- A place where a line may end. Unbroken, it is `blank` spaces and the character `whole`;
broken, it writes `before` on the old line, indents the new one by `offset` more than its box,
and begins it with `behind`. -/
structure Break where
  offset : Int
  blank : Nat
  before : Option Char
  behind : String
  whole : Option Char
  ifNonempty : Bool
  never : Bool
deriving Repr

/-- A break of a number of spaces. -/
def Break.ofBlank (blank : Nat) : Break := ⟨0, blank, none, "", none, false, false⟩

inductive Mark
  | text (written : String)
  | break (place : Break)
  | opens (offset : Int) (fill : Fill)
  | closes
  | closesWithin (width : Int)
  | unknown
deriving Repr

/-- Whether the mark stands for text that has no layout. -/
def Mark.isUnknown : Mark → Bool
  | .unknown => true
  | _ => false

/-- Marks written one after another. -/
abbrev Sheet := StateM (Array Mark) Unit

/-- The spaces of one level of indentation. -/
def indent : Int := 4

/-- A width beyond every line. -/
def endless : Nat := 0xffff

namespace Sheet

def mark (m : Mark) : Sheet := modify (·.push m)

def word (text : String) : Sheet := mark (.text text)

def breakAt (place : Break) : Sheet := mark (.break place)

/-- Opens a consistent box. -/
def cbox (offset : Int) : Sheet := mark (.opens offset .consistent)

/-- Opens an inconsistent box. -/
def ibox (offset : Int) : Sheet := mark (.opens offset .inconsistent)

/-- Closes the innermost box. -/
def close : Sheet := mark .closes

/-- Closes the innermost box, which is broken if it is wider than this. -/
def closeWithin (width : Int) : Sheet := mark (.closesWithin width)

/-- Text that was read but has no layout, unless it is empty. -/
def kept {α : Type} (tokens : List α) : Sheet := if tokens.isEmpty then pure () else mark .unknown

/-- A break without space. -/
def zero : Sheet := breakAt (.ofBlank 0)

/-- A break of one space. -/
def space : Sheet := breakAt (.ofBlank 1)

/-- A space at which no line ends. -/
def nbsp : Sheet := word " "

/-- A break that is always taken. -/
def hard : Sheet := breakAt (.ofBlank endless)

/-- A break of one space that vanishes at the end of a box. -/
def spaceIfNonempty : Sheet := breakAt { Break.ofBlank 1 with ifNonempty := true }

/-- A break that is always taken but vanishes at the end of a box. -/
def hardIfNonempty : Sheet := breakAt { Break.ofBlank endless with ifNonempty := true }

/-- A comma: behind the last of a list only where the list is broken. -/
def comma (isLast : Bool) : Sheet :=
  if isLast then breakAt { Break.ofBlank 0 with before := some ',' }
  else do
    word ","
    space

/-- A comma: behind the last of a list where the list is broken, else a space. -/
def commaOrSpace (isLast : Bool) : Sheet :=
  if isLast then breakAt { Break.ofBlank 1 with before := some ',' }
  else do
    word ","
    space

/-- A break that is never taken. -/
def never : Sheet := breakAt { Break.ofBlank 0 with never := true }

/-- Moves the break written last. -/
def offset (by' : Int) : Sheet := modify fun marks =>
  match marks.back? with
  | some (.break place) =>
    marks.pop.push (.break { place with offset := place.offset + by' })
  | _ => marks

/-- The text written last among the first marks. -/
def lastText (marks : Array Mark) : Nat → String
  | 0 => ""
  | count + 1 =>
    match marks[count]? with
    | some (.text written) => written
    | _ => lastText marks count

/-- Whether the text written last ends in a point, so that another point behind it needs a
space. -/
def afterPoint : StateM (Array Mark) Bool :=
  modifyGet fun marks => ((lastText marks marks.size).endsWith ".", marks)

/-- A break without space in front of a point. Unbroken, it keeps two points apart. -/
def pointBreak : Sheet := do
  let apart ← afterPoint
  breakAt { Break.ofBlank 0 with whole := if apart then some ' ' else none }

/-- Writes the rows one after another, telling each whether it is the last. -/
def each {α : Type} (write : α → Bool → Sheet) : List α → Sheet
  | [] => pure ()
  | [last] => write last true
  | first :: rest => do
    write first false
    each write rest

end Sheet

end Endpoint.Layout
