import Endpoint.Text.CodePoints
import Endpoint.Text.Percent
import Endpoint.Toml
import Endpoint.Toml.Scalar

/-!
Reading settings files. A reader takes characters from the front and gives what it has read with
the rest, or nothing if the text is not of its form. Values are nested and keys are long only up
to a limit.
-/

namespace Endpoint.Toml.Reader

/-! ### Blanks and ends of lines -/

def isBlank (c : Char) : Bool := c == ' ' || c == '\t'

def skip (cs : List Char) : List Char := cs.dropWhile isBlank

/-- A character that may stand in texts and comments as it is. -/
def isPlain (c : Char) : Bool := c == '\t' || (c.toNat ≥ 32 && c.toNat != 127)

/-- The rest behind the end of a line. -/
def newline? : List Char → Option (List Char)
  | '\n' :: rest => some rest
  | '\r' :: '\n' :: rest => some rest
  | _ => none

/-- The rest behind a comment, if one stands in front. -/
def skipComment : List Char → List Char
  | '#' :: rest => rest.dropWhile isPlain
  | cs => cs

/-- The rest behind what may follow on a line. -/
def lineEnd? (cs : List Char) : Option (List Char) :=
  match skipComment (skip cs) with
  | [] => some []
  | rest => newline? rest

/-- Skips blanks, comments and ends of lines. -/
def skipLines : Nat → List Char → List Char
  | 0, cs => cs
  | fuel + 1, cs =>
    let rest := skipComment (skip cs)
    match newline? rest with
    | some more => skipLines fuel more
    | none => rest

/-! ### Texts -/

/-- The number in so many hexadecimal digits. -/
def hexNumber? : Nat → Nat → List Char → Option (Nat × List Char)
  | 0, value, cs => some (value, cs)
  | count + 1, value, c :: rest => do hexNumber? count (value * 16 + (← Text.hexValue? c)) rest
  | _ + 1, _, [] => none

/-- The character with the number in so many hexadecimal digits. -/
def unicode? (count : Nat) (cs : List Char) : Option (Char × List Char) := do
  let (value, rest) ← hexNumber? count 0 cs
  if value.isValidChar then return (Char.ofNat value, rest) else none

/-- The character that an escape stands for. -/
def escaped? : List Char → Option (Char × List Char)
  | 'b' :: rest => some (Char.ofNat 8, rest)
  | 't' :: rest => some ('\t', rest)
  | 'n' :: rest => some ('\n', rest)
  | 'f' :: rest => some (Char.ofNat 12, rest)
  | 'r' :: rest => some ('\r', rest)
  | '"' :: rest => some ('"', rest)
  | '\\' :: rest => some ('\\', rest)
  | 'u' :: rest => unicode? 4 rest
  | 'U' :: rest => unicode? 8 rest
  | _ => none

/-- A text between quotes on one line. -/
def basic? : Nat → List Char → Option (List Char × List Char)
  | 0, _ => none
  | _, [] => none
  | fuel + 1, c :: rest => do
    if c == '"' then return ([], rest)
    else if c == '\\' then
      let (found, rest) ← escaped? rest
      let (more, rest) ← basic? fuel rest
      return (found :: more, rest)
    else if isPlain c then
      let (more, rest) ← basic? fuel rest
      return (c :: more, rest)
    else failure

/-- A text between apostrophes on one line. -/
def literal? (cs : List Char) : Option (List Char × List Char) :=
  let inner := fun c => isPlain c && c != Text.apostrophe
  match cs.dropWhile inner with
  | c :: rest => if c == Text.apostrophe then some (cs.takeWhile inner, rest) else none
  | [] => none

/-- The end of a text of several lines behind a row of its marks: up to two of them belong to
the text. -/
def closing? (mark : Char) (cs : List Char) : Option (List Char × List Char) :=
  let row := (cs.takeWhile (· == mark)).length
  if row < 3 then none
  else
    let own := min (row - 3) 2
    some (List.replicate own mark, cs.drop (own + 3))

/-- The rest behind an escaped end of a line, and behind the blanks and ends of lines after
it. -/
def afterBreak? (cs : List Char) : Option (List Char) :=
  match newline? (skip cs) with
  | none => none
  | some rest => some (blankLines (rest.length + 1) rest)
where
  blankLines : Nat → List Char → List Char
  | 0, cs => cs
  | fuel + 1, cs =>
    match newline? (skip cs) with
    | some more => blankLines fuel more
    | none => skip cs

/-- A text of several lines up to three of its marks; `escapes` says whether it may hold
escapes. -/
def lines? (mark : Char) (escapes : Bool) : Nat → List Char → Option (List Char × List Char)
  | 0, _ => none
  | fuel + 1, cs =>
    match closing? mark cs with
    | some found => some found
    | none =>
      match newline? cs, cs with
      | some rest, _ => (lines? mark escapes fuel rest).map fun (more, rest) => ('\n' :: more, rest)
      | none, [] => none
      | none, c :: rest => do
        if c == '\\' && escapes then
          match afterBreak? rest with
          | some rest => lines? mark escapes fuel rest
          | none =>
            let (found, rest) ← escaped? rest
            let (more, rest) ← lines? mark escapes fuel rest
            return (found :: more, rest)
        else if isPlain c then
          let (more, rest) ← lines? mark escapes fuel rest
          return (c :: more, rest)
        else failure

/-- The rest behind an end of line, if one stands in front. -/
def skipFirstBreak (cs : List Char) : List Char := (newline? cs).getD cs

/-- A text, behind its first mark. -/
def text? (mark : Char) (cs : List Char) : Option (String × List Char) :=
  let escapes := mark == '"'
  let held := match cs with
    | c :: d :: rest =>
      if c == mark && d == mark then lines? mark escapes (rest.length + 1) (skipFirstBreak rest)
      else if escapes then basic? (cs.length + 1) cs else literal? cs
    | _ => if escapes then basic? (cs.length + 1) cs else literal? cs
  held.map fun (found, rest) => (String.ofList found, rest)

/-! ### Keys -/

def isBare (c : Char) : Bool := c.isAlphanum || c == '_' || c == '-'

/-- One part of a key. -/
def keyPart? (cs : List Char) : Option (String × List Char) :=
  match cs with
  | c :: rest =>
    if c == '"' then
      (basic? (rest.length + 1) rest).map fun (found, rest) => (String.ofList found, rest)
    else if c == Text.apostrophe then
      (literal? rest).map fun (found, rest) => (String.ofList found, rest)
    else if isBare c then some (String.ofList (cs.takeWhile isBare), cs.dropWhile isBare)
    else none
  | [] => none

/-- A key: parts with points between them, and blanks around them. -/
def key? : Nat → List Char → Option (List String × List Char)
  | 0, _ => none
  | fuel + 1, cs => do
    let (part, rest) ← keyPart? (skip cs)
    match skip rest with
    | '.' :: rest =>
      let (more, rest) ← key? fuel rest
      return (part :: more, rest)
    | rest => return ([part], rest)

/-! ### Values -/

/-- One more than the deepest nesting of values, and than the most parts of a key. -/
def limit : Nat := 80

mutual

/-- One value, inside so many others. -/
def value? : Nat → Nat → List Char → Option (Toml × List Char)
  | 0, _, _ => none
  | _, _, [] => none
  | fuel + 1, depth, c :: rest =>
    let depth := depth + 1
    if c == '"' || c == Text.apostrophe then
      (text? c rest).map fun (found, rest) => (.text found, rest)
    else if c == '[' then
      if limit ≤ depth then none
      else (items? fuel depth rest).map fun (found, rest) => (.list found, rest)
    else if c.toNat == 123 then
      if limit ≤ depth then none
      else match skip rest with
      | [] => none
      | d :: more =>
        if d.toNat == 125 then some (.table .value [], more)
        else inline? fuel depth (.table .value []) (d :: more)
    else (Scalar.skip? (c :: rest)).map fun rest => (.scalar, rest)

/-- The items of a list and its end. -/
def items? : Nat → Nat → List Char → Option (List Toml × List Char)
  | 0, _, _ => none
  | fuel + 1, depth, cs => do
    match skipLines (cs.length + 1) cs with
    | ']' :: rest => return ([], rest)
    | start =>
      let (item, rest) ← value? fuel depth start
      match skipLines (rest.length + 1) rest with
      | ',' :: rest =>
        let (more, rest) ← items? fuel depth rest
        return (item :: more, rest)
      | ']' :: rest => return ([item], rest)
      | _ => failure

/-- The entries of a table on one line and its end. -/
def inline? : Nat → Nat → Toml → List Char → Option (Toml × List Char)
  | 0, _, _, _ => none
  | fuel + 1, depth, before, cs => do
    let (path, key, value, rest) ← entry? fuel depth cs
    let held ← addValue path key value before
    match skip rest with
    | ',' :: rest => inline? fuel depth held rest
    | c :: rest => if c.toNat == 125 then return (held, rest) else failure
    | [] => failure

/-- An entry `path.key = value`. -/
def entry? : Nat → Nat → List Char → Option (List String × String × Toml × List Char)
  | 0, _, _ => none
  | fuel + 1, depth, cs => do
    let (keys, rest) ← key? (cs.length + 1) cs
    if limit ≤ keys.length then failure
    match rest with
    | '=' :: rest =>
      let (value, rest) ← value? fuel depth (skip rest)
      return (keys.dropLast, keys.getLastD "", value, rest)
    | _ => failure

end

/-! ### Files -/

/-- The path in a header, its last part apart, and the rest behind the closing marks. -/
def header? (marks : Nat) (cs : List Char) : Option (List String × String × List Char) := do
  let (keys, rest) ← key? (cs.length + 1) cs
  if limit ≤ keys.length then failure
  if rest.take marks == List.replicate marks ']' then
    return (keys.dropLast, keys.getLastD "", rest.drop marks)
  else failure

/-- Reads line by line into the whole table; `path` leads to the table that entries go to. -/
def file? : Nat → List String → Toml → List Char → Option Toml
  | 0, _, _, _ => none
  | fuel + 1, path, whole, cs => do
    match skipLines (cs.length + 1) cs with
    | [] => return whole
    | '[' :: '[' :: rest =>
      let (above, key, rest) ← header? 2 rest
      let whole ← changeAt false (openItem key) above whole
      file? fuel (above ++ [key]) whole (← lineEnd? rest)
    | '[' :: rest =>
      let (above, key, rest) ← header? 1 rest
      let whole ← changeAt false (openTable key) above whole
      file? fuel (above ++ [key]) whole (← lineEnd? rest)
    | rest =>
      let (above, key, value, rest) ← entry? (rest.length + 1) 0 rest
      let whole ← changeAt false (addValue above key value) path whole
      file? fuel path whole (← lineEnd? rest)

end Reader

/-- The entries of a whole file. -/
def read? (text : String) : Option (List (String × Toml)) :=
  let cs := match text.toList with
    | c :: rest => if c.toNat == 0xfeff then rest else c :: rest
    | [] => []
  match Reader.file? (cs.length + 1) [] empty cs with
  | some (.table _ entries) => some entries
  | _ => none

end Endpoint.Toml
