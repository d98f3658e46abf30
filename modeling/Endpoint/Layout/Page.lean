import Endpoint.Layout.Mark

/-!
Setting marks on lines of bounded width. Marks wait in a queue until it is known whether the
box or the text up to the next break fits on the line; sizes are measured from running totals.
-/

namespace Endpoint.Layout

/-- The width of a line. -/
def margin : Int := 89

/-- The width that every line has, however far it is indented. -/
def leastSpace : Int := 60

/-- How the box being set is laid out: on one line, or broken, with the indentation to go back
to. -/
inductive Frame
  | fits (fill : Fill)
  | broken (indent : Int) (fill : Fill)

/-- A mark in the queue with its size; a negative size is not known yet. -/
structure Entry where
  mark : Mark
  size : Int

/-- The state of setting: the text so far, the room on the line, the queue with the number of
entries that have left it, the entries whose size is open (innermost first), the running totals
of what has been set and what has been queued, the boxes being set, and the indentation. -/
structure Page where
  out : String
  room : Int
  queue : Array Entry
  gone : Nat
  open' : List Nat
  leftTotal : Int
  rightTotal : Int
  frames : List Frame
  indent : Int
  pending : Nat

namespace Page

def blank : Page := ⟨"", margin, #[], 0, [], 0, 0, [], 0, 0⟩

/-- Writes the spaces that the line begins with. -/
def flushIndent (page : Page) : Page :=
  { page with out := page.out.pushn ' ' page.pending, pending := 0 }

def setText (page : Page) (text : String) : Page :=
  let page := page.flushIndent
  { page with out := page.out ++ text, room := page.room - text.utf8ByteSize }

def setBreak (page : Page) (place : Break) (size : Int) : Page :=
  let fits := place.never ||
    match page.frames.head? with
    | some (.fits _) => true
    | some (.broken _ .consistent) => false
    | some (.broken _ .inconsistent) | none => size ≤ page.room
  if fits then
    let page := { page with
      pending := page.pending + place.blank
      room := page.room - place.blank }
    match place.whole with
    | some c => { page with out := page.out.push c, room := page.room - 1 }
    | none => page
  else
    let page := match place.before with
      | some c =>
        let page := page.flushIndent
        { page with out := page.out.push c }
      | none => page
    let indent := page.indent + place.offset
    let page := { page with
      out := page.out.push '\n'
      pending := indent.toNat
      room := max (margin - indent) leastSpace }
    if place.behind.isEmpty then page else page.setText place.behind

def setOpening (page : Page) (offset : Int) (fill : Fill) (size : Int) : Page :=
  if size > page.room then
    { page with
      frames := .broken page.indent fill :: page.frames
      indent := page.indent + offset }
  else { page with frames := .fits fill :: page.frames }

def setClosing (page : Page) : Page :=
  match page.frames with
  | .broken indent _ :: rest => { page with frames := rest, indent }
  | .fits _ :: rest => { page with frames := rest }
  | [] => page

/-- Sets entries from the front of the queue as long as their size is known. -/
def advance : Nat → Page → Page
  | 0, page => page
  | fuel + 1, page =>
    match page.queue[page.gone]? with
    | none => page
    | some entry =>
      if entry.size < 0 then page
      else
        let page := { page with gone := page.gone + 1 }
        let page := match entry.mark with
          | .text written =>
            ({ page with leftTotal := page.leftTotal + entry.size }).setText written
          | .break place =>
            ({ page with leftTotal := page.leftTotal + place.blank }).setBreak place entry.size
          | .opens offset fill => page.setOpening offset fill entry.size
          | .closes | .closesWithin _ => page.setClosing
          | .unknown => page
        advance fuel page

/-- Adds to the size of a queued entry. -/
def resize (page : Page) (index : Nat) (change : Int → Int) : Page :=
  { page with queue := page.queue.modify index fun entry =>
      { entry with size := change entry.size } }

/-- Sets what cannot fit any more: while more is queued than there is room for, the outermost
open entry counts as endless. -/
def overflow : Nat → Page → Page
  | 0, page => page
  | fuel + 1, page =>
    if page.rightTotal - page.leftTotal > page.room then
      let page :=
        if page.open'.getLast? == some page.gone then
          { (page.resize page.gone fun _ => endless) with open' := page.open'.dropLast }
        else page
      let page := page.advance (page.queue.size + 1)
      if page.gone ≥ page.queue.size then page else overflow fuel page
    else page

/-- Settles the sizes of open entries up to the break that ends here. -/
def settle : Nat → Page → List Nat → Page
  | _, page, [] => { page with open' := [] }
  | depth, page, index :: rest =>
    match (page.queue[index]?).map Entry.mark with
    | some (.opens ..) =>
      match depth with
      | 0 => { page with open' := index :: rest }
      | depth + 1 => settle depth (page.resize index (· + page.rightTotal)) rest
    | some .closes | some (.closesWithin _) =>
      settle (depth + 1) (page.resize index fun _ => 1) rest
    | some (.break _) =>
      let page := page.resize index (· + page.rightTotal)
      match depth with
      | 0 => { page with open' := rest }
      | depth + 1 => settle (depth + 1) page rest
    | _ => settle depth page rest

/-- Begins the totals anew when nothing is open. -/
def restart (page : Page) : Page :=
  { page with leftTotal := 1, rightTotal := 1, queue := #[], gone := 0 }

/-- Queues an entry whose size is open. -/
def enqueue (page : Page) (mark : Mark) (size : Int) : Page :=
  { page with
    open' := page.queue.size :: page.open'
    queue := page.queue.push ⟨mark, size⟩ }

def scanOpening (page : Page) (offset : Int) (fill : Fill) : Page :=
  let page := if page.open'.isEmpty then page.restart else page
  page.enqueue (.opens offset fill) (-page.rightTotal)

def scanBreak (page : Page) (place : Break) : Page :=
  let page := if page.open'.isEmpty then page.restart else settle 0 page page.open'
  let page := page.enqueue (.break place) (-page.rightTotal)
  { page with rightTotal := page.rightTotal + place.blank }

def scanText (page : Page) (text : String) : Page :=
  if page.open'.isEmpty then page.setText text
  else
    let size : Int := text.utf8ByteSize
    let page := { page with
      queue := page.queue.push ⟨.text text, size⟩
      rightTotal := page.rightTotal + size }
    overflow (page.queue.size + 1) page

/-- Takes the last entry back out of the queue. -/
def unqueue (page : Page) : Page :=
  { page with queue := page.queue.pop, open' := page.open'.drop 1 }

/-- Closes a box. A box that holds one break alone vanishes, and so does a break that only
separates what follows it in the box. -/
def scanClosing (page : Page) : Page :=
  if page.open'.isEmpty then page.setClosing
  else
    let waiting := page.queue.size - page.gone
    match (if waiting = 0 then none else page.queue.back?) with
    | some ⟨.break place, _⟩ =>
      let shorter := { page.unqueue with rightTotal := page.rightTotal - place.blank }
      match (if waiting < 2 then none else shorter.queue.back?) with
      | some ⟨.opens .., _⟩ => shorter.unqueue
      | _ => if place.ifNonempty then shorter.enqueue .closes (-1) else page.enqueue .closes (-1)
    | _ => page.enqueue .closes (-1)

/-- The innermost open box and what is known of its size. -/
def innermost (page : Page) : Nat → List Nat → Option Int
  | _, [] => none
  | depth, index :: rest =>
    match page.queue[index]? with
    | some ⟨.opens .., size⟩ =>
      match depth with
      | 0 => some size
      | depth + 1 => innermost page depth rest
    | some ⟨.closes, _⟩ | some ⟨.closesWithin _, _⟩ => innermost page (depth + 1) rest
    | _ => innermost page depth rest

/-- Closes a box, which becomes endless if it is wider than given. -/
def scanClosingWithin (page : Page) (width : Int) : Page :=
  let page :=
    match page.innermost 0 page.open' with
    | some size =>
      if size < 0 && size + page.rightTotal > width then
        { page with
          queue := page.queue.push ⟨.text "", endless⟩
          rightTotal := page.rightTotal + endless }
      else page
    | none => page
  page.scanClosing

def scan (page : Page) : Mark → Page
  | .text written => page.scanText written
  | .break place => page.scanBreak place
  | .opens offset fill => page.scanOpening offset fill
  | .closes => page.scanClosing
  | .closesWithin width => page.scanClosingWithin width
  | .unknown => page

/-- Sets what is left. -/
def finish (page : Page) : String :=
  if page.open'.isEmpty then page.out
  else
    let page := settle 0 page page.open'
    (page.advance (page.queue.size + 1)).out

end Page

/-- The text of a sheet, unless it holds text that has no layout. -/
def Sheet.render? (sheet : Sheet) : Option String :=
  let marks := (sheet.run #[]).2
  if marks.any Mark.isUnknown then none else some (marks.foldl Page.scan Page.blank).finish

end Endpoint.Layout
