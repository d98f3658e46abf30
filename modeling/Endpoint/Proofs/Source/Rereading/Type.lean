import Endpoint.Proofs.Source.Rereading.Item

/-!
Types that are put together of paths are read again, however deep they stand in one another, and so
are the bounds and parameters of such types. Main statement: rules that may call one another as deep
as a type has tokens read it again (`readsTypes_level`).
-/

namespace Endpoint.Source

open Source.Parser

/-! ### Sizes -/

/-- Rows are written with a sign between them. -/
structure Joins (join : List Tokens → Tokens) (sign : Char) : Prop where
  single : ∀ row, join [row] = row
  double : ∀ row second rows,
    join (row :: second :: rows) = row ++ .punct sign false :: join (second :: rows)

theorem joins_commas : Joins Token.commaSeparated ',' := ⟨fun _ => rfl, fun _ _ _ => rfl⟩

theorem joins_pluses : Joins (withPluses false) '+' := ⟨List.append_nil, fun _ _ _ => rfl⟩

namespace Tokens

theorem size_append (front back : Tokens) : (front ++ back).size = front.size + back.size := by
  induction front with
  | nil => simp [size]
  | cons token front ih => simp [size, ih, Nat.add_assoc]

theorem size_joined {join : List Tokens → Tokens} {sign : Char} (joins : Joins join sign)
    {row : Tokens} {rows : List Tokens} (member : row ∈ rows) : row.size ≤ (join rows).size := by
  induction rows with
  | nil => cases member
  | cons first others ih =>
    cases others with
    | nil =>
      obtain rfl := List.mem_singleton.mp member
      rw [joins.single]
    | cons second others =>
      rw [joins.double, size_append, size]
      rcases List.mem_cons.mp member with rfl | member
      · omega
      · have smaller := ih member
        omega

theorem size_flatten {row : Tokens} {rows : List Tokens} (member : row ∈ rows) :
    row.size ≤ size rows.flatten := by
  induction rows with
  | nil => cases member
  | cons first others ih =>
    rw [List.flatten_cons, size_append]
    rcases List.mem_cons.mp member with rfl | member
    · omega
    · have smaller := ih member
      omega

@[simp]
theorem size_ident (name : Ident) (rest : Tokens) : size (.ident name :: rest) = rest.size + 1 := by
  simp [size, sizeOne, Nat.add_comm]

@[simp]
theorem size_punct (char : Char) (joint : Bool) (rest : Tokens) :
    size (.punct char joint :: rest) = rest.size + 1 := by
  simp [size, sizeOne, Nat.add_comm]

@[simp]
theorem size_group (delimiter : Delimiter) (inner rest : Tokens) :
    size (.group delimiter inner :: rest) = inner.size + rest.size + 1 := by
  rw [size, sizeOne]
  omega

end Tokens

/-! ### Rows -/

theorem tyRows_eq_map (types : List Ty) : tyRows types = types.map Ty.tokens := by
  induction types with
  | nil => rfl
  | cons ty types ih => rw [tyRows, ih, List.map_cons]

theorem boundRows_eq_map (bounds : List Bound) : boundRows bounds = bounds.map Bound.tokens := by
  induction bounds with
  | nil => rfl
  | cons bound bounds ih => rw [boundRows, ih, List.map_cons]

def Segment.row (segment : Segment) : Tokens := .ident segment.name :: segment.arguments.tokens

theorem segmentRows_eq_map (segments : List Segment) :
    segmentRows segments = segments.map Segment.row := by
  induction segments with
  | nil => rfl
  | cons segment segments ih =>
    obtain ⟨name, arguments⟩ := segment
    simp [segmentRows, ih, Segment.row]

/-- The segments behind the first one of a path. -/
def furtherRow (segments : List Segment) : Tokens :=
  (segments.map fun segment => Token.operator "::" ++ segment.row).flatten

theorem joinColons_cons (first : Segment) (others : List Segment) :
    joinColons ((first :: others).map Segment.row) = first.row ++ furtherRow others := by
  induction others generalizing first with
  | nil => simp [joinColons, furtherRow]
  | cons second others ih =>
    rw [List.map_cons, List.map_cons, joinColons, ← List.map_cons, ih, furtherRow, furtherRow,
      List.map_cons, List.flatten_cons, List.append_assoc, List.append_assoc]
    simp

/-- Whether the argument is a lifetime. -/
def Argument.isLifetime : Argument → Bool
  | .lifetime _ => true
  | _ => false

/-- The tokens of an argument. -/
def Argument.row : Argument → Tokens
  | .lifetime name => Token.lifetime name
  | .type ty => ty.tokens
  | .constant value => value.tokens
  | .associatedType name arguments ty =>
    .ident name :: (arguments.tokens ++ .punct '=' false :: ty.tokens)
  | .associatedConstant name arguments value =>
    .ident name :: (arguments.tokens ++ .punct '=' false :: value.tokens)
  | .constraint name arguments bounds plus =>
    .ident name :: (arguments.tokens ++ .punct ':' false :: withPluses plus (boundRows bounds))

theorem argumentRows_eq_map (arguments : List Argument) :
    argumentRows arguments = arguments.map fun held => (held.isLifetime, held.row) := by
  induction arguments with
  | nil => rfl
  | cons held arguments ih => cases held <;> rw [argumentRows, ih] <;> rfl

/-- Those that satisfy the test stand in front of those that do not. -/
theorem filter_append_filter_not {α : Type} {test : α → Bool} {items : List α}
    (sorted : items.Pairwise fun first second => test second = true → test first = true) :
    items.filter test ++ items.filter (!test ·) = items := by
  induction sorted with
  | nil => rfl
  | @cons item items leads _ ih =>
    cases holds : test item with
    | true => simp [holds, ih]
    | false =>
      have none : items.filter test = [] := by
        refine List.filter_eq_nil_iff.mpr fun other member further => ?_
        rw [leads other member further] at holds
        cases holds
      rw [none, List.nil_append] at ih
      simp [holds, none, ih]

/-- Each row but the last has a comma behind it. -/
theorem writeArguments_rows {rows : List (Bool × Tokens)} (start : Nat) {total : Nat}
    (all : start + rows.length = total) :
    writeArguments true ((rows.zipIdx start).map fun placed =>
      (placed.1.1, placed.1.2, placed.2 + 1 < total || false)) =
        Token.commaSeparated (rows.map Prod.snd) := by
  induction rows generalizing start with
  | nil => rfl
  | cons row rows ih =>
    rw [List.length_cons] at all
    have further := ih (start + 1) (by omega)
    cases rows with
    | nil =>
      have last : ¬ start + 1 < total := by simp at all; omega
      simp [writeArguments, Token.commaSeparated, last]
    | cons second rows =>
      have follows : start + 1 < total := by rw [List.length_cons] at all; omega
      simp only [List.map_cons, List.zipIdx_cons, writeArguments] at further ⊢
      simp [follows, Token.commaSeparated, ← further]

/-- Rows whose lifetimes stand in front are written in their order, with commas between them. -/
theorem orderedArguments_rows {rows : List (Bool × Tokens)}
    (sorted : rows.Pairwise fun first second => second.1 = true → first.1 = true) :
    orderedArguments false rows = Token.commaSeparated (rows.map Prod.snd) := by
  unfold orderedArguments
  extract_lets marked
  have inOrder : marked.Pairwise fun first second => second.1 = true → first.1 = true := by
    refine List.pairwise_map.mpr ?_
    have placed : (rows.zipIdx.map Prod.fst).Pairwise fun first second =>
        second.1 = true → first.1 = true := by
      rwa [List.zipIdx_map_fst]
    exact List.pairwise_map.mp placed
  have whole : marked.filter (·.1) ++ marked.filter (!·.1) = marked :=
    filter_append_filter_not inOrder
  rw [whole]
  exact writeArguments_rows 0 (by simp)

/-! ### Plain types -/

/-- Whether a plus sign behind the type can only belong to what encloses it. -/
def Ty.isClosed : Ty → Bool
  | .implTrait bounds _ => bounds.length == 1
  | .traitObject _ bounds _ => bounds.length == 1
  | _ => true

/-- A name, or a keyword that may stand for one in a path. -/
def Ident.OpensPath (name : Ident) : Prop :=
  name.isName = true ∨ ∃ word ∈ Grammar.pathWords, name = .plain word

namespace Grammar

mutual

/-- A type that is put together of paths: they themselves, references, slices and tuples of such
types, and types that are known by their bounds. -/
inductive PlainTy : Ty → Prop
  | path {found : Path} (plain : PlainPath found) : PlainTy (.path found)
  | reference (lifetime : Option Ident) (mutable : Bool) {target : Ty} (plain : PlainTy target)
      (closed : target.isClosed = true) : PlainTy (.reference lifetime mutable target)
  | slice {element : Ty} (plain : PlainTy element) : PlainTy (.slice element)
  | tuple {elements : List Ty} (plain : ∀ element ∈ elements, PlainTy element) {comma : Bool}
      (none : elements = [] → comma = false) (single : elements.length = 1 → comma = true) :
      PlainTy (.tuple elements comma)
  | implTrait {bounds : List Bound} (plain : ∀ bound ∈ bounds, PlainBound bound)
      (some : bounds.any isTrait = true) : PlainTy (.implTrait bounds false)
  | object {bounds : List Bound} (plain : ∀ bound ∈ bounds, PlainBound bound)
      (some : bounds.any isTrait = true) : PlainTy (.traitObject true bounds false)

inductive PlainPath : Path → Prop
  | mk (leading : Bool) {segments : List Segment} (some : segments ≠ [])
      (plain : ∀ segment ∈ segments, PlainSegment segment) : PlainPath ⟨leading, segments⟩

inductive PlainSegment : Segment → Prop
  | name {name : Ident} (opens : name.OpensPath) : PlainSegment ⟨name, .none⟩
  | angle {name : Ident} (isName : name.isName = true) {held : List Argument} (some : held ≠ [])
      (sorted : held.Pairwise fun first second =>
        second.isLifetime = true → first.isLifetime = true)
      (plain : ∀ argument ∈ held, PlainArgument argument) :
      PlainSegment ⟨name, .angle false held false⟩

inductive PlainArgument : Argument → Prop
  | lifetime (name : Ident) : PlainArgument (.lifetime name)
  | type {ty : Ty} (plain : PlainTy ty) : PlainArgument (.type ty)
  | associated {name : Ident} (isName : name.isName = true) {ty : Ty} (plain : PlainTy ty) :
      PlainArgument (.associatedType name .none ty)

inductive PlainBound : Bound → Prop
  | lifetime (name : Ident) : PlainBound (.lifetime name)
  | trait {found : Path} (plain : PlainPath found) : PlainBound (.trait false false none found)

end

theorem PlainSegment.opens {segment : Segment} (plain : PlainSegment segment) :
    segment.name.OpensPath := by
  cases plain with
  | name opens => exact opens
  | angle isName => exact .inl isName

theorem PlainTy.name {name : Ident} (isName : name.isName = true) : PlainTy (nameTy name) :=
  .path (.mk false (by simp) (by simpa using PlainSegment.name (.inl isName)))

/-- A name with plain types between angle brackets. -/
theorem PlainTy.angle {name : Ident} (isName : name.isName = true) {types : List Ty}
    (some : types ≠ []) (plain : ∀ ty ∈ types, PlainTy ty) :
    PlainTy (.path ⟨false, [⟨name, .angle false (types.map .type) false⟩]⟩) := by
  have held : ∀ argument ∈ types.map Argument.type, PlainArgument argument := by
    intro argument member
    obtain ⟨ty, inside, rfl⟩ := List.mem_map.mp member
    exact .type (plain ty inside)
  have sorted : (types.map Argument.type).Pairwise fun first second =>
      second.isLifetime = true → first.isLifetime = true :=
    List.pairwise_map.mpr (List.pairwise_of_forall fun _ _ marked => by cases marked)
  refine .path (.mk false (by simp) fun segment member => ?_)
  obtain rfl := List.mem_singleton.mp member
  exact .angle isName (by simpa using some) sorted held

variable {g : Grammar} {rest : Tokens} {left : Option Delimiter}

/-! ### What plain types begin with -/

theorem beginWithWord_opens {name : Ident} (opens : name.OpensPath) (word : String)
    (reserved : word ∈ keywords) (other : word ∉ pathWords) (rest : Tokens) :
    Tokens.beginWithWord word (.ident name :: rest) = false := by
  obtain isName | ⟨opening, member, rfl⟩ := opens
  · exact Tokens.beginWithWord_name _ isName word reserved
  · rw [Tokens.beginWithWord_plain, beq_eq_false_iff_ne]
    rintro rfl
    exact other member

/-- Tokens that begin a type and nothing that stands in the place of one. -/
structure BeginsType (tokens : Tokens) : Prop where
  lifetime : tokens.beginWithLifetime = false
  literal : tokens.beginWithLiteral = false
  brace : tokens.beginWithGroup .brace = false
  close : tokens.beginWith ">" = false
  points : tokens.beginWith "..." = false
  relaxed : tokens.beginWith "?" = false
  mutable : tokens.beginWithWord "mut" = false

theorem beginsType_word {word : String}
    (opens : word ∈ ["super", "self", "Self", "crate", "impl", "dyn"]) (rest : Tokens) :
    BeginsType (.word word :: rest) := by
  simp only [List.mem_cons, List.not_mem_nil, or_false] at opens
  rcases opens with rfl | rfl | rfl | rfl | rfl | rfl <;> constructor <;> rfl

theorem beginsType_opens {name : Ident} (opens : name.OpensPath) (rest : Tokens) :
    BeginsType (.ident name :: rest) := by
  obtain isName | ⟨word, member, rfl⟩ := opens
  · refine ⟨rfl, Tokens.beginWithLiteral_name _ isName, rfl, ?_, ?_, ?_,
      Tokens.beginWithWord_name _ isName _ (by decide)⟩ <;>
        exact Tokens.beginWith_ident _ (by decide) _
  · exact beginsType_word (List.mem_append_left ["impl", "dyn"] member) rest

theorem beginsType_group {delimiter : Delimiter} (noBrace : delimiter ≠ .brace)
    (inner rest : Tokens) : BeginsType (.group delimiter inner :: rest) := by
  cases delimiter with
  | brace => exact absurd rfl noBrace
  | _ => constructor <;> rfl

theorem segments_tokens (leading : Bool) (first : Segment) (others : List Segment) :
    Path.tokens ⟨leading, first :: others⟩ =
      (if leading then Token.operator "::" else []) ++ (first.row ++ furtherRow others) := by
  rw [Path.tokens, segmentRows_eq_map, joinColons_cons]

theorem bound_tokens (found : Path) :
    (Bound.trait false false none found).tokens = found.tokens := by
  simp [Bound.tokens, binderTokens]

/-- A path begins with a name or with the mark of the root. -/
theorem PlainPath.front {found : Path} (plain : PlainPath found) :
    (∃ name more, name.OpensPath ∧ found.tokens = .ident name :: more) ∨
      ∃ more, found.tokens = Token.colons more := by
  obtain ⟨leading, some, plain⟩ := plain
  rename_i segments
  obtain ⟨first, others, rfl⟩ := List.exists_cons_of_ne_nil some
  rw [segments_tokens]
  cases leading with
  | true => exact .inr ⟨_, rfl⟩
  | false => exact .inl ⟨first.name, _, (plain first (.head _)).opens, rfl⟩

theorem PlainPath.begins {found : Path} (plain : PlainPath found) (rest : Tokens) :
    BeginsType (found.tokens ++ rest) := by
  obtain ⟨name, more, opens, row⟩ | ⟨more, row⟩ := plain.front
  · rw [row]
    exact beginsType_opens opens _
  · rw [row]
    constructor <;> rfl

theorem length_le_tokens (found : Path) : found.segments.length ≤ found.tokens.length := by
  obtain ⟨leading, _ | ⟨first, others⟩⟩ := found
  · exact Nat.zero_le _
  · have further : others.length ≤ (furtherRow others).length := by
      induction others with
      | nil => exact Nat.zero_le _
      | cons second others ih =>
        have row : furtherRow (second :: others) =
            Token.colons (second.row ++ furtherRow others) := rfl
        rw [row]
        simp
        omega
    rw [segments_tokens]
    simp [Segment.row]
    omega

/-- Tokens that begin a path, told apart from what else may begin a type or a bound. -/
structure BeginsPath (tokens : Tokens) : Prop where
  word : ∀ word ∈ keywords, word ∉ pathWords → tokens.beginWithWord word = false
  group : ∀ delimiter, tokens.beginWithGroup delimiter = false
  angle : tokens.beginWith "<" = false
  start : (tokens.beginWithName || tokens.beginWith "::" || tokens.beginWith "<" ||
    pathWords.any fun word => tokens.beginWithWord word) = true

theorem PlainPath.beginsPath {found : Path} (plain : PlainPath found) (rest : Tokens) :
    BeginsPath (found.tokens ++ rest) := by
  obtain ⟨name, more, opens, row⟩ | ⟨more, row⟩ := plain.front
  · rw [row]
    refine ⟨fun word reserved other => beginWithWord_opens opens word reserved other _,
      fun _ => rfl, Tokens.beginWith_ident _ (by decide) _, ?_⟩
    obtain isName | ⟨opening, member, rfl⟩ := opens
    · simp [isName]
    · have opens : (pathWords.any fun word => opening == word) = true :=
        List.any_eq_true.mpr ⟨opening, member, beq_self_eq_true opening⟩
      simp [opens]
  · rw [row]
    exact ⟨fun _ _ _ => rfl, fun _ => rfl, rfl, rfl⟩

theorem PlainTy.begins {ty : Ty} (plain : PlainTy ty) (rest : Tokens) :
    BeginsType (ty.tokens ++ rest) := by
  cases plain with
  | path plain =>
    rw [Ty.tokens]
    exact PlainPath.begins plain rest
  | reference lifetime mutable plain =>
    rw [Ty.tokens]
    constructor <;> rfl
  | slice plain =>
    rw [Ty.tokens]
    exact beginsType_group (by decide) _ rest
  | tuple plain =>
    rw [Ty.tokens]
    exact beginsType_group (by decide) _ rest
  | implTrait =>
    rw [Ty.tokens]
    exact beginsType_word (by decide) _
  | object =>
    rw [Ty.tokens]
    exact beginsType_word (by decide) _

/-- No row of tokens that begins a type is empty. -/
theorem BeginsType.ne_nil {row : Tokens} (begins : ∀ rest, BeginsType (row ++ rest)) :
    row ≠ [] := by
  rintro rfl
  cases (begins [.punct '>' false]).close

/-! ### What stands behind them -/

/-- Tokens that a segment does not take in. -/
structure EndsSegment (rest : Tokens) : Prop where
  angle : rest.beginWith "<" = false
  turbofish : (rest.beginWith "::" && Tokens.beginWith "<" (rest.drop 2)) = false

/-- Tokens that a path does not take in. -/
structure EndsPath (rest : Tokens) : Prop where
  angle : rest.beginWith "<" = false
  further : rest.beginWith "::" = false

theorem EndsPath.endsSegment (ends : EndsPath rest) : EndsSegment rest :=
  ⟨ends.angle, by simp [ends.further]⟩

/-- Tokens that a bound does not take in. -/
structure EndsBound (rest : Tokens) : Prop extends EndsPath rest where
  inputs : rest.beginWithGroup .paren = false

/-- Tokens that a type does not take in, whatever it begins with. -/
structure EndsType (rest : Tokens) : Prop extends EndsBound rest where
  call : rest.beginWith "!" = false
  plus : rest.beginWith "+" = false

theorem Ends.endsType (ends : Ends rest) : EndsType rest := by
  rcases ends with _ | ⟨_ | _, behind⟩ <;> exact ⟨⟨⟨rfl, rfl⟩, rfl⟩, rfl, rfl⟩

/-! ### Segments and paths -/

theorem segment_opens {name : Ident} (opens : name.OpensPath) (ends : EndsSegment rest)
    (fuel : Nat) :
    segment g false (fuel + 1) (.ident name :: rest) left = .ok ((⟨name, .none⟩, rest), left) := by
  obtain isName | ⟨word, member, rfl⟩ := opens
  · exact segment_name g _ isName ends.angle ends.turbofish
  · simp only [pathWords, List.mem_cons, List.not_mem_nil, or_false] at member
    rcases member with rfl | rfl | rfl | rfl <;>
      simp +decide [segment, seesWord, ends.angle, ends.turbofish]

/-- A comma or a closing bracket stands behind. -/
inductive EndsArgument : Tokens → Prop
  | comma (more : Tokens) : EndsArgument (.punct ',' false :: more)
  | close (more : Tokens) : EndsArgument (.punct '>' false :: more)

theorem EndsArgument.endsType (ends : EndsArgument rest) : EndsType rest := by
  cases ends <;> exact ⟨⟨⟨rfl, rfl⟩, rfl⟩, rfl, rfl⟩

theorem PlainArgument.noClose {held : Argument} (plain : PlainArgument held) (rest : Tokens) :
    Tokens.beginWith ">" (held.row ++ rest) = false := by
  cases plain with
  | lifetime name => rfl
  | type plain => exact (plain.begins rest).close
  | associated => exact Tokens.beginWith_ident _ (by decide) _

/-- Parts with a sign between them are taken, each in front of the sign or of what is behind all. -/
theorem separatedFor_joined {α : Type} {stop : Parser Bool} {value : Parser α}
    {write : α → Tokens} {fits : Tokens → Prop} {items : List α} {join : List Tokens → Tokens}
    {sign : Char} (joins : Joins join sign) {separator : String}
    (chars : separator.toList = [sign]) (some : items ≠ [])
    (goesOn : ∀ item ∈ items, ∀ rest left,
      stop (write item ++ rest) left = .ok ((false, write item ++ rest), left))
    (each : ∀ item ∈ items, Reads value (write item) fits (· = item))
    (further : ∀ more left, fits (.punct sign false :: more) ∧
      stop (.punct sign false :: more) left = .ok ((false, .punct sign false :: more), left))
    {fuel : Nat} (enough : (join (items.map write)).length < fuel) (ends : fits rest)
    (stops : ∀ left, stop rest left = .ok ((true, rest), left)) (left : Option Delimiter) :
    separatedFor separator stop value fuel (join (items.map write) ++ rest) left =
      .ok (((items, false), rest), left) := by
  induction items generalizing fuel with
  | nil => exact absurd rfl some
  | cons item others ih =>
    obtain ⟨here, goesOn⟩ := List.forall_mem_cons.mp goesOn
    obtain ⟨first, each⟩ := List.forall_mem_cons.mp each
    obtain ⟨fuel, rfl⟩ : ∃ fewer, fuel = fewer + 1 := ⟨fuel - 1, by omega⟩
    cases others with
    | nil =>
      obtain ⟨_, taken, rfl⟩ := first rest left ends
      simp [separatedFor, joins.single, here, taken, stops]
    | cons second others =>
      have fewer : (join ((second :: others).map write)).length < fuel := by
        simp [joins.double] at enough ⊢
        omega
      have loop := ih (by simp) goesOn each fewer
      obtain ⟨fitsSign, passes⟩ :=
        further (join ((second :: others).map write) ++ rest) left
      obtain ⟨_, taken, rfl⟩ := first _ left fitsSign
      simp only [List.map_cons] at loop taken passes
      rw [separatedFor]
      simp [joins.double, here, taken, passes, loop, chars, Tokens.beginWithChars]

/-- Arguments up to the closing bracket are taken, each in front of a comma or that bracket. -/
theorem commas_angle {α : Type} {value : Parser α} {write : α → Tokens} {items : List α}
    (some : items ≠ [])
    (noClose : ∀ item ∈ items, ∀ rest, Tokens.beginWith ">" (write item ++ rest) = false)
    (each : ∀ item ∈ items, Reads value (write item) EndsArgument (· = item)) (rest : Tokens)
    (left : Option Delimiter) :
    commas (seesPunct ">") value
        (Token.commaSeparated (items.map write) ++ .punct '>' false :: rest) left =
      .ok (((items, false), .punct '>' false :: rest), left) := by
  have joined : separatedFor "," (seesPunct ">") value
      ((Token.commaSeparated (items.map write) ++ .punct '>' false :: rest).length + 1)
      (Token.commaSeparated (items.map write) ++ .punct '>' false :: rest) left =
        .ok (((items, false), .punct '>' false :: rest), left) := by
    refine separatedFor_joined joins_commas rfl some (fun item member rest left => ?_) each
      (fun more left => ⟨.comma more, rfl⟩) ?_ (.close rest) (fun _ => rfl) left
    · simp [seesPunct, noClose item member rest]
    · rw [List.length_append]
      omega
  refine bind_ok_iff.mpr ⟨_, _, _, run_get _ _, ?_⟩
  exact bind_ok_iff.mpr ⟨_, _, _, joined, rfl⟩

/-- The types of which at most so many tokens are written are read again. -/
def ReadsTypes (g : Grammar) (size : Nat) : Prop :=
  ∀ ty plus, PlainTy ty → ty.tokens.size ≤ size → (plus = true ∨ ty.isClosed = true) →
    Reads (g.ty plus) ty.tokens EndsType (· = ty)

section

variable {size : Nat} (reads : ReadsTypes g size)

include reads

theorem reads_argument {held : Argument} (plain : PlainArgument held)
    (fits : Tokens.size held.row ≤ size) (fuel : Nat) :
    Reads (argument g (fuel + 1)) held.row EndsArgument (· = held) := by
  intro rest left ends
  refine ⟨held, ?_, rfl⟩
  have noPlus : rest.beginWith "+" = false := by cases ends <;> rfl
  have noValue : rest.beginWith "=" = false := by cases ends <;> rfl
  have noColon : rest.beginWith ":" = false := by cases ends <;> rfl
  cases plain with
  | lifetime name =>
    simp [argument, Argument.row, Token.lifetime, Tokens.beginWithLifetime, Tokens.afterOne,
      lifetime, noPlus]
  | @type ty plain =>
    have begins := plain.begins rest
    obtain ⟨_, taken, rfl⟩ := reads _ true plain fits (.inl rfl) rest left ends.endsType
    rw [Argument.row]
    simp only [argument, ↓run_bind, run_sees, begins.lifetime, begins.literal, begins.brace,
      Bool.false_and, Bool.or_false, Bool.false_eq_true, ↓run_ite, if_false, taken]
    split
    · simp only [punctWhere?]
      split <;> simp [noValue, noColon]
    · rfl
  | @associated name isName ty plain =>
    have begins := plain.begins rest
    have small : Tokens.size ty.tokens ≤ size := by
      simp [Argument.row, Arguments.tokens] at fits
      omega
    have smaller : 1 ≤ size := by
      simp [Argument.row, Arguments.tokens] at fits
      omega
    obtain ⟨ty, taken, rfl⟩ := reads _ true plain small (.inl rfl) rest left ends.endsType
    obtain ⟨_, first, rfl⟩ := reads _ true (.name isName) smaller (.inl rfl)
      (.punct '=' false :: (ty.tokens ++ rest)) left ⟨⟨⟨rfl, rfl⟩, rfl⟩, rfl, rfl⟩
    rw [Argument.row, Arguments.tokens]
    simp only [nameTy, Path.ofIdent, Ty.tokens, Path.tokens, segmentRows, joinColons,
      Arguments.tokens, List.nil_append, List.cons_append, Bool.false_eq_true, if_false] at first
    simp [argument, first, punctWhere?, begins.literal, begins.brace, taken,
      Tokens.beginWithChars, Tokens.beginWithLiteral_name, isName]

theorem reads_segment {found : Segment} (plain : PlainSegment found)
    (fits : Tokens.size found.row ≤ size + 1) (fuel : Nat) :
    Reads (segment g false (fuel + 3)) found.row EndsSegment (· = found) := by
  intro rest left ends
  refine ⟨found, ?_, rfl⟩
  cases plain with
  | name opens => exact segment_opens opens ends _
  | @angle name isName held some sorted plain =>
    have inOrder : (argumentRows held).Pairwise fun first second =>
        second.1 = true → first.1 = true := by
      rw [argumentRows_eq_map]
      exact List.pairwise_map.mpr sorted
    have rows : (argumentRows held).map Prod.snd = held.map Argument.row := by
      rw [argumentRows_eq_map, List.map_map]
      rfl
    rw [Segment.row, Arguments.tokens, orderedArguments_rows inOrder, rows] at fits ⊢
    have each : ∀ argument ∈ held, Reads (Grammar.argument g (fuel + 1)) argument.row EndsArgument
        (· = argument) := by
      intro argument member
      refine reads_argument reads (plain argument member) ?_ fuel
      have part := Tokens.size_joined joins_commas (List.mem_map_of_mem (f := Argument.row) member)
      simp [Tokens.size_append] at fits
      omega
    have taken := commas_angle some (fun argument member => (plain argument member).noClose) each
      rest left
    simp +decide [segment, seesWord, angleArguments, isName, Tokens.beginWithWord_name,
      Tokens.beginWithChars, taken]

theorem reads_furtherSegments {segments : List Segment}
    (plain : ∀ segment ∈ segments, PlainSegment segment)
    (fits : Tokens.size (furtherRow segments) ≤ size + 1) {fuel : Nat}
    (enough : segments.length + 3 < fuel) :
    Reads (furtherSegments g false fuel) (furtherRow segments) EndsPath (· = segments) := by
  intro rest left ends
  refine ⟨segments, ?_, rfl⟩
  induction segments generalizing fuel with
  | nil =>
    obtain ⟨fuel, rfl⟩ : ∃ fewer, fuel = fewer + 1 := ⟨fuel - 1, by omega⟩
    simp [furtherSegments, furtherRow, ends.further]
  | cons first others ih =>
    obtain ⟨here, others'⟩ := List.forall_mem_cons.mp plain
    obtain ⟨fuel, rfl⟩ : ∃ fewer, fuel = fewer + 4 := ⟨fuel - 4, by simp at enough; omega⟩
    have row : furtherRow (first :: others) = Token.colons (first.row ++ furtherRow others) := rfl
    rw [row] at fits ⊢
    simp only [Tokens.size_punct, Tokens.size_append] at fits
    have behind : EndsSegment (furtherRow others ++ rest) := by
      cases others with
      | nil => exact ends.endsSegment
      | cons => exact ⟨rfl, rfl⟩
    obtain ⟨first, taken, rfl⟩ := reads_segment reads here (by omega) fuel _ left behind
    have fewer : others.length + 3 < fuel + 3 := by
      rw [List.length_cons] at enough
      omega
    have further := ih others' (by omega) fewer
    have opens : Tokens.beginWithGroup .paren (first.row ++ (furtherRow others ++ rest)) = false :=
      rfl
    rw [furtherSegments]
    simp [Tokens.beginWithChars, taken, further, opens]

theorem reads_path {found : Path} (plain : PlainPath found)
    (fits : Tokens.size found.tokens ≤ size + 1) {fuel : Nat}
    (enough : found.segments.length + 3 < fuel) :
    Reads (path g false fuel) found.tokens EndsPath (· = found) := by
  intro rest left ends
  refine ⟨found, ?_, rfl⟩
  obtain ⟨leading, some, plain⟩ := plain
  rename_i segments
  obtain ⟨first, others, rfl⟩ := List.exists_cons_of_ne_nil some
  obtain ⟨here, others'⟩ := List.forall_mem_cons.mp plain
  obtain ⟨fuel, rfl⟩ : ∃ fewer, fuel = fewer + 4 := ⟨fuel - 4, by omega⟩
  rw [segments_tokens] at fits ⊢
  simp only [Tokens.size_append] at fits
  have behind : EndsSegment (furtherRow others ++ rest) := by
    cases others with
    | nil => exact ends.endsSegment
    | cons => exact ⟨rfl, rfl⟩
  obtain ⟨first, taken, rfl⟩ := reads_segment reads here (by omega) fuel _ left behind
  have fewer : others.length + 3 < fuel + 3 := by
    rw [List.length_cons] at enough
    omega
  obtain ⟨others, further, rfl⟩ :=
    reads_furtherSegments reads others' (by omega) fewer rest left ends
  have opens : Tokens.beginWith "::" (first.row ++ (furtherRow others ++ rest)) = false :=
    Tokens.beginWith_ident _ (by decide) _
  cases leading <;>
    simp [path, Tokens.beginWithChars, taken, further, opens, Token.operator, Token.operatorChars]

/-! ### Bounds -/

theorem reads_bound {held : Bound} (plain : PlainBound held)
    (fits : Tokens.size held.tokens ≤ size + 1) (captures constness : Bool) {fuel : Nat}
    (enough : held.tokens.length + 6 < fuel) :
    Reads (bound g captures constness fuel) held.tokens EndsBound (· = held) := by
  intro rest left ends
  refine ⟨held, ?_, rfl⟩
  obtain ⟨fuel, rfl⟩ : ∃ fewer, fuel = fewer + 2 := ⟨fuel - 2, by omega⟩
  cases plain with
  | lifetime name =>
    simp [bound, Bound.tokens, Token.lifetime, Tokens.beginWithLifetime, lifetime]
  | @trait found plain =>
    rw [bound_tokens] at fits enough ⊢
    have begins := plain.begins rest
    have front := plain.beginsPath rest
    have steps : found.segments.length + 3 < fuel := by
      have shorter := length_le_tokens found
      omega
    obtain ⟨found, taken, rfl⟩ := reads_path reads plain fits steps rest left ends.toEndsPath
    have alone : withParenArguments g found rest left = .ok ((found, rest), left) := by
      rw [withParenArguments]
      rcases found.segments.getLast? with _ | ⟨name, _ | _ | _⟩ <;>
        simp [seesParenArguments, ends.inputs, ends.further]
    have noUse := front.word "use" (by decide) (by decide)
    have noFor := front.word "for" (by decide) (by decide)
    have noConst := front.word "const" (by decide) (by decide)
    rw [bound]
    simp [traitBound, binder?, constness?, seesWord, seesGroup, begins.lifetime, begins.relaxed,
      front.group, noUse, noFor, noConst, taken, alone]

/-- A bound is read with as many steps as the tokens in front ask for. -/
theorem reads_stepped {held : Bound} (plain : PlainBound held)
    (fits : Tokens.size held.tokens ≤ size + 1) (captures constness : Bool) :
    Reads (do bound g captures constness (← steps)) held.tokens EndsBound (· = held) := by
  intro rest left ends
  have enough : held.tokens.length + 6 < 8 * (held.tokens ++ rest).length + 16 := by
    rw [List.length_append]
    omega
  obtain ⟨held, taken, rfl⟩ :=
    reads_bound reads plain fits captures constness enough rest left ends
  refine ⟨held, ?_, rfl⟩
  simpa [steps] using taken

end

/-- Parts joined by plus signs are taken, each in front of a plus sign or of what is behind all. -/
theorem pluses_joined {α : Type} {stop : Parser Bool} {value : Parser α} {write : α → Tokens}
    {fits : Tokens → Prop} {items : List α} (some : items ≠ [])
    (goesOn : ∀ item ∈ items, ∀ rest left,
      stop (write item ++ rest) left = .ok ((false, write item ++ rest), left))
    (each : ∀ item ∈ items, Reads value (write item) fits (· = item))
    (further : ∀ more, fits (.punct '+' false :: more)) (ends : fits rest)
    (noPlus : rest.beginWith "+" = false) (left : Option Delimiter) :
    pluses stop value (withPluses false (items.map write) ++ rest) left =
      .ok (((items, false), rest), left) := by
  have joined {fuel : Nat} (enough : (withPluses false (items.map write)).length < fuel) :
      plusesFor stop value fuel (withPluses false (items.map write) ++ rest) left =
        .ok (((items, false), rest), left) := by
    induction items generalizing fuel with
    | nil => exact absurd rfl some
    | cons item others ih =>
      obtain ⟨here, goesOn⟩ := List.forall_mem_cons.mp goesOn
      obtain ⟨first, each⟩ := List.forall_mem_cons.mp each
      obtain ⟨fuel, rfl⟩ : ∃ fewer, fuel = fewer + 1 := ⟨fuel - 1, by omega⟩
      cases others with
      | nil =>
        obtain ⟨_, taken, rfl⟩ := first rest left ends
        simp [plusesFor, withPluses, here, taken, noPlus]
      | cons second others =>
        have fewer : (withPluses false ((second :: others).map write)).length < fuel := by
          simp [withPluses] at enough ⊢
          omega
        have loop := ih (by simp) goesOn each fewer
        obtain ⟨_, taken, rfl⟩ :=
          first _ left (further (withPluses false ((second :: others).map write) ++ rest))
        simp only [List.map_cons] at loop taken
        rw [plusesFor]
        simp [withPluses, here, taken, loop, Tokens.beginWithChars]
  refine bind_ok_iff.mpr ⟨_, _, _, run_get _ _, ?_⟩
  refine bind_ok_iff.mpr ⟨_, _, _, joined ?_, rfl⟩
  rw [List.length_append]
  omega

/-- A bound begins with a name, the mark of the root, or a lifetime. -/
theorem PlainBound.front {held : Bound} (plain : PlainBound held) :
    (∃ name more, name.OpensPath ∧ held.tokens = .ident name :: more) ∨
      (∃ more, held.tokens = Token.colons more) ∨ ∃ name, held.tokens = Token.lifetime name := by
  cases plain with
  | lifetime name => exact .inr (.inr ⟨name, rfl⟩)
  | trait plain =>
    rw [bound_tokens]
    exact plain.front.imp_right .inl

theorem PlainBound.starts {held : Bound} (plain : PlainBound held) (constness : Bool)
    (rest : Tokens) (left : Option Delimiter) :
    seesBoundStart constness (held.tokens ++ rest) left =
      .ok ((true, held.tokens ++ rest), left) := by
  obtain ⟨name, more, -, row⟩ | ⟨more, row⟩ | ⟨name, row⟩ := plain.front
  all_goals
    rw [row]
    rfl

theorem PlainBound.noSign {held : Bound} (plain : PlainBound held) {operator : String}
    (other : operator ∈ ["*", ",", ">", "="]) (rest : Tokens) :
    Tokens.beginWith operator (held.tokens ++ rest) = false := by
  simp only [List.mem_cons, List.not_mem_nil, or_false] at other
  obtain ⟨name, more, -, row⟩ | ⟨more, row⟩ | ⟨name, row⟩ := plain.front
  · rw [row]
    rcases other with rfl | rfl | rfl | rfl <;> exact Tokens.beginWith_ident _ (by decide) name
  all_goals
    rw [row]
    rcases other with rfl | rfl | rfl | rfl <;> rfl

theorem endsBound_plus (more : Tokens) : EndsBound (.punct '+' false :: more) :=
  ⟨⟨rfl, rfl⟩, rfl⟩

section

variable {size : Nat} (reads : ReadsTypes g size) {bounds : List Bound}
  (plain : ∀ held ∈ bounds, PlainBound held)
  (fits : Tokens.size (withPluses false (bounds.map Bound.tokens)) ≤ size)

include reads plain fits

theorem reads_typeBounds (some : bounds ≠ []) {plus : Bool}
    (closed : plus = true ∨ bounds.length = 1) (captures constness : Bool) :
    Reads (typeBounds g plus captures constness) (withPluses false (bounds.map Bound.tokens))
      EndsType (· = (bounds, false)) := by
  intro rest left ends
  refine ⟨_, ?_, rfl⟩
  have each (captures constness : Bool) : ∀ held ∈ bounds,
      Reads (do bound g captures constness (← steps)) held.tokens EndsBound (· = held) := by
    intro held member
    have part := Tokens.size_joined joins_pluses (List.mem_map_of_mem (f := Bound.tokens) member)
    exact reads_stepped reads (plain held member) (by omega) captures constness
  obtain ⟨first, others, rfl⟩ := List.exists_cons_of_ne_nil some
  cases others with
  | nil =>
    obtain ⟨first, taken, rfl⟩ :=
      each captures constness first (.head _) rest left ends.toEndsBound
    obtain ⟨_, _, _, counted, taken⟩ := bind_ok_iff.mp taken
    have row : withPluses false ([first].map Bound.tokens) ++ rest = first.tokens ++ rest := by
      simp [withPluses]
    rw [typeBounds, row, run_step counted, run_step taken]
    simp [punctWhere?, ends.plus]
  | cons second others =>
    obtain rfl : plus = true := closed.resolve_right (by simp)
    obtain ⟨first, taken, rfl⟩ := each captures constness first (.head _)
      (.punct '+' false :: (withPluses false ((second :: others).map Bound.tokens) ++ rest)) left
      (endsBound_plus _)
    have goesOn : ∀ held ∈ second :: others, ∀ rest left,
        (do return !(← seesBoundStart constness) : Parser Bool) (held.tokens ++ rest) left =
          .ok ((false, held.tokens ++ rest), left) := by
      intro held member rest left
      rw [run_step ((plain held (.tail _ member)).starts constness rest left)]
      rfl
    have joined := pluses_joined (by simp) goesOn
      (fun held member => each captures constness held (.tail _ member)) endsBound_plus
      ends.toEndsBound ends.plus left
    have further : furtherBounds g captures constness
        (withPluses false ((second :: others).map Bound.tokens) ++ rest) left =
          .ok (((second :: others, false), rest), left) :=
      bind_ok_iff.mpr ⟨_, _, _, joined, rfl⟩
    obtain ⟨_, _, _, counted, taken⟩ := bind_ok_iff.mp taken
    have row : withPluses false ((first :: second :: others).map Bound.tokens) ++ rest =
        first.tokens ++ .punct '+' false ::
          (withPluses false ((second :: others).map Bound.tokens) ++ rest) := by
      simp [withPluses]
    rw [typeBounds, row, run_step counted, run_step taken]
    exact bind_ok_iff.mpr ⟨true, _, _, rfl, bind_ok_iff.mpr ⟨_, _, _, further, rfl⟩⟩

end

/-! ### Types -/

section

variable {size : Nat} (reads : ReadsTypes g size)

include reads

theorem reads_pathTy {found : Path} (plain : PlainPath found)
    (fits : Tokens.size found.tokens ≤ size + 1) (plus : Bool) :
    Reads (typeRule g plus) found.tokens EndsType (· = .path found) := by
  intro rest left ends
  refine ⟨_, ?_, rfl⟩
  have front := plain.beginsPath rest
  have enough : found.segments.length + 3 < 8 * (found.tokens ++ rest).length + 16 := by
    have shorter := length_le_tokens found
    rw [List.length_append]
    omega
  obtain ⟨found, taken, rfl⟩ := reads_path reads plain fits enough rest left ends.toEndsPath
  have noBinder := front.word "for" (by decide) (by decide)
  have noFn := front.word "fn" (by decide) (by decide)
  have noUnsafe := front.word "unsafe" (by decide) (by decide)
  have noExtern := front.word "extern" (by decide) (by decide)
  have whole : fullPath g false (found.tokens ++ rest) left = .ok ((found, rest), left) :=
    bind_ok_iff.mpr ⟨_, _, _, rfl, taken⟩
  have start := front.start
  simp only [front.angle, Bool.or_false, Bool.or_eq_true, List.any_eq_true] at start
  simp [typeRule, binder?, seesGroup, seesPunct, pathTy, qualifiedPath, whole, noBinder, noFn,
    noUnsafe, noExtern, front.group, front.angle, start, ends.call, ends.plus]

theorem reads_reference (name : Option Ident) (mutable : Bool) {target : Ty}
    (plain : PlainTy target) (fits : Tokens.size target.tokens ≤ size)
    (closed : target.isClosed = true) (plus : Bool) :
    Reads (typeRule g plus) (Ty.reference name mutable target).tokens EndsType
      (· = .reference name mutable target) := by
  intro rest left ends
  refine ⟨_, ?_, rfl⟩
  have begins := plain.begins rest
  obtain ⟨target, taken, rfl⟩ := reads target false plain fits (.inr closed) rest left ends
  have named (more : Tokens) (other : more.beginWithLifetime = false) :
      lifetime? ((name.map Token.lifetime).getD [] ++ more) left = .ok ((name, more), left) := by
    cases name with
    | none => simp [lifetime?, other]
    | some name => simp [lifetime?, Token.lifetime, Tokens.beginWithLifetime, lifetime]
  have unmarked := named _ begins.lifetime
  have marked := named (.ident (.plain "mut") :: (target.tokens ++ rest)) rfl
  cases mutable <;>
    simp [typeRule, binder?, seesGroup, pathWords, Ty.tokens, keywordIf, Token.word,
      Tokens.beginWithChars, unmarked, marked, taken, begins.mutable]

theorem reads_slice {element : Ty} (plain : PlainTy element)
    (fits : Tokens.size element.tokens ≤ size) (plus : Bool) :
    Reads (typeRule g plus) (Ty.slice element).tokens EndsType (· = .slice element) := by
  intro rest left ends
  refine ⟨_, ?_, rfl⟩
  obtain ⟨element, taken, rfl⟩ := reads element true plain fits (.inl rfl) [] left
    ⟨⟨⟨rfl, rfl⟩, rfl⟩, rfl, rfl⟩
  rw [List.append_nil] at taken
  have noName : Tokens.beginWithName (.group .bracket element.tokens :: rest) = false := rfl
  have noSign : Tokens.beginWith ";" [] = false := rfl
  simp [typeRule, binder?, seesGroup, pathWords, Ty.tokens, Token.bracket, Tokens.beginWith_group,
    taken, noName, noSign]

theorem reads_tuple {elements : List Ty} (plain : ∀ element ∈ elements, PlainTy element)
    (fits : ∀ element ∈ elements, Tokens.size element.tokens ≤ size) {comma : Bool}
    (none : elements = [] → comma = false) (single : elements.length = 1 → comma = true)
    (plus : Bool) :
    Reads (typeRule g plus) (Ty.tuple elements comma).tokens EndsType
      (· = .tuple elements comma) := by
  intro rest left ends
  refine ⟨_, ?_, rfl⟩
  cases elements with
  | nil =>
    obtain rfl := none rfl
    simp [typeRule, binder?, seesGroup, parenTy, atEnd, Ty.tokens, tyRows, withCommas, Token.paren,
      Token.commaSeparated]
  | cons first others =>
    obtain ⟨here, others'⟩ := List.forall_mem_cons.mp plain
    obtain ⟨fitsHere, small⟩ := List.forall_mem_cons.mp fits
    have more : (comma || (first :: others).length == 1) = true ∨ others.map Ty.tokens ≠ [] := by
      cases others with
      | nil => exact .inl (by simp)
      | cons => exact .inr (by simp)
    have row : (Ty.tuple (first :: others) comma).tokens = [.paren (first.tokens ++
        .punct ',' false :: withCommas (comma || (first :: others).length == 1)
          (others.map Ty.tokens))] := by
      rw [Ty.tokens, tyRows_eq_map, List.map_cons, withCommas_cons more]
    have ended : ((comma || (first :: others).length == 1) && !others.isEmpty || others.isEmpty) =
        comma := by
      cases others with
      | nil => simpa using (single rfl).symm
      | cons => simp
    generalize (comma || (first :: others).length == 1) = written at row ended
    have begins := here.begins
      (.punct ',' false :: withCommas written (others.map Ty.tokens))
    obtain ⟨first, taken, rfl⟩ := reads first true here fitsHere (.inl rfl)
      (.punct ',' false :: withCommas written (others.map Ty.tokens)) left
      ⟨⟨⟨rfl, rfl⟩, rfl⟩, rfl, rfl⟩
    have each : ∀ element ∈ others, Reads (g.ty true) element.tokens Ends fun held =>
        held = element := by
      intro element member rest left ends
      exact reads element true (others' element member) (small element member) (.inl rfl) rest left
        ends.endsType
    obtain ⟨⟨found, flag⟩, further, same, flagged⟩ := reads_commas
      (fun element member => BeginsType.ne_nil (others' element member).begins) each written [] left
      rfl
    rw [List.forall₂_eq_eq_eq] at same
    cases same
    obtain rfl : flag = (written && !found.isEmpty) := flagged
    rw [List.append_nil] at further
    have goesOn : first.tokens ++ .punct ',' false :: withCommas written (found.map Ty.tokens) ≠
        [] := by simp
    rw [row]
    simp [typeRule, binder?, seesGroup, seesPunct, parenTy, run_atEnd goesOn, Token.paren, taken,
      further, begins.lifetime, begins.relaxed, Tokens.beginWithChars]
    exact ended

theorem reads_bounded {bounds : List Bound} (plain : ∀ held ∈ bounds, PlainBound held)
    (fits : Tokens.size (withPluses false (bounds.map Bound.tokens)) ≤ size)
    (some : bounds.any isTrait = true) {plus : Bool} (closed : plus = true ∨ bounds.length = 1) :
    Reads (typeRule g plus) (Ty.implTrait bounds false).tokens EndsType
      (· = .implTrait bounds false) ∧
    Reads (typeRule g plus) (Ty.traitObject true bounds false).tokens EndsType
      (· = .traitObject true bounds false) := by
  have nonempty : bounds ≠ [] := by
    rintro rfl
    cases some
  constructor
  · intro rest left ends
    refine ⟨_, ?_, rfl⟩
    obtain ⟨_, taken, rfl⟩ :=
      reads_typeBounds reads plain fits nonempty closed true true rest left ends
    simp +decide [typeRule, binder?, seesGroup, pathWords, Ty.tokens, boundRows_eq_map, Token.word,
      Tokens.beginWith_ident, taken, some]
  · intro rest left ends
    refine ⟨_, ?_, rfl⟩
    obtain ⟨_, taken, rfl⟩ :=
      reads_typeBounds reads plain fits nonempty closed false false rest left ends
    have noStar :
        Tokens.beginWith "*" (withPluses false (bounds.map Bound.tokens) ++ rest) = false := by
      obtain ⟨first, _ | ⟨second, others⟩, rfl⟩ := List.exists_cons_of_ne_nil nonempty
      · simpa [withPluses] using (plain first (.head _)).noSign (by decide) rest
      · simpa [withPluses] using (plain first (.head _)).noSign (by decide) _
    simp +decide [typeRule, binder?, seesGroup, pathWords, Ty.tokens, boundRows_eq_map, Token.word,
      keywordIf, Tokens.beginWith_ident, taken, some, objectBounds, noStar]

/-- A rule that calls on rules for smaller types reads the larger ones. -/
theorem reads_typeRule {ty : Ty} (plain : PlainTy ty) (fits : ty.tokens.size ≤ size + 1)
    {plus : Bool} (closed : plus = true ∨ ty.isClosed = true) :
    Reads (typeRule g plus) ty.tokens EndsType (· = ty) := by
  cases plain with
  | path plain =>
    rw [Ty.tokens] at fits ⊢
    exact reads_pathTy reads plain fits plus
  | reference name mutable plain isClosed =>
    refine reads_reference reads name mutable plain ?_ isClosed plus
    simp [Ty.tokens, Tokens.size_append] at fits
    omega
  | slice plain =>
    refine reads_slice reads plain ?_ plus
    simpa [Ty.tokens, Token.bracket, Tokens.size] using fits
  | tuple plain none single =>
    refine reads_tuple reads plain (fun element member => ?_) none single plus
    have part := Tokens.size_joined joins_commas (List.mem_map_of_mem (f := Ty.tokens) member)
    simp [Ty.tokens, Token.paren, Tokens.size, tyRows_eq_map, withCommas,
      Tokens.size_append] at fits
    omega
  | implTrait plain some =>
    refine (reads_bounded reads plain ?_ some ?_).1
    · simpa [Ty.tokens, Token.word, boundRows_eq_map] using fits
    · simpa [Ty.isClosed] using closed
  | object plain some =>
    refine (reads_bounded reads plain ?_ some ?_).2
    · simpa [Ty.tokens, Token.word, boundRows_eq_map, keywordIf] using fits
    · simpa [Ty.isClosed] using closed

end

/-- Rules that may call one another as deep as a plain type has tokens read it again. -/
theorem readsTypes_level (depth : Nat) : ReadsTypes (level depth) depth := by
  induction depth with
  | zero =>
    intro ty plus plain fits
    have some := BeginsType.ne_nil plain.begins
    obtain ⟨token, others, row⟩ := List.exists_cons_of_ne_nil some
    rw [row] at fits
    cases token <;> simp [Tokens.size, Tokens.sizeOne] at fits
  | succ depth ih =>
    intro ty plus plain fits closed
    exact reads_typeRule ih plain fits closed

/-! ### Bounds of traits and parameters -/

/-- A lifetime or a name for a type, which may have bounds. -/
inductive PlainParameter : GenericParameter → Prop
  | lifetime (name : Ident) : PlainParameter (.lifetime [] name [] false)
  | type {name : Ident} (isName : name.isName = true) {bounds : List Bound}
      (plain : ∀ held ∈ bounds, PlainBound held) : PlainParameter (.type [] name bounds false none)

/-- Parameters without a where clause, the lifetimes first. -/
structure PlainGenerics (generics : Generics) : Prop where
  parameters : ∀ held ∈ generics.parameters, PlainParameter held
  sorted : generics.parameters.Pairwise fun first second =>
    second.isLifetime = true → first.isLifetime = true
  noComma : generics.comma = false
  noClause : generics.clause = none

section

variable {size : Nat} (reads : ReadsTypes g size)

include reads

theorem reads_parameter {held : GenericParameter} (plain : PlainParameter held)
    (fits : Tokens.size held.tokens ≤ size) :
    Reads (genericParameter g) held.tokens EndsArgument (· = held) := by
  intro rest left ends
  refine ⟨held, ?_, rfl⟩
  have apart : rest.Apart := by cases ends <;> constructor <;> rfl
  cases plain with
  | lifetime name =>
    have unmarked : outerAttributes g (Token.lifetime name ++ rest) left =
        .ok (([], Token.lifetime name ++ rest), left) := by
      have noMark : Tokens.beginWith "#" (Token.lifetime name ++ rest) = false := rfl
      simp [outerAttributes, many, repeatFor, noMark]
    have row : (GenericParameter.lifetime [] name [] false).tokens = Token.lifetime name := rfl
    rw [row, genericParameter, run_step unmarked]
    simp [lifetimeParameter, Token.lifetime, Tokens.beginWithLifetime, lifetime, apart.colon]
  | @type name isName bounds plain =>
    cases bounds with
    | nil =>
      have taken : genericParameter g (.ident name :: rest) left = _ :=
        genericParameter_name g isName apart
      simpa [GenericParameter.tokens, outerTokens, boundRows, boundsTokens] using taken
    | cons first others =>
      have row : (GenericParameter.type [] name (first :: others) false none).tokens =
          .ident name :: .punct ':' false ::
            withPluses false ((first :: others).map Bound.tokens) := by
        simp [GenericParameter.tokens, outerTokens, boundRows_eq_map, boundsTokens]
      rw [row] at fits ⊢
      have small : ∀ held ∈ first :: others, Tokens.size held.tokens ≤ size + 1 := by
        intro held member
        have part := Tokens.size_joined joins_pluses (List.mem_map_of_mem (f := Bound.tokens) member)
        simp only [Tokens.size_ident, Tokens.size_punct] at fits
        omega
      have goesOn : ∀ held ∈ first :: others, ∀ rest left,
          (sees fun tokens => tokens.isEmpty || tokens.beginWith "," || tokens.beginWith ">" ||
            tokens.beginWith "=") (held.tokens ++ rest) left =
              .ok ((false, held.tokens ++ rest), left) := by
        intro held member rest left
        have begins := plain held member
        have more : (held.tokens ++ rest).isEmpty = false := by
          obtain ⟨name, more, -, row⟩ | ⟨more, row⟩ | ⟨name, row⟩ := begins.front
          all_goals
            rw [row]
            rfl
        simp [more, begins.noSign]
      have each : ∀ held ∈ first :: others,
          Reads (anyBound g) held.tokens EndsBound (· = held) := fun held member =>
        reads_stepped reads (plain held member) (small held member) false true
      have bounded := pluses_joined (by simp) goesOn each endsBound_plus
        ends.endsType.toEndsBound apart.bound left
      rw [List.cons_append, List.cons_append]
      generalize withPluses false ((first :: others).map Bound.tokens) ++ rest = tokens at bounded ⊢
      simp [genericParameter, outerAttributes_ident, isName, typeParameter, Tokens.beginWithChars,
        bounded, apart.value]

/-- Parameters between angle brackets, if there are any. -/
theorem reads_genericParameters {generics : Generics} (plain : PlainGenerics generics)
    (fits : Tokens.size generics.tokens ≤ size) :
    Reads (genericParameters g) generics.tokens (fun rest => rest.beginWith "<" = false)
      (· = generics) := by
  obtain ⟨parameters, comma, clause⟩ := generics
  obtain ⟨plain, sorted, rfl, rfl⟩ := plain
  intro rest left ends
  refine ⟨_, ?_, rfl⟩
  cases parameters with
  | nil => simp [genericParameters, Generics.tokens, ends]
  | cons first others =>
    have inOrder : ((first :: others).map fun held => (held.isLifetime, held.tokens)).Pairwise
        fun first second => second.1 = true → first.1 = true := List.pairwise_map.mpr sorted
    have row : Generics.tokens ⟨first :: others, false, none⟩ = .punct '<' false ::
        (Token.commaSeparated ((first :: others).map GenericParameter.tokens) ++
          [.punct '>' false]) := by
      rw [Generics.tokens, orderedArguments_rows inOrder, List.map_map]
      rfl
    rw [row] at fits ⊢
    have each : ∀ held ∈ first :: others,
        Reads (genericParameter g) held.tokens EndsArgument (· = held) := by
      intro held member
      refine reads_parameter reads (plain held member) ?_
      have part :=
        Tokens.size_joined joins_commas (List.mem_map_of_mem (f := GenericParameter.tokens) member)
      simp only [Tokens.size_punct, Tokens.size_append] at fits
      omega
    have noClose : ∀ held ∈ first :: others, ∀ rest,
        Tokens.beginWith ">" (held.tokens ++ rest) = false := by
      intro held member rest
      cases plain held member with
      | lifetime name => rfl
      | type => exact Tokens.beginWith_ident _ (by decide) _
    have taken := commas_angle (by simp) noClose each rest left
    rw [List.cons_append, List.append_assoc, List.singleton_append]
    generalize Token.commaSeparated ((first :: others).map GenericParameter.tokens) ++
      .punct '>' false :: rest = tokens at taken ⊢
    simp [genericParameters, Tokens.beginWithChars, taken]

/-- The bounds of a trait, if there are any. -/
theorem reads_traitConditions {bounds : List Bound} (plain : ∀ held ∈ bounds, PlainBound held)
    (fits : Tokens.size (boundsTokens false (bounds.map Bound.tokens)) ≤ size) :
    Reads (traitConditions g) (boundsTokens false (bounds.map Bound.tokens)) OpensBrace
      (· = ((bounds, false), none)) := by
  rintro _ left ⟨inner, more, rfl⟩
  refine ⟨_, ?_, rfl⟩
  have noClause : whereClause? g (.brace inner :: more) left =
      .ok ((none, .brace inner :: more), left) := by
    simp [whereClause?, Token.brace]
  cases bounds with
  | nil => simp [traitConditions, boundsTokens, Token.brace, Tokens.beginWith_group, whereClause?]
  | cons first others =>
    have row : boundsTokens false ((first :: others).map Bound.tokens) = .punct ':' false ::
        withPluses false ((first :: others).map Bound.tokens) := rfl
    rw [row] at fits ⊢
    have each : ∀ held ∈ first :: others,
        Reads (anyBound g) held.tokens EndsBound (· = held) := by
      intro held member
      have part := Tokens.size_joined joins_pluses (List.mem_map_of_mem (f := Bound.tokens) member)
      simp only [Tokens.size_punct] at fits
      exact reads_stepped reads (plain held member) (by omega) false true
    have goesOn : ∀ held ∈ first :: others, ∀ rest left,
        (sees fun tokens => tokens.beginWithWord "where" || tokens.beginWithGroup .brace)
          (held.tokens ++ rest) left = .ok ((false, held.tokens ++ rest), left) := by
      intro held member rest left
      obtain ⟨name, more, opens, row⟩ | ⟨more, row⟩ | ⟨name, row⟩ := (plain held member).front
      · rw [row]
        simp [beginWithWord_opens opens "where" (by decide) (by decide)]
      all_goals
        rw [row]
        rfl
    have bounded : separatedFor "+"
        (sees fun tokens => tokens.beginWithWord "where" || tokens.beginWithGroup .brace)
        (anyBound g)
        ((withPluses false ((first :: others).map Bound.tokens) ++ .brace inner :: more).length + 1)
        (withPluses false ((first :: others).map Bound.tokens) ++ .brace inner :: more) left =
          .ok (((first :: others, false), .brace inner :: more), left) := by
      refine separatedFor_joined joins_pluses rfl (by simp) goesOn each
        (fun more left => ⟨endsBound_plus more, rfl⟩) ?_ ⟨⟨rfl, rfl⟩, rfl⟩ (fun _ => rfl) left
      rw [List.length_append]
      omega
    refine bind_ok_iff.mpr ⟨true, _, _, rfl, ?_⟩
    refine bind_ok_iff.mpr ⟨_, _, _, run_get _ _, ?_⟩
    exact bind_ok_iff.mpr ⟨_, _, _, bounded, run_step noClause⟩

end

end Grammar

end Endpoint.Source
