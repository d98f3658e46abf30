import Endpoint.Proofs.Route
import Endpoint.Proofs.Route.Slice
import Mathlib.Data.List.Chain

/-!
The grammar of templates. Main statement: reading accepts exactly the grammar, and gives the one
list of segments in normal form that the template is written from.
-/

namespace Endpoint.Route

/-- An ASCII identifier other than the low line alone. -/
def IsIdentifier (name : List Char) : Prop :=
  name ≠ ['_'] ∧ ∃ first rest, name = first :: rest ∧ (first.isAlpha = true ∨ first = '_') ∧
    ∀ c ∈ rest, c.isAlphanum = true ∨ c = '_'

/-- Text that is a template: literal characters, and identifiers in braces. -/
inductive IsTemplate : List Char → Prop
  | nil : IsTemplate []
  | literal {c : Char} {rest : List Char} (plain : isLiteral c = true)
      (behind : IsTemplate rest) : IsTemplate (c :: rest)
  | placeholder {name rest : List Char} (named : IsIdentifier name) (behind : IsTemplate rest) :
      IsTemplate (openBrace :: (name ++ closeBrace :: rest))

/-- Segments one behind the other that are not both literals. -/
def Segment.Apart : Segment → Segment → Prop
  | .literal _, .literal _ => False
  | _, _ => True

/-- Segments as reading gives them: valid ones, literals apart. -/
structure IsNormal (segments : List Segment) : Prop where
  valid : ∀ segment ∈ segments, segment.Valid
  apart : segments.IsChain Segment.Apart

theorem isName_iff {name : List Char} : isName name = true ↔ IsIdentifier name := by
  cases name with
  | nil => simp [isName, IsIdentifier]
  | cons first rest => simp [isName, IsIdentifier, and_assoc]

/-- A name holds no brace. -/
theorem isName_plain {name : List Char} (named : isName name = true) :
    ∀ c ∈ name, c ≠ openBrace ∧ c ≠ closeBrace := by
  obtain ⟨_, first, rest, rfl, start, behind⟩ := isName_iff.mp named
  have plain {c : Char} (part : c.isAlphanum = true ∨ c = '_') :
      c ≠ openBrace ∧ c ≠ closeBrace := by
    constructor <;> rintro rfl <;> exact absurd part (by decide)
  intro c member
  rcases List.mem_cons.mp member with rfl | later
  · exact plain (start.imp_left fun alpha => by simp [Char.isAlphanum, alpha])
  · exact plain (behind c later)

/-! ### Reading what is written -/

theorem readFrom_literal {c : Char} (plain : isLiteral c = true) (offset : Nat)
    (literal rest : List Char) :
    readFrom offset (.outside literal) (c :: rest) =
      readFrom (offset + c.utf8Size) (.outside (literal ++ [c])) rest := by
  simp only [isLiteral, Bool.and_eq_true, bne_iff_ne] at plain
  obtain ⟨⟨⟨noOpen, noClose⟩, noQuery⟩, noFragment⟩ := plain
  rw [readFrom]
  simp [noOpen, noClose, noQuery, noFragment]

/-- Literal characters are added to the literal that is being read. -/
theorem readFrom_literals {text : List Char} (plain : text.all isLiteral = true) (offset : Nat)
    (literal rest : List Char) :
    ∃ later, readFrom offset (.outside literal) (text ++ rest) =
      readFrom later (.outside (literal ++ text)) rest := by
  induction text generalizing offset literal with
  | nil => exact ⟨offset, by simp⟩
  | cons c text ih =>
    simp only [List.all_cons, Bool.and_eq_true] at plain
    obtain ⟨later, same⟩ := ih plain.2 (offset + c.utf8Size) (literal ++ [c])
    refine ⟨later, ?_⟩
    rw [List.cons_append, readFrom_literal plain.1, same]
    simp

/-- Characters that are no braces are added to the name that is being read. -/
theorem readFrom_name {text : List Char}
    (plain : ∀ c ∈ text, c ≠ openBrace ∧ c ≠ closeBrace) (offset start : Nat)
    (literal name rest : List Char) :
    ∃ later, readFrom offset (.inside start literal name) (text ++ rest) =
      readFrom later (.inside start literal (name ++ text)) rest := by
  induction text generalizing offset name with
  | nil => exact ⟨offset, by simp⟩
  | cons c text ih =>
    simp only [List.mem_cons, forall_eq_or_imp] at plain
    obtain ⟨later, same⟩ := ih plain.2 (offset + c.utf8Size) (name ++ [c])
    refine ⟨later, ?_⟩
    rw [List.cons_append, readFrom, if_neg plain.1.2, if_neg plain.1.1, same]
    simp

/-- A name in braces ends the literal before it. -/
theorem readFrom_placeholder {name : List Char} (named : isName name = true) (offset : Nat)
    (literal rest : List Char) :
    ∃ later, readFrom offset (.outside literal) (openBrace :: (name ++ closeBrace :: rest)) =
      (readFrom later (.outside []) rest).map
        (literalSegment literal ++ .placeholder (String.ofList name) :: ·) := by
  obtain ⟨reached, same⟩ := readFrom_name (isName_plain named) (offset + openBrace.utf8Size) offset
    literal [] (closeBrace :: rest)
  refine ⟨reached + closeBrace.utf8Size, ?_⟩
  have some : name.isEmpty = false := by
    cases name with
    | nil => cases named
    | cons _ _ => rfl
  rw [readFrom, if_pos rfl, same, List.nil_append, readFrom, if_pos rfl]
  simp only [some, named, Bool.not_true, Bool.false_eq_true, if_false]
  cases readFrom (reached + closeBrace.utf8Size) (.outside []) rest <;> rfl

/-! ### What is accepted -/

theorem IsTemplate.readFrom_ok {cs : List Char} (template : IsTemplate cs) (offset : Nat)
    (literal : List Char) :
    ∃ segments, readFrom offset (.outside literal) cs = .ok segments := by
  induction template generalizing offset literal with
  | nil => exact ⟨_, rfl⟩
  | literal plain _ ih =>
    rw [readFrom_literal plain]
    exact ih _ _
  | placeholder named _ ih =>
    obtain ⟨later, same⟩ := readFrom_placeholder (isName_iff.mpr named) offset literal _
    obtain ⟨more, behind⟩ := ih later []
    exact ⟨_, by rw [same, behind]; rfl⟩

theorem IsTemplate.literals {text rest : List Char} (plain : text.all isLiteral = true)
    (behind : IsTemplate rest) : IsTemplate (text ++ rest) := by
  induction text with
  | nil => exact behind
  | cons c text ih =>
    simp only [List.all_cons, Bool.and_eq_true] at plain
    exact .literal plain.1 (ih plain.2)

/-- What valid segments are written as is a template. -/
theorem isTemplate_written {segments : List Segment}
    (valid : ∀ segment ∈ segments, segment.Valid) :
    IsTemplate (segments.flatMap Segment.written) := by
  induction segments with
  | nil => exact .nil
  | cons segment rest ih =>
    simp only [List.mem_cons, forall_eq_or_imp] at valid
    have behind := ih valid.2
    rw [List.flatMap_cons]
    cases segment with
    | literal text => exact .literals valid.1.2 behind
    | placeholder name =>
      have whole := IsTemplate.placeholder (isName_iff.mp valid.1) behind
      simpa [Segment.written] using whole

theorem read_ok_iff_isTemplate (raw : String) :
    (∃ route, read raw = .ok route) ↔ IsTemplate raw.toList := by
  constructor
  · rintro ⟨route, done⟩
    have written := isTemplate_written (read_valid done)
    rwa [← read_written done, writtenSegments, String.toList_ofList]
  · intro template
    obtain ⟨segments, done⟩ := template.readFrom_ok 0 []
    exact ⟨⟨raw, segments⟩, by rw [read, done]; rfl⟩

/-! ### Normal forms -/

theorem literalSegment_apart (literal : List Char) (name : String) {more : List Segment}
    (apart : more.IsChain Segment.Apart) :
    (literalSegment literal ++ .placeholder name :: more).IsChain Segment.Apart := by
  have behind : (.placeholder name :: more : List Segment).IsChain Segment.Apart :=
    apart.cons fun _ _ => trivial
  unfold literalSegment
  split
  · exact behind
  · exact behind.cons_cons trivial

/-- No two literals follow each other in what is read. -/
theorem readFrom_apart {offset : Nat} {place : Place} {cs : List Char} {segments : List Segment}
    (done : readFrom offset place cs = .ok segments) : segments.IsChain Segment.Apart := by
  induction cs generalizing offset place segments with
  | nil =>
    cases place with
    | outside literal =>
      cases done
      unfold literalSegment
      split
      · exact .nil
      · exact .singleton _
    | inside start literal name => cases done
  | cons c rest ih =>
    cases place with
    | outside literal =>
      rcases readFrom_outside done with ⟨_, _, behind⟩ | ⟨_, _, behind⟩
      · exact ih behind
      · exact ih behind
    | inside start literal name =>
      rcases readFrom_inside done with ⟨_, _, _, more, behind, rfl⟩ | ⟨_, _, _, behind⟩
      · exact literalSegment_apart _ _ (ih behind)
      · exact ih behind

theorem read_normal {raw : String} {route : Route} (done : read raw = .ok route) :
    IsNormal route.segments := by
  refine ⟨read_valid done, ?_⟩
  simp only [read, bind_eq_ok, pure, Except.pure, Except.ok.injEq] at done
  obtain ⟨segments, found, rfl⟩ := done
  exact readFrom_apart found

/-- Segments in normal form are read back behind a literal, if they do not go on with one. -/
theorem IsNormal.readFrom_written {segments : List Segment} (normal : IsNormal segments)
    {literal : List Char}
    (free : literal ≠ [] → ∀ text more, segments ≠ .literal text :: more) (offset : Nat) :
    readFrom offset (.outside literal) (segments.flatMap Segment.written) =
      .ok (literalSegment literal ++ segments) := by
  induction segments generalizing literal offset with
  | nil => simp [readFrom]
  | cons segment rest ih =>
    obtain ⟨valid, apart⟩ := normal
    simp only [List.mem_cons, forall_eq_or_imp] at valid
    have behind : IsNormal rest := ⟨valid.2, apart.tail⟩
    rw [List.flatMap_cons]
    cases segment with
    | literal text =>
      have none : literal = [] := Decidable.byContradiction fun some => free some text rest rfl
      obtain ⟨later, same⟩ := readFrom_literals valid.1.2 offset literal
        (rest.flatMap Segment.written)
      subst none
      have one : literalSegment text.toList = [.literal text] := by
        simp [literalSegment, valid.1.1]
      have free' : text.toList ≠ [] → ∀ other more, rest ≠ .literal other :: more := by
        rintro - other more rfl
        exact (List.isChain_cons_cons.mp apart).1
      rw [Segment.written, same, List.nil_append, ih behind free' later, one]
      rfl
    | placeholder name =>
      obtain ⟨later, same⟩ := readFrom_placeholder valid.1 offset literal
        (rest.flatMap Segment.written)
      simp only [Segment.written, List.cons_append, List.append_assoc, List.nil_append]
      rw [same, ih behind (by simp) later]
      simp [Except.map, literalSegment]

/-- What segments in normal form are written as is read as the segments. -/
theorem IsNormal.read_written {segments : List Segment} (normal : IsNormal segments) :
    read (writtenSegments segments) = .ok ⟨writtenSegments segments, segments⟩ := by
  have free : ([] : List Char) ≠ [] → ∀ text more, segments ≠ .literal text :: more :=
    fun some => absurd rfl some
  have back := normal.readFrom_written free 0
  rw [read, writtenSegments, String.toList_ofList, back]
  rfl

/-- Reading accepts exactly the templates, cuts no name inside a character, and gives exactly the
segments in normal form that the text is written from. -/
theorem read_exact (raw : String) :
    readBySlices? raw = some (read raw) ∧
    ((∃ route, read raw = .ok route) ↔ IsTemplate raw.toList) ∧
    ∀ route, read raw = .ok route ↔
      route.raw = raw ∧ IsNormal route.segments ∧ writtenSegments route.segments = raw := by
  refine ⟨readBySlices?_eq raw, read_ok_iff_isTemplate raw, fun route => ⟨fun done => ?_, ?_⟩⟩
  · have kept : route.raw = raw := by
      simp only [read, bind_eq_ok, pure, Except.pure, Except.ok.injEq] at done
      obtain ⟨_, _, rfl⟩ := done
      rfl
    exact ⟨kept, read_normal done, Route.read_written done⟩
  · rintro ⟨kept, normal, written⟩
    subst kept
    have back := normal.read_written
    rwa [written] at back

example : read "/é/\x7bid\x7d" = .ok ⟨"/é/\x7bid\x7d", [.literal "/é/", .placeholder "id"]⟩ := rfl

end Endpoint.Route
