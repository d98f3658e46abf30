import Endpoint.Proofs.Url.Host
import Endpoint.Proofs.Url.Place

/-!
URLs as reading gives them: a small scheme, a host that the scheme can have, a port that is not
the scheme's own, and a path that is never taken for a host.
-/

namespace Endpoint.Url

/-! ### The written form -/

/-- User and password with their mark, if there are any. -/
def userText (url : Url) : List Char :=
  if url.username.isEmpty && url.password.isEmpty then []
  else url.username.toList ++ ((if url.password.isEmpty then [] else ':' :: url.password.toList) ++
    ['@'])

def portText (url : Url) : List Char :=
  match url.port with
  | some port => ':' :: Nat.toDigits 10 port
  | none => []

/-- User, host and port as written. -/
def authority (url : Url) : List Char :=
  match url.host with
  | none => []
  | some host => url.userText ++ (host.text.toList ++ url.portText)

def queryText (query : Option String) : List Char :=
  match query with
  | some query => '?' :: query.toList
  | none => []

def fragmentText (fragment : Option String) : List Char :=
  match fragment with
  | some fragment => '#' :: fragment.toList
  | none => []

/-- The written form behind the authority. -/
def behind (url : Url) : List Char :=
  url.pathMark.toList ++
    (url.path.text.toList ++ (queryText url.query ++ fragmentText url.fragment))

/-- The two slashes in front of an authority. -/
def slashes (url : Url) : List Char := if url.host.isSome then ['/', '/'] else []

theorem userText_toList (url : Url) :
    (if url.username.isEmpty && url.password.isEmpty then ""
      else url.username ++ (if url.password.isEmpty then "" else ":" ++ url.password) ++
        "@").toList = url.userText := by
  unfold userText
  split
  · rfl
  · split <;> simp

theorem authorityText_toList (url : Url) :
    url.authorityText.toList = url.slashes ++ url.authority := by
  unfold authorityText authority slashes
  cases url.host with
  | none => rfl
  | some host =>
    simp only [String.toList_append, userText_toList, portText, List.append_assoc]
    cases url.port with
    | none => simp
    | some port =>
      have colon : (toString ":").toList = [':'] := rfl
      simp [colon]

theorem text_toList (url : Url) :
    url.text.toList =
      url.scheme.toList ++ ':' :: (url.slashes ++ (url.authority ++ url.behind)) := by
  simp only [text, String.toList_append, authorityText_toList, behind, List.append_assoc]
  cases url.query <;> cases url.fragment <;> simp [queryText, fragmentText]

/-! ### Soundness -/

/-- A URL that reading can give. -/
structure Sound (url : Url) : Prop where
  letter : url.scheme.toList.head?.any Char.isAlpha = true
  scheme : ∀ c ∈ url.scheme.toList, isSchemeChar c = true ∧ c.toLower = c
  user : ∀ c ∈ url.userText, c = '@' ∨ Host.isTextChar c = true
  host : ∀ host, url.host = some host → host.Sound (isSpecial url.scheme)
  port : ∀ port, url.port = some port →
    port ≤ 65535 ∧ defaultPort? url.scheme ≠ some port
  nameless : named url.host = none → url.authority = [] ∧ url.port = none ∧
    (url.scheme = "file" ∨ isSpecial url.scheme = false)
  file : url.scheme = "file" → url.userText = [] ∧ url.port = none ∧
    ∃ host, url.host = some host ∧ localHost host = host
  hostless : url.host = none → isSpecial url.scheme = false ∧ ¬ ['/', '/'] <+: url.behind
  segments : url.host ≠ none → ∃ held, url.path = .segments held
  behind : ∀ c ∈ url.behind, isControl c = false

/-! ### Encoded text -/

theorem keepsInPath_printable {c : Char} (kept : keepsInPath c = true) : isControl c = false := by
  simp only [keepsInPath, keepsInFragment, keepsIn, Bool.and_eq_true, Bool.not_eq_true'] at kept
  exact kept.1.1.1.1.1

theorem keepsInFragment_printable {c : Char} (kept : keepsInFragment c = true) :
    isControl c = false := by
  simp only [keepsInFragment, keepsIn, Bool.and_eq_true, Bool.not_eq_true'] at kept
  exact kept.1

theorem keepsInQuery_printable {special : Bool} {c : Char}
    (kept : keepsInQuery special c = true) : isControl c = false := by
  simp only [keepsInQuery, keepsIn, Bool.and_eq_true, Bool.not_eq_true'] at kept
  exact kept.1.1

/-- Encoded text is printable. -/
theorem encode_printable {keeps : Char → Bool}
    (printable : ∀ {c}, keeps c = true → isControl c = false) (cs : List Char) :
    ∀ c ∈ (encode keeps cs).toList, isControl c = false := by
  intro c member
  rcases Text.percentEncodeUnless_chars keeps _ c member with ⟨kept, _⟩ | escape
  · exact printable kept
  · exact (Host.escape_allowed escape).2

/-- Encoded text holds no character that the text does not hold, apart from its escapes. -/
theorem encode_without {keeps : Char → Bool} {cs : List Char} {c : Char} (without : c ∉ cs)
    (noEscape : Text.isEscape c = false) : c ∉ (encode keeps cs).toList := by
  intro member
  rcases Text.percentEncodeUnless_chars keeps _ c member with ⟨_, inside⟩ | escape
  · exact without (by simpa using inside)
  · rw [noEscape] at escape
    cases escape

theorem encode_user (cs : List Char) :
    ∀ c ∈ (encode keepsInUser cs).toList, Host.isTextChar c = true := by
  intro c member
  have noControl : isControl c = false := by
    refine encode_printable (fun kept => ?_) cs c member
    simp only [keepsInUser, Bool.and_eq_true] at kept
    exact keepsInPath_printable kept.1
  have ascii : c.toNat < 128 := by
    simp only [isControl, Bool.or_eq_false_iff, decide_eq_false_iff_not] at noControl
    omega
  rcases Text.percentEncodeUnless_chars keepsInUser _ c member with ⟨kept, _⟩ | escape
  · have all : keepsInUser c = true → Host.isTextChar c = true :=
      Text.ascii_induction (P := fun c => keepsInUser c = true → Host.isTextChar c = true)
        (by decide) ascii
    exact all kept
  · have all : Text.isEscape c = true → Host.isTextChar c = true :=
      Text.ascii_induction (P := fun c => Text.isEscape c = true → Host.isTextChar c = true)
        (by decide) ascii
    exact all escape

/-! ### Paths -/

/-- A segment that is printable and ends where it is written to end. -/
def IsSegment (segment : String) : Prop :=
  ∀ c ∈ segment.toList, isControl c = false ∧ c ≠ '/'

theorem encode_isSegment {segment : List Char} (whole : '/' ∉ segment) :
    IsSegment (encode keepsInPath segment) := by
  intro c member
  refine ⟨encode_printable keepsInPath_printable segment c member, ?_⟩
  rintro rfl
  exact encode_without whole (by decide) member

private theorem empty_isSegment : IsSegment "" := by
  intro c member
  cases member

/-- A segment was there before, is empty, or is an added one that is no point. -/
theorem addSegment_cases {isLast : Bool} {held : List String} {next : List Char}
    {segment : String} (member : segment ∈ addSegment isLast held next) :
    segment ∈ held ∨ segment = "" ∨
      isSingleDot next = false ∧ isDoubleDot next = false ∧
        segment = encode keepsInPath next := by
  have ending (inside : segment ∈ if isLast then [""] else []) : segment = "" := by
    split at inside
    · exact List.mem_singleton.mp inside
    · cases inside
  have before (inside : segment ∈ shorten held) : segment ∈ held := by
    unfold shorten at inside
    split at inside
    · exact inside
    · exact (List.dropLast_sublist held).subset inside
  simp only [addSegment] at member
  split at member
  · exact (List.mem_append.mp member).imp before fun last => .inl (ending last)
  · split at member
    · exact (List.mem_append.mp member).imp_right fun last => .inl (ending last)
    · rename_i double single
      refine (List.mem_append.mp member).imp_right fun new => .inr ⟨?_, ?_, ?_⟩
      · simpa using single
      · simpa using double
      · exact List.mem_singleton.mp new

theorem addSegments_cases {held : List String} {next : List (List Char)} {segment : String}
    (member : segment ∈ addSegments held next) :
    segment ∈ held ∨ segment = "" ∨
      ∃ piece ∈ next, isSingleDot piece = false ∧ isDoubleDot piece = false ∧
        segment = encode keepsInPath piece := by
  induction next generalizing held with
  | nil => exact .inl member
  | cons first rest ih =>
    have here {isLast : Bool} (member : segment ∈ addSegment isLast held first) :
        segment ∈ held ∨ segment = "" ∨
          ∃ piece ∈ first :: rest, isSingleDot piece = false ∧ isDoubleDot piece = false ∧
            segment = encode keepsInPath piece :=
      (addSegment_cases member).imp_right (.imp_right fun new => ⟨first, by simp, new⟩)
    cases rest with
    | nil => exact here member
    | cons second rest =>
      rcases ih member with before | empty | ⟨piece, inside, new⟩
      · exact here before
      · exact .inr (.inl empty)
      · exact .inr (.inr ⟨piece, List.mem_cons_of_mem _ inside, new⟩)

theorem readSegments_segments (scheme : String) (cs : List Char) :
    ∀ segment ∈ readSegments scheme cs, IsSegment segment := by
  have all : ∀ segment ∈ addSegments []
      (Text.splitAt (fun c => c == '/' || (c == '\\' && isSpecial scheme)) cs),
      IsSegment segment := by
    intro segment member
    rcases addSegments_cases member with before | rfl | ⟨piece, inside, -, -, rfl⟩
    · cases before
    · exact empty_isSegment
    · refine encode_isSegment fun slash => ?_
      have separates := (Text.mem_splitAt inside '/' slash).2
      simp at separates
  unfold readSegments
  dsimp only
  split
  · intro segment member
    unfold withoutEmptyStart at member
    split at member
    · obtain rfl := List.mem_singleton.mp member
      exact empty_isSegment
    · rename_i rest
      have inside := (List.dropWhile_sublist fun segment : String => segment.isEmpty).subset member
      exact all segment inside
  · exact all

/-- Behind an authority, segments are read and what follows them. -/
theorem readPath_parts (scheme : String) (cs : List Char) :
    ∃ held rest, readPath scheme cs = (.segments held, readTail (isSpecial scheme) rest) ∧
      ∀ segment ∈ held, IsSegment segment := by
  unfold readPath
  dsimp only
  refine ⟨_, _, rfl, ?_⟩
  split
  · split
    · exact readSegments_segments _ _
    · exact readSegments_segments _ _
  · split
    · intro segment member
      obtain rfl := List.mem_singleton.mp member
      exact empty_isSegment
    · simp

theorem readTail_printable (special : Bool) (cs : List Char) :
    (∀ c ∈ queryText (readTail special cs).1, isControl c = false) ∧
      ∀ c ∈ fragmentText (readTail special cs).2, isControl c = false := by
  have query (cs : List Char) :
      ∀ c ∈ queryText (some (encode (keepsInQuery special) cs)), isControl c = false := by
    intro c member
    rcases List.mem_cons.mp member with rfl | inside
    · decide
    · exact encode_printable keepsInQuery_printable cs c inside
  have fragment (cs : List Char) :
      ∀ c ∈ fragmentText (some (encode keepsInFragment cs)), isControl c = false := by
    intro c member
    rcases List.mem_cons.mp member with rfl | inside
    · decide
    · exact encode_printable keepsInFragment_printable cs c inside
  unfold readTail
  split
  rename_i found rest same
  have queryPart : ∀ c ∈ queryText found, isControl c = false := by
    split at same
    · cases same
      exact query _
    · cases same
      simp [queryText]
  split
  · exact ⟨queryPart, fragment _⟩
  · exact ⟨queryPart, by simp [fragmentText]⟩

theorem segments_toList (held : List String) :
    (Path.segments held).text.toList = held.flatMap fun segment => '/' :: segment.toList := by
  simp [Path.text, String.toList_join, List.flatMap_map]

/-- What stands behind a path does not begin with a slash. -/
theorem tail_ne_slash (query fragment : Option String) (more : List Char) :
    queryText query ++ fragmentText fragment ≠ '/' :: more := by
  cases query <;> cases fragment <;> simp [queryText, fragmentText]

theorem behind_printable {url : Url}
    (path : ∀ c ∈ url.path.text.toList, isControl c = false)
    (query : ∀ c ∈ queryText url.query, isControl c = false)
    (fragment : ∀ c ∈ fragmentText url.fragment, isControl c = false) :
    ∀ c ∈ url.behind, isControl c = false := by
  have mark : ∀ c ∈ url.pathMark.toList, isControl c = false := by
    unfold pathMark
    split
    · intro c inMark
      have chars : c = '/' ∨ c = '.' := by simpa using inMark
      rcases chars with rfl | rfl <;> rfl
    · simp
  intro c member
  simp only [behind, List.mem_append] at member
  rcases member with inMark | inPath | inQuery | inFragment
  · exact mark c inMark
  · exact path c inPath
  · exact query c inQuery
  · exact fragment c inFragment

theorem segments_printable {held : List String} (segments : ∀ segment ∈ held, IsSegment segment) :
    ∀ c ∈ (Path.segments held).text.toList, isControl c = false := by
  intro c member
  rw [segments_toList] at member
  obtain ⟨segment, inHeld, inside⟩ := List.mem_flatMap.mp member
  rcases List.mem_cons.mp inside with rfl | here
  · decide
  · exact (segments segment inHeld c here).1

/-- Segments without a host in front do not begin with two slashes. -/
theorem segments_hostless {url : Url} {held : List String} (hostless : url.host = none)
    (path : url.path = .segments held) (segments : ∀ segment ∈ held, IsSegment segment) :
    ¬ ['/', '/'] <+: url.behind := by
  have later {first : String} {more rest : List Char} (segment : IsSegment first)
      (some : first ≠ "") : first.toList ++ rest ≠ '/' :: more := by
    intro same
    cases chars : first.toList with
    | nil => exact some (String.toList_eq_nil_iff.mp chars)
    | cons c cs =>
      rw [chars] at same
      obtain rfl := (List.cons.inj same).1
      exact (segment '/' (by simp [chars])).2 rfl
  rintro ⟨more, same⟩
  unfold behind at same
  rw [path, segments_toList] at same
  match held with
  | [] =>
    simp only [pathMark, hostless, path] at same
    exact tail_ne_slash _ _ _ same.symm
  | [first] =>
    simp only [pathMark, hostless, path] at same
    by_cases empty : first = ""
    · subst empty
      exact tail_ne_slash _ _ _ (List.cons.inj same).2.symm
    · exact later (segments first (by simp)) empty (by simpa using (List.cons.inj same).2.symm)
  | first :: second :: rest =>
    by_cases empty : first = ""
    · subst empty
      have mark : url.pathMark = "/." := by simp [pathMark, hostless, path]
      have chars : url.pathMark.toList = ['/', '.'] := by simp [mark]
      rw [chars] at same
      exact absurd (List.cons.inj (List.cons.inj same).2).1 (by decide)
    · have mark : url.pathMark = "" := by simp [pathMark, hostless, path, empty]
      rw [mark] at same
      exact later (segments first (by simp)) empty (by simpa using (List.cons.inj same).2.symm)

/-- Nor does plain text that begins with no slash. -/
theorem plain_hostless {url : Url} {text : String} (path : url.path = .plain text)
    (noSlash : ∀ more, text.toList ≠ '/' :: more) : ¬ ['/', '/'] <+: url.behind := by
  rintro ⟨more, same⟩
  have mark : url.pathMark = "" := by simp [pathMark, path]
  simp only [behind, mark, path, Path.text, String.toList_empty, List.nil_append] at same
  cases chars : text.toList with
  | nil =>
    rw [chars] at same
    exact tail_ne_slash _ _ _ same.symm
  | cons c cs =>
    rw [chars] at same
    obtain rfl := (List.cons.inj same).1
    exact noSlash cs chars

/-! ### Reading -/

theorem readPort_bound {scheme : String} {cs : List Char} {port : Option Nat}
    (done : readPort scheme cs = .ok port) :
    ∀ number, port = some number → number ≤ 65535 ∧ defaultPort? scheme ≠ some number := by
  unfold readPort at done
  split at done
  · cases done
    simp
  · cases done
    simp
  · split at done
    · cases done
    · rename_i fits
      simp only [Bool.or_eq_true, decide_eq_true_eq, not_or, Nat.not_lt] at fits
      intro number same
      dsimp only at done
      split at done
      · cases done
        cases same
      · rename_i other
        cases done
        cases same
        exact ⟨fits.2, by simpa using other⟩

/-- Host and port text are the whole place. -/
theorem cutPort_append (inBrackets : Bool) (cs : List Char) :
    (cutPort inBrackets cs).1 ++ (cutPort inBrackets cs).2 = cs := by
  induction cs generalizing inBrackets with
  | nil => rfl
  | cons c rest ih =>
    unfold cutPort
    split
    · rfl
    · simp [ih]

end Endpoint.Url
