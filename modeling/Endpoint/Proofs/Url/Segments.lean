import Endpoint.Proofs.Url.Authority
import Endpoint.Proofs.Url.Dots

/-!
Paths of URLs that are read again. Segments as reading leaves them are read as they are, and those
that text is escaped to are, unless the text is a point or two.
-/

namespace Endpoint.Url

/-- A segment that reading leaves as it is. -/
structure IsSettled (segment : String) : Prop where
  kept : ∀ c ∈ segment.toList, keepsInPath c = true ∧ c ≠ '/' ∧ c ≠ '\\'
  single : isSingleDot segment.toList = false
  double : isDoubleDot segment.toList = false

theorem IsSettled.noSlash {segment : String} (settled : IsSettled segment) :
    '/' ∉ segment.toList :=
  fun slash => (settled.kept '/' slash).2.1 rfl

/-- What settled segments are written in stays as it is in a path. -/
theorem segments_kept {segments : List String}
    (settled : ∀ segment ∈ segments, IsSettled segment) :
    ∀ c ∈ (Path.segments segments).text.toList, keepsInPath c = true := by
  intro c member
  rw [segments_toList] at member
  obtain ⟨segment, inSegments, inside⟩ := List.mem_flatMap.mp member
  rcases List.mem_cons.mp inside with rfl | here
  · decide
  · exact ((settled segment inSegments).kept c here).1

/-! ### Escaped text -/

theorem escape_kept {c : Char} (escape : Text.isEscape c = true) :
    keepsInPath c = true ∧ c ≠ '/' ∧ c ≠ '\\' :=
  Text.ascii_induction
    (P := fun c => Text.isEscape c = true → keepsInPath c = true ∧ c ≠ '/' ∧ c ≠ '\\') (by decide)
    (Text.isEscape_ascii escape) escape

theorem unreserved_kept {c : Char} (unreserved : Text.isUnreserved c = true) :
    keepsInPath c = true ∧ c ≠ '/' ∧ c ≠ '\\' :=
  Text.ascii_induction
    (P := fun c => Text.isUnreserved c = true → keepsInPath c = true ∧ c ≠ '/' ∧ c ≠ '\\')
    (by decide) (Text.isUnreserved_ascii unreserved) unreserved

theorem hexDigit_kept (c : Char) (digit : (Text.hexValue? c).isSome = true) :
    keepsInPath c = true :=
  Text.ascii_induction (P := fun c => (Text.hexValue? c).isSome = true → keepsInPath c = true)
    (by decide) (Text.hexValue?_ascii digit) digit

/-- Encoding a segment does not change what it stands for. -/
theorem percentBytes_encode (piece : List Char) :
    Text.percentBytes (encode keepsInPath piece).toList = Text.percentBytes piece := by
  rw [encode, Text.percentEncodeUnless, String.toList_ofList, String.toList_ofList,
    Text.percentBytes_encoded hexDigit_kept (by decide)]

theorem encode_isSettled {piece : List Char} (whole : ∀ c ∈ piece, c ≠ '/' ∧ c ≠ '\\')
    (single : isSingleDot piece = false) (double : isDoubleDot piece = false) :
    IsSettled (encode keepsInPath piece) where
  kept := by
    intro c member
    rcases Text.percentEncodeUnless_chars _ _ c member with ⟨kept, inside⟩ | escape
    · exact ⟨kept, whole c (by simpa using inside)⟩
    · exact escape_kept escape
  single := by
    rw [← single, Bool.eq_iff_iff, isSingleDot_iff_bytes, isSingleDot_iff_bytes,
      percentBytes_encode]
  double := by
    rw [← double, Bool.eq_iff_iff, isDoubleDot_iff_bytes, isDoubleDot_iff_bytes,
      percentBytes_encode]

/-- Escaped text is one segment that stays as it is, unless the text is a point or two. -/
theorem percentEncode_isSettled {text : String} (noPoint : text ≠ ".") (noPoints : text ≠ "..") :
    IsSettled (Text.percentEncode text) where
  kept := by
    intro c member
    rcases Text.percentEncodeUnless_chars _ _ c member with ⟨unreserved, -⟩ | escape
    · exact unreserved_kept unreserved
    · exact escape_kept escape
  single := by
    refine Bool.eq_false_iff.mpr fun single => noPoint (Text.textBytes_inj ?_)
    rw [isSingleDot_iff_bytes, Text.percentEncode,
      Text.percentBytes_percentEncodeUnless (by decide)] at single
    exact single
  double := by
    refine Bool.eq_false_iff.mpr fun double => noPoints (Text.textBytes_inj ?_)
    rw [isDoubleDot_iff_bytes, Text.percentEncode,
      Text.percentBytes_percentEncodeUnless (by decide)] at double
    exact double

theorem empty_isSettled : IsSettled "" := ⟨by simp, rfl, rfl⟩

theorem encode_settled {segment : String} (settled : IsSettled segment) :
    encode keepsInPath segment.toList = segment := by
  rw [encode, String.ofList_toList]
  exact Text.percentEncodeUnless_kept fun c member => (settled.kept c member).1

theorem keepsInPath_visible {c : Char} (kept : keepsInPath c = true) : 32 < c.toNat := by
  have ascii : c.toNat < 128 := by
    have printable := keepsInPath_printable kept
    simp only [isControl, Bool.or_eq_false_iff, decide_eq_false_iff_not] at printable
    omega
  exact Text.ascii_induction (P := fun c => keepsInPath c = true → 32 < c.toNat) (by decide)
    ascii kept

/-! ### Rows of segments -/

/-- Settled segments are added as they are. -/
theorem addSegments_settled {segments : List String}
    (settled : ∀ segment ∈ segments, IsSettled segment) (held : List String) :
    addSegments held (segments.map String.toList) = held ++ segments := by
  have one (isLast : Bool) (held : List String) {segment : String} (settled : IsSettled segment) :
      addSegment isLast held segment.toList = held ++ [segment] := by
    simp [addSegment, settled.single, settled.double, encode_settled settled]
  induction segments generalizing held with
  | nil => simp [addSegments]
  | cons first rest ih =>
    simp only [List.mem_cons, forall_eq_or_imp] at settled
    cases rest with
    | nil => exact one true held settled.1
    | cons second rest =>
      have behind := ih settled.2 (held ++ [first])
      rw [List.map_cons] at behind
      simp only [List.map_cons, addSegments, one false held settled.1, behind, List.append_assoc,
        List.singleton_append]

theorem addSegments_ne_nil {next : List (List Char)} (some : next ≠ []) (held : List String) :
    addSegments held next ≠ [] := by
  induction next generalizing held with
  | nil => exact absurd rfl some
  | cons first rest ih =>
    cases rest with
    | nil =>
      simp only [addSegments, addSegment]
      split
      · simp
      · split <;> simp
    | cons second rest => exact ih (by simp) _

/-- Behind each other, segments are a slash and what is joined by slashes. -/
theorem segments_intercalate {segments : List String} (some : segments ≠ []) :
    (Path.segments segments).text.toList =
      '/' :: ['/'].intercalate (segments.map String.toList) := by
  rw [segments_toList]
  induction segments with
  | nil => exact absurd rfl some
  | cons first rest ih =>
    cases rest with
    | nil => simp
    | cons second rest =>
      rw [List.flatMap_cons, ih (by simp)]
      simp [List.intercalate_cons_cons]

/-! ### Reading -/

theorem readSegments_eq {scheme : String} (noFile : scheme ≠ "file") (cs : List Char) :
    readSegments scheme cs =
      addSegments [] (Text.splitAt (fun c => c == '/' || (c == '\\' && isSpecial scheme)) cs) := by
  simp [readSegments, noFile]

/-- What is read as the path of a URL of the web is settled. -/
theorem readSegments_settled {scheme : String} (special : isSpecial scheme = true)
    (noFile : scheme ≠ "file") (cs : List Char) :
    readSegments scheme cs ≠ [] ∧ ∀ segment ∈ readSegments scheme cs, IsSettled segment := by
  rw [readSegments_eq noFile]
  refine ⟨addSegments_ne_nil (Text.splitAt_ne_nil _ _) _, fun segment member => ?_⟩
  rcases addSegments_cases member with before | rfl | ⟨piece, inside, single, double, rfl⟩
  · cases before
  · exact empty_isSettled
  · refine encode_isSettled (fun c here => ?_) single double
    have separates := (Text.mem_splitAt inside c here).2
    simpa [special] using separates

theorem readPath_settled {scheme : String} (special : isSpecial scheme = true)
    (noFile : scheme ≠ "file") (cs : List Char) :
    ∃ segments, (readPath scheme cs).1 = .segments segments ∧ segments ≠ [] ∧
      ∀ segment ∈ segments, IsSettled segment := by
  refine ⟨_, rfl, ?_⟩
  split
  · split
    · exact readSegments_settled special noFile _
    · exact readSegments_settled special noFile _
  · rw [if_pos special]
    exact ⟨by simp, by simpa using empty_isSettled⟩

/-- Settled segments come apart at the slashes between them. -/
theorem splitAt_segments (scheme : String) {segments : List String} (some : segments ≠ [])
    (settled : ∀ segment ∈ segments, IsSettled segment) :
    Text.splitAt (fun c => c == '/' || (c == '\\' && isSpecial scheme))
      (['/'].intercalate (segments.map String.toList)) = segments.map String.toList := by
  have plain : ∀ piece ∈ segments.map String.toList, '/' ∉ piece := by
    intro piece member
    obtain ⟨segment, inside, rfl⟩ := List.mem_map.mp member
    exact (settled segment inside).noSlash
  have onlySlashes : ∀ c ∈ ['/'].intercalate (segments.map String.toList),
      (c == '/' || (c == '\\' && isSpecial scheme)) = (c == '/') := by
    intro c member
    have other : c ≠ '\\' := by
      rcases Text.mem_intercalate member with slash | ⟨piece, inPieces, inside⟩
      · obtain rfl := List.mem_singleton.mp slash
        decide
      · obtain ⟨segment, inSegments, rfl⟩ := List.mem_map.mp inPieces
        exact ((settled segment inSegments).kept c inside).2.2
    simp [other]
  rw [Text.splitAt_congr onlySlashes, Text.splitAt_intercalate '/' (by simpa using some) plain]

/-- Whether a path ends at the character. -/
def endsPath (c : Char) : Bool := c == '?' || c == '#'

/-- A path goes up to the mark behind it. -/
theorem cut_endsPath {front tail : List Char} (plain : ∀ c ∈ front, endsPath c = false)
    (mark : ∀ c ∈ tail.head?, endsPath c = true) :
    (front ++ tail).takeWhile (!endsPath ·) = front ∧
      (front ++ tail).dropWhile (!endsPath ·) = tail := by
  have inside : ∀ c ∈ front, (!endsPath c) = true := fun c member => by simp [plain c member]
  rw [List.takeWhile_append_of_pos inside, List.dropWhile_append_of_pos inside]
  cases tail with
  | nil => simp
  | cons c rest =>
    have ends := mark c rfl
    simp [ends]

theorem segments_endsPath {segments : List String}
    (settled : ∀ segment ∈ segments, IsSettled segment) :
    ∀ c ∈ (Path.segments segments).text.toList, endsPath c = false := by
  intro c member
  have kept := segments_kept settled c member
  simp only [keepsInPath, Bool.and_eq_true, bne_iff_ne] at kept
  simp [endsPath, kept.1.1.1.2, kept.1.1.2]

/-- Settled segments are read again, and behind them a query and a fragment. -/
theorem readPath_segments {scheme : String} (noFile : scheme ≠ "file") {segments : List String}
    (some : segments ≠ [])
    (settled : ∀ segment ∈ segments, IsSettled segment) {tail : List Char}
    (mark : ∀ c ∈ tail.head?, endsPath c = true) :
    readPath scheme ((Path.segments segments).text.toList ++ tail) =
      (.segments segments, readTail (isSpecial scheme) tail) := by
  obtain ⟨path, left⟩ := cut_endsPath (segments_endsPath settled) mark
  rw [segments_intercalate some] at path left ⊢
  simp only [endsPath] at path left
  simp only [readPath, cutAt, path, left, beq_self_eq_true, Bool.true_or, if_true,
    readSegments_eq noFile, splitAt_segments scheme some settled, addSegments_settled settled,
    List.nil_append]

/-! ### Queries and fragments -/

theorem readPath_path (scheme : String) (cs : List Char) :
    (readPath scheme cs).1 = (readPath scheme (cs.takeWhile (!endsPath ·))).1 := by
  simp only [readPath, cutAt, endsPath, List.takeWhile_idem]

theorem readPath_tail (scheme : String) (cs : List Char) :
    (readPath scheme cs).2 = readTail (isSpecial scheme) (cs.dropWhile (!endsPath ·)) := rfl

/-- Where no fragment begins, the query goes on to the end of the text. -/
theorem readTail_query (special : Bool) {cs : List Char} (noFragment : '#' ∉ cs) :
    readTail special ('?' :: cs) = (some (encode (keepsInQuery special) cs), none) := by
  have plain : ∀ c ∈ cs, (!(c == '#')) = true := by
    intro c member
    have other : c ≠ '#' := fun same => noFragment (same ▸ member)
    simp [other]
  simp only [readTail, cutAt, List.takeWhile_eq_self_iff.mpr plain,
    List.dropWhile_eq_nil_iff.mpr plain]

theorem keepsInQuery_noFragment {special : Bool} {c : Char}
    (kept : keepsInQuery special c = true) : c ≠ '#' := by
  rintro rfl
  simp [keepsInQuery, keepsIn] at kept

theorem escape_keptInQuery {c : Char} (escape : Text.isEscape c = true) (special : Bool) :
    keepsInQuery special c = true :=
  Text.ascii_induction (P := fun c => Text.isEscape c = true → keepsInQuery special c = true)
    (by cases special <;> decide) (Text.isEscape_ascii escape) escape

/-- What is escaped for a query may stand in one. -/
theorem encode_keptInQuery {special : Bool} {cs : List Char} :
    ∀ c ∈ (encode (keepsInQuery special) cs).toList, keepsInQuery special c = true := by
  intro c member
  rcases Text.percentEncodeUnless_chars _ _ c member with ⟨kept, -⟩ | escape
  · exact kept
  · exact escape_keptInQuery escape special

theorem readTail_kept {special : Bool} {cs : List Char} {held : String}
    (asked : (readTail special cs).1 = some held) :
    ∀ c ∈ held.toList, keepsInQuery special c = true := by
  unfold readTail at asked
  split at asked
  rename_i query rest cut
  have query : query = some held := by
    split at asked <;> exact asked
  split at cut
  · cases cut
    cases query
    exact encode_keptInQuery
  · cases cut
    cases query

/-- A query of which all may stand there stays as it is, in front of a fragment. -/
theorem readTail_fragment {special : Bool} {query : Option String}
    (kept : ∀ held, query = some held → ∀ c ∈ held.toList, keepsInQuery special c = true)
    (rest : List Char) :
    readTail special (queryText query ++ '#' :: rest) =
      (query, some (encode keepsInFragment rest)) := by
  cases query with
  | none => rfl
  | some held =>
    have plain : ∀ c ∈ held.toList, (!(c == '#')) = true := by
      intro c member
      simp [keepsInQuery_noFragment (kept held rfl c member)]
    have taken : (held.toList ++ '#' :: rest).takeWhile (fun c => !(c == '#')) = held.toList := by
      rw [List.takeWhile_append_of_pos plain]
      simp
    have left : (held.toList ++ '#' :: rest).dropWhile (fun c => !(c == '#')) = '#' :: rest := by
      rw [List.dropWhile_append_of_pos plain]
      simp
    have same : encode (keepsInQuery special) held.toList = held := by
      rw [encode, String.ofList_toList]
      exact Text.percentEncodeUnless_kept (kept held rfl)
    simp only [queryText, List.cons_append, readTail, cutAt, taken, left, same]

/-! ### The whole text -/

/-- What a URL names behind its authority: a path, a query and a fragment. -/
def following (url : Url) : Path × Option String × Option String :=
  (url.path, url.query, url.fragment)

theorem readHierarchy_following (scheme : String) (cs : List Char) :
    (readHierarchy scheme cs).map following =
      (readAuthority scheme (cs.takeWhile (!endsAuthority (isSpecial scheme) ·))).map fun _ =>
        readPath scheme (cs.dropWhile (!endsAuthority (isSpecial scheme) ·)) := by
  simp only [readHierarchy, cutAt]
  cases readAuthority scheme (cs.takeWhile (!endsAuthority (isSpecial scheme) ·)) <;> rfl

theorem readRest_web {scheme : String} (special : isSpecial scheme = true)
    (noFile : scheme ≠ "file") (cs : List Char) :
    readRest scheme cs = readHierarchy scheme (cs.dropWhile fun c => c == '/' || c == '\\') := by
  simp [readRest, noFile, special]

theorem Sound.authority_ne_nil {url : Url} (sound : url.Sound)
    (special : isSpecial url.scheme = true) (noFile : url.scheme ≠ "file") :
    url.authority ≠ [] := by
  intro empty
  rcases sound.of_authority_nil empty with file | common
  · exact noFile file
  · rw [special] at common
    cases common

/-- Behind the authority of a URL of the web there is its path, and its query and fragment. -/
theorem Sound.behind_web {url : Url} (sound : url.Sound) (special : isSpecial url.scheme = true) :
    url.slashes = ['/', '/'] ∧
      url.behind = url.path.text.toList ++ (queryText url.query ++ fragmentText url.fragment) := by
  cases hosted : url.host with
  | none =>
    have common := (sound.hostless hosted).1
    rw [special] at common
    cases common
  | some host => simp [Url.slashes, Url.behind, pathMark, hosted]

/-- Text with the authority of a URL of the web in front of a path is read if the authority is, and
has the path, the query and the fragment that are read behind it. -/
theorem Sound.read_web {url : Url} (sound : url.Sound) (special : isSpecial url.scheme = true)
    (noFile : url.scheme ≠ "file") {text : String} {rest : List Char}
    (same : text.toList = url.scheme.toList ++ ':' :: '/' :: '/' :: (url.authority ++ '/' :: rest)) :
    (read text).map following = (readAuthority url.scheme url.authority).map fun _ =>
      readPath url.scheme ('/' :: visible rest) := by
  have seen : ∀ c ∈ '/' :: '/' :: url.authority, 32 < c.toNat := by
    simpa using sound.authority_visible
  obtain ⟨c, more, split⟩ :=
    List.exists_cons_of_ne_nil (sound.authority_ne_nil special noFile)
  have start : (('/' :: '/' :: url.authority) ++ '/' :: visible rest).dropWhile
      (fun c => c == '/' || c == '\\') = url.authority ++ '/' :: visible rest := by
    have plain := sound.authority_plain c (by simp [split])
    simp only [endsAuthority, special, Bool.true_and, Bool.or_eq_false_iff] at plain
    simp [split, plain.1.1.1, plain.2]
  have taken : (url.authority ++ '/' :: visible rest).takeWhile
      (!endsAuthority (isSpecial url.scheme) ·) = url.authority := by
    rw [List.takeWhile_append_of_pos fun c member => by simp [sound.authority_plain c member]]
    simp [endsAuthority]
  have left : (url.authority ++ '/' :: visible rest).dropWhile
      (!endsAuthority (isSpecial url.scheme) ·) = '/' :: visible rest := by
    rw [List.dropWhile_append_of_pos fun c member => by simp [sound.authority_plain c member]]
    simp [endsAuthority]
  rw [sound.read_eq seen (by rw [same]; rfl), visible_cons (by decide), readRest_web special noFile,
    start, readHierarchy_following, taken, left]

/-- With segments behind it, the path that is read is settled, and it is they if they are. -/
theorem Sound.read_segments {url : Url} (sound : url.Sound)
    (special : isSpecial url.scheme = true) (noFile : url.scheme ≠ "file") {text : String}
    {segments : List String} {tail : List Char} (some : segments ≠ [])
    (same : text.toList = url.scheme.toList ++ ':' :: '/' :: '/' ::
      (url.authority ++ ((Path.segments segments).text.toList ++ tail))) :
    ((∃ found, read text = .ok found) ↔
        ∃ found, readAuthority url.scheme url.authority = .ok found) ∧
      ∀ found, read text = .ok found →
        (∃ held, found.path = .segments held ∧ ∀ segment ∈ held, IsSettled segment) ∧
        ((∀ segment ∈ segments, IsSettled segment) →
          (∀ c ∈ (visible tail).head?, endsPath c = true) → found.path = .segments segments) := by
  have slash := segments_intercalate some
  rw [slash, List.cons_append] at same
  have leads := sound.read_web special noFile same
  refine ⟨ok_iff_of_map_eq leads, fun found done => ?_⟩
  rw [done] at leads
  obtain ⟨-, -, same⟩ := map_eq_ok.mp leads.symm
  have path : (readPath url.scheme _).1 = found.path := congrArg Prod.fst same
  rw [← path]
  refine ⟨?_, fun settled mark => ?_⟩
  · obtain ⟨held, written, -, settled⟩ := readPath_settled special noFile _
    exact ⟨held, written, settled⟩
  · have seen : ∀ c ∈ (Path.segments segments).text.toList, 32 < c.toNat :=
      fun c member => keepsInPath_visible (segments_kept settled c member)
    have shown := visible_append seen tail
    rw [slash, List.cons_append, visible_cons (by decide), ← slash] at shown
    rw [shown, readPath_segments noFile some settled mark]

theorem readPlace_scheme {scheme : String} {authority : List Char}
    {found : String × Option Host × Option Nat} (done : readPlace scheme authority = .ok found) :
    found.1 = scheme := by
  unfold readPlace at done
  split at done
  · split at done
    · cases done
      rfl
    · obtain ⟨_, _, rfl⟩ := map_eq_ok.mp done
      rfl
  · obtain ⟨_, _, rfl⟩ := map_eq_ok.mp done
    rfl

/-- What a URL of the web names behind its authority is read as a path. -/
theorem read_following {text : String} {url : Url} (done : read text = .ok url)
    (special : isSpecial url.scheme = true) (noFile : url.scheme ≠ "file") :
    ∃ cs, url.following = readPath url.scheme cs := by
  have behind {scheme : String} {cs : List Char} (done : readRest scheme cs = .ok url) :
      ∃ cs, url.following = readPath url.scheme cs := by
    have place := readRest_place scheme cs
    rw [done] at place
    obtain rfl : url.scheme = scheme := readPlace_scheme place.symm
    have follows := readHierarchy_following url.scheme (cs.dropWhile fun c => c == '/' || c == '\\')
    rw [← readRest_web special noFile, done] at follows
    obtain ⟨_, _, same⟩ := map_eq_ok.mp follows.symm
    exact ⟨_, same.symm⟩
  unfold read at done
  dsimp only at done
  split at done
  · split at done
    · exact behind done
    · cases done
  · cases done

/-- All of the query of a URL of the web that is read may stand there. -/
theorem read_query {text : String} {url : Url} (done : read text = .ok url)
    (special : isSpecial url.scheme = true) (noFile : url.scheme ≠ "file") :
    ∀ held, url.query = some held → ∀ c ∈ held.toList, keepsInQuery true c = true := by
  intro held asked
  obtain ⟨cs, follows⟩ := read_following done special noFile
  have inTail : (readTail true (cs.dropWhile (!endsPath ·))).1 = some held := by
    rw [← special, ← readPath_tail, ← follows]
    exact asked
  exact readTail_kept inTail

/-- The path of a URL of the web that is read consists of settled segments. -/
theorem read_settled {text : String} {url : Url} (done : read text = .ok url)
    (special : isSpecial url.scheme = true) (noFile : url.scheme ≠ "file") :
    ∃ segments, url.path = .segments segments ∧ segments ≠ [] ∧
      ∀ segment ∈ segments, IsSettled segment := by
  obtain ⟨cs, follows⟩ := read_following done special noFile
  obtain ⟨segments, found, settled⟩ := readPath_settled special noFile cs
  exact ⟨segments, (congrArg Prod.fst follows).trans found, settled⟩

end Endpoint.Url
