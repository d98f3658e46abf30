import Endpoint.Proofs.Client.Segments

/-!
Requests behind a base URL. Main statement: a request has the base's path in front of its own and
its own query exactly if the base has neither query nor fragment and the query may stand in a URL as
it is written; what a query or fragment of the base takes in is lost to the path.
-/

namespace Endpoint

namespace Url

/-- The path that text becomes where a URL of the scheme has its path. -/
def normalized (scheme : String) (cs : List Char) : Path := (readPath scheme cs).1

/-- The text behind the first question mark. -/
def queryIn (cs : List Char) : Option String := (cs.dropWhile (· != '?')).tail?.map String.ofList

/-! ### Text with a query -/

theorem split_queryIn (cs : List Char) :
    cs = cs.takeWhile (· != '?') ++ queryText (queryIn cs) := by
  have behind : cs.dropWhile (· != '?') = queryText (queryIn cs) := by
    cases rest : cs.dropWhile (· != '?') with
    | nil => simp [queryIn, rest, queryText]
    | cons c more =>
      have mark := List.head?_dropWhile_not (· != '?') cs
      rw [rest] at mark
      obtain rfl : c = '?' := by simpa using mark
      simp [queryIn, rest, queryText]
  rw [← behind, List.takeWhile_append_dropWhile]

theorem takeWhile_noQuery (cs : List Char) : '?' ∉ cs.takeWhile (· != '?') := by
  intro member
  simpa using List.mem_takeWhile_imp member

theorem queryIn_append {front : List Char} (plain : '?' ∉ front) (query : Option String) :
    queryIn (front ++ queryText query) = query := by
  have other : ∀ c ∈ front, (c != '?') = true := by
    intro c member
    rw [bne_iff_ne]
    rintro rfl
    exact plain member
  rw [queryIn, List.dropWhile_append_of_pos other]
  cases query <;> simp [queryText]

/-- The query of text is read without the blanks behind it. -/
theorem queryIn_visible (cs : List Char) :
    queryIn (visible cs) = (queryIn cs).map fun query => String.ofList (visible query.toList) := by
  have split := split_queryIn cs
  have plain := takeWhile_noQuery cs
  generalize cs.takeWhile (· != '?') = front at split plain
  cases asked : queryIn cs with
  | none =>
    rw [asked, queryText, List.append_nil] at split
    have noQuery : '?' ∉ visible cs := fun member => plain (split ▸ visible_subset cs member)
    simpa [queryText] using queryIn_append noQuery none
  | some query =>
    rw [asked, queryText] at split
    have kept : visible cs = front.filter (fun c => c != '\t' && c != '\n' && c != '\r') ++
        queryText (some (String.ofList (visible query.toList))) := by
      rw [split, visible_append_cons (by decide), queryText, String.toList_ofList]
    rw [kept, queryIn_append fun member => plain (List.mem_filter.mp member).1]
    rfl

/-! ### Paths in front of it -/

theorem queryText_mark (query : Option String) :
    ∀ c ∈ (queryText query).head?, endsPath c = true := by
  cases query <;> simp [queryText, endsPath]

theorem readPath_append {scheme : String} {front : List Char}
    (plain : ∀ c ∈ front, endsPath c = false) {cs : List Char} (noFragment : '#' ∉ cs) :
    readPath scheme (front ++ cs) = (normalized scheme (front ++ cs.takeWhile (· != '?')),
      (queryIn cs).map fun query => encode (keepsInQuery (isSpecial scheme)) query.toList, none) := by
  have split := split_queryIn cs
  have route : ∀ c ∈ front ++ cs.takeWhile (· != '?'), endsPath c = false := by
    intro c member
    rcases List.mem_append.mp member with before | inRoute
    · exact plain c before
    · have noQuery : c ≠ '?' := by simpa using List.mem_takeWhile_imp inRoute
      have other : c ≠ '#' := fun same =>
        noFragment (same ▸ (List.takeWhile_prefix _).subset inRoute)
      simp [endsPath, noQuery, other]
  obtain ⟨taken, left⟩ := cut_endsPath route (queryText_mark (queryIn cs))
  rw [List.append_assoc, ← split] at taken left
  refine Prod.ext ?_ ?_
  · rw [readPath_path, taken]
    rfl
  · rw [readPath_tail, left]
    cases asked : queryIn cs with
    | none => rfl
    | some query =>
      rw [asked, queryText] at split
      have behind : '#' ∉ query.toList := by
        intro member
        rw [split] at noFragment
        exact noFragment (by simp [member])
      exact readTail_query _ behind

theorem keepsInQuery_visible {special : Bool} {c : Char} (kept : keepsInQuery special c = true) :
    32 < c.toNat := by
  have printable := keepsInQuery_printable kept
  have ascii : c.toNat < 128 := by
    simp only [isControl, Bool.or_eq_false_iff, decide_eq_false_iff_not] at printable
    omega
  exact Text.ascii_induction (P := fun c => keepsInQuery special c = true → 32 < c.toNat)
    (by cases special <;> decide) ascii kept

theorem visible_kept {special : Bool} {cs : List Char}
    (kept : ∀ c ∈ cs, keepsInQuery special c = true) : visible cs = cs := by
  simpa [visible] using visible_append (fun c member => keepsInQuery_visible (kept c member)) []

theorem encode_append (keeps : Char → Bool) (front back : List Char) :
    (encode keeps (front ++ back)).toList =
      (encode keeps front).toList ++ (encode keeps back).toList := by
  simp [encode, Text.percentEncodeUnless]

theorem encode_visible_eq_iff {special : Bool} {query : String} :
    encode (keepsInQuery special) (visible query.toList) = query ↔
      ∀ c ∈ query.toList, keepsInQuery special c = true := by
  constructor
  · intro same c member
    rw [← same] at member
    exact encode_keptInQuery c member
  · intro kept
    rw [visible_kept kept, encode, String.ofList_toList]
    exact Text.percentEncodeUnless_kept kept

end Url

namespace Client.Connection

open Url (visible queryIn queryText fragmentText)

/-! ### What is read behind a base -/

/-- The part of a request in front of its query, as it is read. -/
def routeIn (request : String) : List Char := (visible request.toList).takeWhile (· != '?')

/-- The path of a base without the slashes at its end, with that of a request behind it. -/
def appended (base : Url) (request : String) : Url.Path :=
  Url.normalized base.scheme ((withoutSlashes base.path.text).toList ++ routeIn request)

/-- What is read behind the authority of a base in the text of a request. -/
def readBehind (base : Url) (request : String) : Url.Path × Option String × Option String :=
  Url.readPath base.scheme (visible (base.behind.rdropWhile (· == '/') ++ request.toList))

theorem web_special {scheme : String} (web : scheme = "http" ∨ scheme = "https") :
    Url.isSpecial scheme = true ∧ scheme ≠ "file" := by
  rcases web with rfl | rfl <;> decide

section Read

variable {text request : String} {base : Url} (parsed : Url.read text = .ok base)
  (special : Url.isSpecial base.scheme = true) (noFile : base.scheme ≠ "file")

include parsed special noFile

theorem read_joined (slash : request.toList.head? = some '/') :
    (Url.read (withoutSlashes base.text ++ request)).map Url.following =
      (Url.readAuthority base.scheme base.authority).map fun _ => readBehind base request := by
  have sound := Url.read_sound parsed
  obtain ⟨held, path, named, -⟩ := Url.read_settled parsed special noFile
  obtain ⟨-, behind⟩ := sound.behind_web special
  have first : (base.behind.rdropWhile (· == '/') ++ request.toList).head? = some '/' := by
    cases left : base.behind.rdropWhile (· == '/') with
    | nil => exact slash
    | cons c more =>
      have front := List.rdropWhile_prefix (· == '/') (l := base.behind)
      rw [left, behind, path, Url.segments_intercalate named, List.cons_append,
        List.cons_prefix_cons] at front
      rw [front.1]
      rfl
  obtain ⟨rest, starts⟩ := List.head?_eq_some_iff.mp first
  have joined := joined_web sound special noFile request
  rw [starts] at joined
  rw [sound.read_web special noFile joined, readBehind, starts, Url.visible_cons (by decide)]

/-- Behind a base that ends with its path, a request goes on with it. -/
theorem readBehind_bare (noQuery : base.query = none) (noFragment : base.fragment = none)
    (plain : '#' ∉ request.toList) :
    readBehind base request = (appended base request,
      (queryIn (visible request.toList)).map fun query =>
        Url.encode (Url.keepsInQuery true) query.toList, none) := by
  have sound := Url.read_sound parsed
  obtain ⟨held, path, -, settled⟩ := Url.read_settled parsed special noFile
  obtain ⟨-, behind⟩ := sound.behind_web special
  have trimmed : base.behind.rdropWhile (· == '/') = (withoutSlashes base.path.text).toList := by
    rw [behind, noQuery, noFragment, queryText, fragmentText, List.append_nil, List.append_nil,
      withoutSlashes_toList]
  have inPath : (withoutSlashes base.path.text).toList ⊆ (Url.Path.segments held).text.toList := by
    rw [withoutSlashes_toList, path]
    exact (List.rdropWhile_prefix _ _).subset
  rw [readBehind, trimmed, Url.visible_append fun c member =>
      Url.keepsInPath_visible (Url.segments_kept settled c (inPath member)),
    Url.readPath_append (fun c member => Url.segments_endsPath settled c (inPath member))
      fun member => plain (Url.visible_subset _ member), special]
  rfl

/-- What is written behind a path that is read stays behind it. -/
theorem readBehind_marked {front : List Char} {mark : Char} (ends : Url.endsPath mark = true)
    {back : List Char} (written : queryText base.query ++ fragmentText base.fragment =
      front ++ mark :: back) (seen : ∀ c ∈ front, 32 < c.toNat)
    (begins : ∀ c ∈ front.head?, Url.endsPath c = true) :
    readBehind base request = (base.path, Url.readTail true (front ++ mark ::
      visible (back.rdropWhile (· == '/') ++ request.toList))) := by
  have sound := Url.read_sound parsed
  obtain ⟨held, path, named, settled⟩ := Url.read_settled parsed special noFile
  obtain ⟨-, behind⟩ := sound.behind_web special
  obtain ⟨other, markSeen⟩ : mark ≠ '/' ∧ 32 < mark.toNat := by
    have either : mark = '?' ∨ mark = '#' := by simpa [Url.endsPath] using ends
    rcases either with rfl | rfl <;> decide
  have trimmed : base.behind.rdropWhile (· == '/') =
      (Url.Path.segments held).text.toList ++ (front ++ mark :: back.rdropWhile (· == '/')) := by
    have noSlash : (mark :: back).any (· != '/') = true := by simp [other]
    have kept := rdropWhile_append_of_any noSlash ((Url.Path.segments held).text.toList ++ front)
    rw [behind, written, path, ← List.append_assoc, kept, rdropWhile_cons other, List.append_assoc]
  rw [readBehind, trimmed, List.append_assoc, Url.visible_append fun c member =>
      Url.keepsInPath_visible (Url.segments_kept settled c member),
    List.append_assoc, Url.visible_append seen, List.cons_append, Url.visible_cons markSeen,
    Url.readPath_segments noFile named settled, path, special]
  intro c first
  cases front with
  | nil =>
    obtain rfl := Option.some.inj first
    exact ends
  | cons d more => exact begins c first

theorem readBehind_query {query : String} (asked : base.query = some query)
    (noFragment : base.fragment = none) (plain : '#' ∉ request.toList) :
    ∃ before, readBehind base request = (base.path,
      some (Url.encode (Url.keepsInQuery true) (before ++ visible request.toList)), none) := by
  have kept := Url.read_query parsed special noFile query asked
  have inside : query.toList.rdropWhile (· == '/') ⊆ query.toList :=
    (List.rdropWhile_prefix _ _).subset
  refine ⟨query.toList.rdropWhile (· == '/'), ?_⟩
  have written : queryText base.query ++ fragmentText base.fragment = [] ++ '?' :: query.toList := by
    simp [asked, noFragment, queryText, fragmentText]
  rw [readBehind_marked parsed special noFile rfl written (by simp) (by simp), List.nil_append,
    Url.visible_append fun c member => Url.keepsInQuery_visible (kept c (inside member)),
    Url.readTail_query]
  intro member
  rcases List.mem_append.mp member with inBase | inRequest
  · exact Url.keepsInQuery_noFragment (kept _ (inside inBase)) rfl
  · exact plain (Url.visible_subset _ inRequest)

theorem readBehind_fragment {fragment : String} (noted : base.fragment = some fragment) :
    ∃ more, readBehind base request = (base.path, base.query, some more) := by
  have kept := Url.read_query parsed special noFile
  have seen : ∀ c ∈ queryText base.query, 32 < c.toNat := by
    intro c member
    cases asked : base.query with
    | none =>
      rw [asked] at member
      cases member
    | some query =>
      rw [asked] at member
      rcases List.mem_cons.mp member with rfl | inside
      · decide
      · exact Url.keepsInQuery_visible (kept query asked c inside)
  have written : queryText base.query ++ fragmentText base.fragment =
      queryText base.query ++ '#' :: fragment.toList := by
    rw [noted]
    rfl
  have marked : readBehind base request = _ :=
    readBehind_marked parsed special noFile rfl written seen (Url.queryText_mark base.query)
  rw [Url.readTail_fragment kept] at marked
  exact ⟨_, marked⟩

end Read

/-! ### Where requests end up -/

/-- A request goes to a URL with the base's path in front of its own and its own query. -/
def Appends (connection : Connection) (request : String) : Prop :=
  ∃ url, connection.fullUrl request = .ok url ∧ url.path = appended connection.base request ∧
    url.query = queryIn request.toList

/-- Whether a base leaves the path and the query of a request to it. One that ends with its path
does, if the query may stand in a URL as it is, and one with a query does not; behind a fragment, a
request adds nothing, and is left to be what the base is already. -/
def Leaves (base : Url) (request : String) : Prop :=
  match base.query, base.fragment with
  | none, none => ∀ query, queryIn request.toList = some query →
      ∀ c ∈ query.toList, Url.keepsInQuery true c = true
  | some _, none => False
  | asked, some _ => base.path = appended base request ∧ asked = queryIn request.toList

theorem query_eq_iff (cs : List Char) :
    ((queryIn (visible cs)).map fun query => Url.encode (Url.keepsInQuery true) query.toList) =
        queryIn cs ↔
      ∀ query, queryIn cs = some query → ∀ c ∈ query.toList, Url.keepsInQuery true c = true := by
  rw [Url.queryIn_visible]
  cases queryIn cs with
  | none => simp
  | some query => simp [Url.encode_visible_eq_iff]

/-- A query that goes on with a request is longer than that of the request. -/
theorem query_ne (before cs : List Char) :
    some (Url.encode (Url.keepsInQuery true) (before ++ visible cs)) ≠ queryIn cs := by
  intro same
  have split := Url.split_queryIn cs
  rw [← same, queryText] at split
  generalize written : Url.encode (Url.keepsInQuery true) (before ++ visible cs) = query at split
  have kept : ∀ c ∈ query.toList, Url.keepsInQuery true c = true := by
    rw [← written]
    exact Url.encode_keptInQuery
  have behind : visible cs = (cs.takeWhile (· != '?')).filter
      (fun c => c != '\t' && c != '\n' && c != '\r') ++ '?' :: query.toList := by
    rw [split, Url.visible_append_cons (by decide), ← split, Url.visible_kept kept]
  have whole : (Url.encode (Url.keepsInQuery true) ('?' :: query.toList)).toList =
      '?' :: query.toList := by
    rw [Url.encode, Text.percentEncodeUnless_kept (by simpa using ⟨by decide, kept⟩),
      String.toList_ofList]
  rw [behind, ← List.append_assoc] at written
  have longer := congrArg (·.toList.length) written
  simp only [Url.encode_append, whole, List.length_append, List.length_cons] at longer
  omega

section Read

variable {text request : String} {connection : Connection}
  (parsed : Url.read text = .ok connection.base)
  (special : Url.isSpecial connection.base.scheme = true) (noFile : connection.base.scheme ≠ "file")

include parsed special noFile

/-- The text of a base is read again if its authority is. -/
theorem reread_iff :
    (∃ again, Url.read connection.base.text = .ok again) ↔
      ∃ found, Url.readAuthority connection.base.scheme connection.base.authority = .ok found := by
  have sound := Url.read_sound parsed
  obtain ⟨held, path, named, -⟩ := Url.read_settled parsed special noFile
  obtain ⟨slashes, behind⟩ := sound.behind_web special
  have whole : connection.base.text.toList = connection.base.scheme.toList ++ ':' :: '/' :: '/' ::
      (connection.base.authority ++ ((Url.Path.segments held).text.toList ++
        (queryText connection.base.query ++ fragmentText connection.base.fragment))) := by
    rw [Url.text_toList, slashes, behind, path]
    rfl
  exact (sound.read_segments special noFile named whole).1

theorem fullUrl_following (slash : request.toList.head? = some '/') :
    ((∃ again, Url.read connection.base.text = .ok again) ↔
        ∃ url, connection.fullUrl request = .ok url) ∧
      ∀ url, connection.fullUrl request = .ok url →
        url.following = readBehind connection.base request := by
  have leads := read_joined parsed special noFile slash
  simp only [fullUrl_eq_ok_iff, reread_iff parsed special noFile]
  refine ⟨(ok_iff_of_map_eq leads).symm, fun url done => ?_⟩
  rw [done] at leads
  obtain ⟨-, -, same⟩ := map_eq_ok.mp leads.symm
  exact same.symm

theorem appends_iff_behind (slash : request.toList.head? = some '/') :
    connection.Appends request ↔ (∃ again, Url.read connection.base.text = .ok again) ∧
      (readBehind connection.base request).1 = appended connection.base request ∧
      (readBehind connection.base request).2.1 = queryIn request.toList := by
  obtain ⟨rereads, follows⟩ := fullUrl_following parsed special noFile slash
  rw [rereads]
  constructor
  · rintro ⟨url, done, path, query⟩
    rw [← follows url done]
    exact ⟨⟨url, done⟩, path, query⟩
  · rintro ⟨⟨url, done⟩, path, query⟩
    rw [← follows url done] at path query
    exact ⟨url, done, path, query⟩

theorem behind_iff_leaves (plain : '#' ∉ request.toList) :
    (readBehind connection.base request).1 = appended connection.base request ∧
        (readBehind connection.base request).2.1 = queryIn request.toList ↔
      Leaves connection.base request := by
  unfold Leaves
  split
  · rename_i noQuery noFragment
    rw [readBehind_bare parsed special noFile noQuery noFragment plain, query_eq_iff]
    exact and_iff_right rfl
  · rename_i query asked noFragment
    obtain ⟨before, behind⟩ :=
      readBehind_query parsed special noFile asked noFragment plain
    rw [behind]
    exact iff_false_intro fun both => query_ne before request.toList both.2
  · rename_i fragment noted
    obtain ⟨more, behind⟩ : ∃ more, readBehind connection.base request = (_, _, some more) :=
      readBehind_fragment parsed special noFile noted
    rw [behind]

end Read

/-- A request gives its path and its query to the URL, behind the path of the base, exactly if the
text of the base is read again and the base leaves them to it. Behind a base that ends with its path
it always has that path, and its query as far as escaping goes. Bases whose hosts have no marked
labels are read again. -/
theorem appends_iff_leaves {text request : String} {connection : Connection}
    (parsed : Url.read text = .ok connection.base)
    (web : connection.base.scheme = "http" ∨ connection.base.scheme = "https")
    (slash : request.toList.head? = some '/') (plain : '#' ∉ request.toList) :
    (connection.Appends request ↔
      (∃ again, Url.read connection.base.text = .ok again) ∧ Leaves connection.base request) ∧
    ((∃ again, Url.read connection.base.text = .ok again) → connection.base.query = none →
      connection.base.fragment = none →
      ∃ url, connection.fullUrl request = .ok url ∧ url.path = appended connection.base request ∧
        url.fragment = none ∧ url.query = (queryIn (visible request.toList)).map fun query =>
          Url.encode (Url.keepsInQuery true) query.toList) ∧
    ((∀ host, connection.base.host = some host → host.IsUnmarked) →
      ∃ again, Url.read connection.base.text = .ok again) := by
  obtain ⟨special, noFile⟩ := web_special web
  refine ⟨?_, fun again noQuery noFragment => ?_, fun unmarked => ?_⟩
  · rw [appends_iff_behind parsed special noFile slash,
      behind_iff_leaves parsed special noFile plain]
  · obtain ⟨rereads, follows⟩ := fullUrl_following parsed special noFile slash
    obtain ⟨url, done⟩ := rereads.mp again
    have behind := follows url done
    rw [readBehind_bare parsed special noFile noQuery noFragment plain] at behind
    obtain ⟨path, query, fragment⟩ : url.path = _ ∧ url.query = _ ∧ url.fragment = _ := by
      simpa [Url.following] using behind
    exact ⟨url, done, path, fragment, query⟩
  · exact (reread_iff parsed special noFile).mpr
      ((Url.read_sound parsed).readAuthority_unmarked special noFile unmarked)

theorem appends_iff_leaves_pair : (new loopback).Appends "/x?k=v" := by
  have slash : "/x?k=v".toList.head? = some '/' := by decide
  obtain ⟨exact, -, rereads⟩ :=
    appends_iff_leaves loopback_read (.inl rfl) slash (by decide)
  refine exact.mpr ⟨rereads (by rintro _ ⟨⟩; trivial), fun query asked => ?_⟩
  obtain rfl : "k=v" = query := Option.some.inj asked
  have kept : "k=v".toList.all (Url.keepsInQuery true) = true := by decide
  exact List.all_eq_true.mp kept

/-- A base with a query. -/
def asking : Url := { loopback with path := .segments ["p"], query := some "k=1" }

/-- Behind a base with a query, the path and the query of a request become a part of that query. -/
theorem request_taken_in :
    Url.read "http://127.0.0.1:8080/p?k=1" = .ok (new asking).base ∧
      (new asking).fullUrl "/a?q=2" = .ok { asking with query := some "k=1/a?q=2" } ∧
      ¬ (new asking).Appends "/a?q=2" := by
  have taken : (new asking).fullUrl "/a?q=2" = .ok { asking with query := some "k=1/a?q=2" } :=
    fullUrl_eq_ok_iff.mpr (eq_ok_of_toOption (by decide +kernel))
  refine ⟨eq_ok_of_toOption (by decide +kernel), taken, ?_⟩
  rintro ⟨url, done, -, query⟩
  obtain rfl := Except.ok.inj (taken.symm.trans done)
  exact absurd query (by decide)

end Client.Connection

end Endpoint
