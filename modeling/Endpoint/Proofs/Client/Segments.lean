import Endpoint.Proofs.Client.Origin
import Endpoint.Proofs.Emission.Plan
import Endpoint.Proofs.Route.Grammar
import Endpoint.Proofs.Url.Again
import Endpoint.Proofs.Url.Segments
import Mathlib.Data.List.Forall2
import Mathlib.Data.List.Induction

/-!
Values of routes as segments of paths. Main statement: behind the segments of its base, the URL of a
request has those of the template, and each value is one of them, exactly if no value is a point or
two.
-/

namespace Endpoint

/-! ### Paths of plans -/

namespace Emission

/-- What a piece of a path adds to it if parameters have the values. -/
def Piece.written (values : Source.Ident → String) : Piece → String
  | .text shown => shown
  | .value parameter => Text.percentEncode (values parameter)

/-- The path that the plan of a method builds is its route with the values of the parameters in
place of names. -/
theorem partsOf_written {raw : String} {method : MethodDefinition}
    (accepted : Route.read raw = .ok method.route) (policy : QueryPolicy)
    (values : Source.Ident → String) :
    String.join ((partsOf policy method).path.map (·.written values)) =
      method.route.filled fun name => values (routeParameter method.bindings name) := by
  rw [partsOf_path policy method (Route.read_valid accepted), List.map_map, Route.filled]
  refine congrArg String.join (List.map_congr_left fun segment _ => ?_)
  cases segment <;> rfl

end Emission

/-! ### Templates of whole segments -/

namespace Route

/-- What stands behind a slash of a template: text, or the place of a value. -/
inductive Part
  | text (held : String)
  | value (name : String)
deriving DecidableEq, Repr

namespace Part

def written : Part → List Char
  | .text held => held.toList
  | .value name => openBrace :: (name.toList ++ [closeBrace])

/-- Text of unreserved characters that is neither a point nor two, or a name. -/
def Valid : Part → Prop
  | .text held => held.toList.all Text.isUnreserved = true ∧ held ≠ "." ∧ held ≠ ".."
  | .value name => isName name.toList = true

/-- The text, or the value that the name has. -/
def content (values : String → String) : Part → String
  | .text held => held
  | .value name => values name

end Part

/-- A template whose parts are whole segments. -/
structure IsSegmented (raw : String) (parts : List Part) : Prop where
  some : parts ≠ []
  valid : ∀ part ∈ parts, part.Valid
  written : raw.toList = parts.flatMap fun part => '/' :: part.written

/-- The segments of the path that parts become. -/
def segmentsOf (values : String → String) (parts : List Part) : List String :=
  parts.map fun part => Text.percentEncode (part.content values)

theorem unreserved_isLiteral {c : Char} (unreserved : Text.isUnreserved c = true) :
    isLiteral c = true :=
  Text.ascii_induction (P := fun c => Text.isUnreserved c = true → isLiteral c = true) (by decide)
    (Text.isUnreserved_ascii unreserved) unreserved

theorem filled_literalSegment (values : String → String) (literal : List Char) :
    (String.join ((literalSegment literal).map (·.filled values))).toList = literal := by
  unfold literalSegment
  split
  · rename_i none
    rw [List.isEmpty_iff.mp none]
    rfl
  · simp [Segment.filled, String.join_cons]

theorem readFrom_parts (values : String → String) {parts : List Part}
    (valid : ∀ part ∈ parts, part.Valid) (offset : Nat) (literal : List Char) :
    ∃ segments,
      readFrom offset (.outside literal) (parts.flatMap fun part => '/' :: part.written) =
        .ok segments ∧
      (String.join (segments.map (·.filled values))).toList =
        literal ++ (Url.Path.segments (segmentsOf values parts)).text.toList := by
  induction parts generalizing offset literal with
  | nil =>
    refine ⟨_, rfl, ?_⟩
    rw [filled_literalSegment]
    simp [segmentsOf, Url.segments_toList]
  | cons part rest ih =>
    simp only [List.mem_cons, forall_eq_or_imp] at valid
    have slash : isLiteral '/' = true := by decide
    rw [List.flatMap_cons, List.cons_append]
    simp only [segmentsOf, Url.segments_toList, List.map_cons, List.flatMap_cons] at ih ⊢
    cases part with
    | text held =>
      have plain : ('/' :: held.toList).all isLiteral = true := by
        rw [List.all_cons, slash, Bool.true_and]
        exact List.all_eq_true.mpr fun c member =>
          unreserved_isLiteral (List.all_eq_true.mp valid.1.1 c member)
      obtain ⟨later, same⟩ := readFrom_literals plain offset literal
        (rest.flatMap fun part => '/' :: part.written)
      obtain ⟨segments, read, filled⟩ := ih valid.2 later (literal ++ '/' :: held.toList)
      refine ⟨segments, same.trans read, ?_⟩
      rw [filled, Part.content, Text.percentEncode_kept valid.1.1]
      simp
    | value name =>
      obtain ⟨later, same⟩ := readFrom_placeholder valid.1 (offset + '/'.utf8Size) (literal ++ ['/'])
        (rest.flatMap fun part => '/' :: part.written)
      obtain ⟨segments, read, filled⟩ := ih valid.2 later []
      refine ⟨literalSegment (literal ++ ['/']) ++ .placeholder name :: segments, ?_, ?_⟩
      · rw [readFrom_literal slash, Part.written, List.cons_append, List.append_assoc,
          List.singleton_append, same, read, String.ofList_toList]
        rfl
      · rw [List.map_append, String.join_append, String.toList_append, filled_literalSegment,
          List.map_cons, String.join_cons, String.toList_append, filled]
        simp [Segment.filled, Part.content]

/-- The path of a template of whole segments. -/
theorem IsSegmented.filled {raw : String} {parts : List Part} (segmented : IsSegmented raw parts)
    {route : Route} (accepted : read raw = .ok route) (values : String → String) :
    route.filled values = (Url.Path.segments (segmentsOf values parts)).text := by
  obtain ⟨segments, done, filled⟩ := readFrom_parts values segmented.valid 0 []
  simp only [read, segmented.written, done, bind_eq_ok, pure, Except.pure, Except.ok.injEq] at accepted
  obtain ⟨_, rfl, rfl⟩ := accepted
  exact String.toList_inj.mp filled

end Route

/-! ### The base -/

namespace Url

/-- The segments of a path up to the last one that is not empty. -/
def segments (url : Url) : List String :=
  match url.path with
  | .segments held => held.rdropWhile (·.isEmpty)
  | .plain _ => []

/-- Without the slashes at its end, a path is written from its segments up to the last one that is
not empty. -/
theorem rdropWhile_segments {held : List String}
    (whole : ∀ segment ∈ held, '/' ∉ segment.toList) :
    (Path.segments held).text.toList.rdropWhile (· == '/') =
      (Path.segments (held.rdropWhile (·.isEmpty))).text.toList := by
  induction held using List.reverseRecOn with
  | nil => rfl
  | append_singleton front last ih =>
    have before := ih fun segment member => whole segment (List.mem_append_left _ member)
    have here := whole last (by simp)
    by_cases empty : last = ""
    · have text : (Path.segments (front ++ [""])).text.toList =
          (Path.segments front).text.toList ++ ['/'] := by
        simp [segments_toList]
      rw [empty, List.rdropWhile_concat_pos _ _ _ rfl, text,
        List.rdropWhile_concat_pos _ _ _ (by decide), before]
    · have text : (Path.segments (front ++ [last])).text.toList =
          ((Path.segments front).text.toList ++ ['/']) ++ last.toList := by
        simp [segments_toList]
      have keeps : ¬ last.isEmpty = true := by simpa using empty
      rw [List.rdropWhile_concat_neg _ _ _ keeps, text]
      obtain ⟨init, c, split⟩ : ∃ init c, last.toList = init ++ [c] :=
        ⟨_, _, (List.dropLast_concat_getLast (by simpa using empty)).symm⟩
      have noSlash : ¬ (c == '/') = true := fun same => here (by simp [split, eq_of_beq same])
      rw [split, ← List.append_assoc, List.rdropWhile_concat_neg (· == '/') _ c noSlash]

end Url

namespace Client.Connection

/-- A request is written behind what follows the authority of a base of the web, without the slashes
at its end. -/
theorem joined_web {base : Url} (sound : base.Sound) (special : Url.isSpecial base.scheme = true)
    (noFile : base.scheme ≠ "file") (request : String) :
    (withoutSlashes base.text ++ request).toList =
      base.scheme.toList ++ ':' :: '/' :: '/' ::
        (base.authority ++ (base.behind.rdropWhile (· == '/') ++ request.toList)) := by
  obtain ⟨slashes, -⟩ := sound.behind_web special
  cases goesOn : base.goesOn with
  | true =>
    rw [joined_goesOn goesOn, slashes]
    simp
  | false =>
    have none : base.behind.rdropWhile (· == '/') = [] := by
      refine List.rdropWhile_eq_nil_iff.mpr fun c member => ?_
      simpa using List.any_eq_false.mp goesOn c member
    rw [joined_authority sound goesOn (sound.authority_ne_nil special noFile), slashes, none]
    simp

/-- Of a base with nothing behind its path, the segments are left. -/
theorem behind_segments {base : Url} (sound : base.Sound) (special : Url.isSpecial base.scheme = true)
    (noQuery : base.query = none) (noFragment : base.fragment = none)
    {held : List String} (path : base.path = .segments held)
    (settled : ∀ segment ∈ held, Url.IsSettled segment) :
    base.behind.rdropWhile (· == '/') = (Url.Path.segments base.segments).text.toList := by
  obtain ⟨-, behind⟩ := sound.behind_web special
  rw [behind, path, noQuery, noFragment, Url.queryText, Url.fragmentText, List.append_nil,
    List.append_nil, Url.rdropWhile_segments fun segment member => (settled segment member).noSlash,
    Url.segments, path]

/-- A segment carries a part of a template: it is its text, or it decodes to its value. -/
inductive Carries (values : String → String) : Route.Part → String → Prop
  | text (held : String) : Carries values (.text held) held
  | value {name segment : String}
      (decoded : Text.percentBytes segment.toList = Text.textBytes (values name)) :
      Carries values (.value name) segment

/-- A request with the path goes to a URL whose path has the segments of the base and behind them
one for each part. -/
def Delivers (connection : Connection) (values : String → String) (parts : List Route.Part)
    (path : String) : Prop :=
  ∃ url own, connection.fullUrl path = .ok url ∧
    url.path = .segments (connection.base.segments ++ own) ∧
    List.Forall₂ (Carries values) parts own

theorem fullUrl_eq_ok_iff {connection : Connection} {path : String} {url : Url} :
    connection.fullUrl path = .ok url ↔
      Url.read (withoutSlashes connection.base.text ++ path) = .ok url := by
  simp only [fullUrl]
  cases Url.read (withoutSlashes connection.base.text ++ path) <;> simp

theorem segmentsOf_carries {values : String → String} {parts : List Route.Part}
    (valid : ∀ part ∈ parts, part.Valid) :
    List.Forall₂ (Carries values) parts (Route.segmentsOf values parts) := by
  refine List.forall₂_map_right_iff.mpr (List.forall₂_same.mpr fun part member => ?_)
  cases part with
  | text held =>
    rw [Route.Part.content, Text.percentEncode_kept (valid _ member).1]
    exact .text held
  | value name => exact .value (Text.percentBytes_percentEncodeUnless (by decide) _)

/-- Parts whose values are no points become settled segments. -/
theorem segmentsOf_settled {values : String → String} {parts : List Route.Part}
    (valid : ∀ part ∈ parts, part.Valid)
    (noPoints : ∀ name, .value name ∈ parts → values name ≠ "." ∧ values name ≠ "..") :
    ∀ segment ∈ Route.segmentsOf values parts, Url.IsSettled segment := by
  intro segment member
  obtain ⟨part, inParts, rfl⟩ := List.mem_map.mp member
  cases part with
  | text held =>
    have held := valid _ inParts
    exact Url.percentEncode_isSettled held.2.1 held.2.2
  | value name =>
    obtain ⟨noPoint, noPoints⟩ := noPoints name inParts
    exact Url.percentEncode_isSettled noPoint noPoints

/-- No settled segment carries a point. -/
theorem Carries.noPoints {values : String → String} {name segment : String}
    (carried : Carries values (.value name) segment) (settled : Url.IsSettled segment) :
    values name ≠ "." ∧ values name ≠ ".." := by
  cases carried with
  | value decoded =>
    refine ⟨fun point => ?_, fun points => ?_⟩
    · rw [point] at decoded
      have single := Url.isSingleDot_iff_bytes.mpr decoded
      rw [settled.single] at single
      cases single
    · rw [points] at decoded
      have double := Url.isDoubleDot_iff_bytes.mpr decoded
      rw [settled.double] at double
      cases double

theorem exists_carried {values : String → String} {parts : List Route.Part} {own : List String}
    (carried : List.Forall₂ (Carries values) parts own) {part : Route.Part}
    (member : part ∈ parts) : ∃ segment ∈ own, Carries values part segment := by
  induction carried with
  | nil => cases member
  | cons first _ ih =>
    rcases List.mem_cons.mp member with rfl | later
    · exact ⟨_, by simp, first⟩
    · obtain ⟨segment, inside, carried⟩ := ih later
      exact ⟨segment, List.mem_cons_of_mem _ inside, carried⟩

theorem finish_mark (pairs : Query.Pairs) :
    ∀ c ∈ (Url.visible pairs.finish.toList).head?, Url.endsPath c = true := by
  unfold Query.Pairs.finish
  split
  · simp [Url.visible]
  · rw [String.toList_append]
    change ∀ c ∈ (Url.visible ('?' :: _)).head?, _
    rw [Url.visible_cons (by decide)]
    simp [Url.endsPath]

/-- A request of a method delivers its values as segments exactly if the text of its base is read
again, as that of hosts without marked labels is, and no value is a point or two. -/
theorem delivers_iff {text raw : String} {connection : Connection} {route : Route}
    {parts : List Route.Part} (parsed : Url.read text = .ok connection.base)
    (web : connection.base.scheme = "http" ∨ connection.base.scheme = "https")
    (noQuery : connection.base.query = none) (noFragment : connection.base.fragment = none)
    (segmented : Route.IsSegmented raw parts) (accepted : Route.read raw = .ok route)
    (values : String → String) (pairs : Query.Pairs) :
    (connection.Delivers values parts (route.filled values ++ pairs.finish) ↔
      (∃ again, Url.read connection.base.text = .ok again) ∧
        ∀ name, .value name ∈ parts → values name ≠ "." ∧ values name ≠ "..") ∧
    ((∀ host, connection.base.host = some host → host.IsUnmarked) →
      ∃ again, Url.read connection.base.text = .ok again) := by
  have sound := Url.read_sound parsed
  have special : Url.isSpecial connection.base.scheme = true := by
    rcases web with same | same <;> rw [same] <;> rfl
  have noFile : connection.base.scheme ≠ "file" := by
    rcases web with same | same <;> rw [same] <;> decide
  obtain ⟨held, path, some, settled⟩ := Url.read_settled parsed special noFile
  obtain ⟨slashes, behind⟩ := sound.behind_web special
  have whole : connection.base.text.toList = connection.base.scheme.toList ++ ':' :: '/' :: '/' ::
      (connection.base.authority ++ ((Url.Path.segments held).text.toList ++ [])) := by
    rw [Url.text_toList, slashes, behind, path, noQuery, noFragment]
    rfl
  have joined : (withoutSlashes connection.base.text ++
      (route.filled values ++ pairs.finish)).toList =
        connection.base.scheme.toList ++ ':' :: '/' :: '/' :: (connection.base.authority ++
          ((Url.Path.segments (connection.base.segments ++ Route.segmentsOf values parts)).text.toList
            ++ pairs.finish.toList)) := by
    rw [joined_web sound special noFile, behind_segments sound special noQuery noFragment path settled,
      String.toList_append, segmented.filled accepted]
    simp only [Url.segments_toList, List.flatMap_append, List.append_assoc]
  have own : connection.base.segments ++ Route.segmentsOf values parts ≠ [] := by
    simp [Route.segmentsOf, segmented.some]
  obtain ⟨rereads, -⟩ := sound.read_segments special noFile some whole
  obtain ⟨reads, paths⟩ := sound.read_segments special noFile own joined
  refine ⟨⟨?_, ?_⟩, fun unmarked => rereads.mpr ?_⟩
  · rintro ⟨url, own, full, path, carried⟩
    rw [fullUrl_eq_ok_iff] at full
    refine ⟨rereads.mpr (reads.mp ⟨url, full⟩), fun name inParts => ?_⟩
    obtain ⟨found, same, settled⟩ := (paths url full).1
    rw [path, Url.Path.segments.injEq] at same
    subst same
    obtain ⟨segment, inOwn, carried⟩ := exists_carried carried inParts
    exact carried.noPoints (settled segment (List.mem_append_right _ inOwn))
  · rintro ⟨again, noPoints⟩
    obtain ⟨url, read⟩ := reads.mpr (rereads.mp again)
    refine ⟨url, Route.segmentsOf values parts, fullUrl_eq_ok_iff.mpr read, ?_,
      segmentsOf_carries segmented.valid⟩
    refine (paths url read).2 ?_ (finish_mark pairs)
    intro segment member
    rcases List.mem_append.mp member with inBase | inOwn
    · rw [Url.segments, path] at inBase
      exact settled segment ((List.rdropWhile_prefix (·.isEmpty) held).subset inBase)
    · exact segmentsOf_settled segmented.valid noPoints segment inOwn
  · exact sound.readAuthority_unmarked special noFile unmarked

theorem delivers_iff_slash :
    Url.read "http://127.0.0.1:8080" = .ok (new loopback).base ∧
      Route.IsSegmented "/x/{id}" [.text "x", .value "id"] ∧
      Route.read "/x/{id}" = .ok ⟨"/x/{id}", [.literal "/x/", .placeholder "id"]⟩ ∧
      (new loopback).Delivers (fun _ => "a/b") [.text "x", .value "id"]
        (Route.filled ⟨"/x/{id}", [.literal "/x/", .placeholder "id"]⟩ (fun _ => "a/b") ++
          Query.Pairs.finish [("k", "v")]) := by
  have segmented : Route.IsSegmented "/x/{id}" [.text "x", .value "id"] :=
    ⟨by simp, by simp [Route.Part.Valid]; decide, rfl⟩
  have accepted : Route.read "/x/{id}" =
      .ok ⟨"/x/{id}", [.literal "/x/", .placeholder "id"]⟩ :=
    eq_ok_of_toOption (by decide +kernel)
  obtain ⟨exact, rereads⟩ := delivers_iff loopback_read (.inl rfl) rfl rfl segmented accepted
    (fun _ => "a/b") [("k", "v")]
  have again := rereads (by rintro _ ⟨⟩; trivial)
  exact ⟨loopback_read, segmented, accepted, exact.mpr ⟨again, fun _ _ => by decide⟩⟩

/-- A value of two points takes away the segment before it. -/
theorem value_climbs :
    Url.read "http://127.0.0.1:8080" = .ok (new loopback).base ∧
      Route.IsSegmented "/files/{name}/x" [.text "files", .value "name", .text "x"] ∧
      Route.read "/files/{name}/x" =
        .ok ⟨"/files/{name}/x", [.literal "/files/", .placeholder "name", .literal "/x"]⟩ ∧
      ¬ (new loopback).Delivers (fun _ => "..") [.text "files", .value "name", .text "x"]
        (Route.filled
          ⟨"/files/{name}/x", [.literal "/files/", .placeholder "name", .literal "/x"]⟩
          (fun _ => "..") ++ Query.Pairs.finish []) := by
  have segmented :
      Route.IsSegmented "/files/{name}/x" [.text "files", .value "name", .text "x"] :=
    ⟨by simp, by simp [Route.Part.Valid]; decide, rfl⟩
  have accepted : Route.read "/files/{name}/x" =
      .ok ⟨"/files/{name}/x", [.literal "/files/", .placeholder "name", .literal "/x"]⟩ :=
    eq_ok_of_toOption (by decide +kernel)
  have path : Route.filled
      ⟨"/files/{name}/x", [.literal "/files/", .placeholder "name", .literal "/x"]⟩ (fun _ => "..") ++
        Query.Pairs.finish [] = "/files/../x" := by
    decide +kernel
  have read : Url.read (withoutSlashes (new loopback).base.text ++ "/files/../x") =
      .ok ⟨"http", "", "", some (.four 2130706433), some 8080, .segments ["x"], none, none⟩ :=
    eq_ok_of_toOption (by decide +kernel)
  refine ⟨loopback_read, segmented, accepted, ?_⟩
  rintro ⟨url, own, full, there, carried⟩
  rw [path, fullUrl_eq_ok_iff, read] at full
  obtain rfl := Except.ok.inj full
  have own : own = ["x"] := (Url.Path.segments.inj there).symm
  have count := carried.length_eq
  rw [own] at count
  cases count

end Client.Connection

end Endpoint
