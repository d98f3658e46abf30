import Endpoint.Proofs.Query

/-!
The path of a request: what it is written from can be read back.
-/

namespace Endpoint.Client

/-- What a path says: the texts between its slashes, and the pairs of its query. -/
structure Target where
  segments : List String
  pairs : List (String × String)
deriving DecidableEq, Repr

namespace Target

/-- The escaped segments with slashes between them, and the query string. -/
def path (target : Target) : String :=
  "/".intercalate (target.segments.map Text.percentEncode) ++
    Query.Pairs.finish (target.pairs.map Query.escapedPair)

/-- The texts between the slashes of a route. -/
def readSegments? (route : List Char) : Option (List String) :=
  (Text.splitAt (· == '/') route).mapM Text.percentDecode?

/-- What a path says, if it is split at its question mark, slashes, ampersands and equals signs
and the pieces are decoded. -/
def read? (path : String) : Option Target :=
  match Text.splitAt (· == '?') path.toList with
  | [route] => do return ⟨← readSegments? route, []⟩
  | [route, query] => do return ⟨← readSegments? route, ← Query.read? query⟩
  | _ => none

/-! ### Reading what was written -/

/-- The characters of the segments, as they are written. -/
def routeText (segments : List String) : List Char :=
  ['/'].intercalate (segments.map fun segment => (Text.percentEncode segment).toList)

theorem question_not_mem_routeText (segments : List String) : '?' ∉ routeText segments := by
  intro inside
  rcases Text.mem_intercalate inside with slash | ⟨piece, member, here⟩
  · simp at slash
  · obtain ⟨segment, -, rfl⟩ := List.mem_map.mp member
    exact Text.not_mem_percentEncode (by decide) (by decide) segment here

theorem readSegments?_routeText {segments : List String} (some : segments ≠ []) :
    readSegments? (routeText segments) = Option.some segments := by
  rw [readSegments?, routeText, Text.splitAt_intercalate '/' (by simpa using some)]
  · exact mapM_map_eq_some_self Text.percentDecode?_percentEncode segments
  · intro piece member
    obtain ⟨segment, -, rfl⟩ := List.mem_map.mp member
    exact Text.not_mem_percentEncode (by decide) (by decide) segment

/-- A path is read as what it was written from. -/
theorem read?_path {target : Target} (some : target.segments ≠ []) :
    read? target.path = Option.some target := by
  obtain ⟨segments, pairs⟩ := target
  have route : ("/".intercalate (segments.map Text.percentEncode)).toList =
      routeText segments := by
    rw [String.toList_intercalate, List.map_map]
    rfl
  have plain := question_not_mem_routeText segments
  have back := readSegments?_routeText some
  by_cases none : pairs = []
  · subst none
    have shown : (Target.path ⟨segments, []⟩).toList = routeText segments := by
      rw [path, String.toList_append, route]
      exact List.append_nil _
    rw [read?, shown, Text.splitAt_plain plain]
    simp only [back]
    rfl
  · obtain ⟨query, shown, quiet, pairsBack⟩ := Query.finish_read none
    have whole : (Target.path ⟨segments, pairs⟩).toList =
        routeText segments ++ '?' :: query := by
      rw [path, String.toList_append, route, shown]
    rw [read?, whole, Text.splitAt_pair plain quiet]
    simp only [back, pairsBack]
    rfl

end Target

end Endpoint.Client
