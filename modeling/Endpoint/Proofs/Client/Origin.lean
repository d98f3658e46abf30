import Endpoint.Client.Connection
import Endpoint.Proofs.Url.Authority
import Endpoint.Proofs.Route
import Endpoint.Query
import Mathlib.Data.List.DropRight

/-!
Where requests go. The path of a request is written behind the text of the base URL and the whole
is read again: unless the base goes on behind its authority, what the path begins with is read as
a part of the authority.
-/

namespace Endpoint

/-! ### Paths of methods -/

namespace Route

/-- A segment with values in place of names: literals as they are, values escaped. -/
def Segment.filled (values : String → String) : Segment → String
  | .literal text => text
  | .placeholder name => Text.percentEncode (values name)

/-- The path that a template becomes. -/
def filled (route : Route) (values : String → String) : String :=
  String.join (route.segments.map (·.filled values))

end Route

namespace Url

/-- Whether more than slashes is written behind the authority. -/
def goesOn (url : Url) : Bool := url.behind.any (· != '/')

/-- What is read into the authority of a URL from a path that is written behind it. -/
def extension (url : Url) (path : String) : List Char :=
  if url.authority.isEmpty then authorityIn url.scheme (visible path.toList)
  else (visible path.toList).takeWhile (!endsAuthority (isSpecial url.scheme) ·)

/-- Whether a URL with the path written behind it cannot lead elsewhere: it goes on behind its
authority, or takes nothing into it from the path, or still names its place with what it takes,
if it is a URL at all. -/
def Keeps (url : Url) (path : String) : Prop :=
  url.goesOn = true ∨ url.extension path = [] ∨
    ∀ found, readPlace url.scheme (url.authority ++ url.extension path) = .ok found →
      found = url.place

end Url

namespace Client.Connection

/-! ### The base without slashes at its end -/

theorem withoutSlashes_toList (text : String) :
    (withoutSlashes text).toList = text.toList.rdropWhile (· == '/') := by
  simp [withoutSlashes, List.rdropWhile]

theorem rdropWhile_append_of_any {back : List Char} (some : back.any (· != '/') = true)
    (front : List Char) :
    (front ++ back).rdropWhile (· == '/') = front ++ back.rdropWhile (· == '/') := by
  have kept : back.reverse.dropWhile (· == '/') ≠ [] := by
    intro none
    obtain ⟨c, member, other⟩ := List.any_eq_true.mp some
    have slash := List.dropWhile_eq_nil_iff.mp none c (List.mem_reverse.mpr member)
    simp [eq_of_beq slash] at other
  simp only [List.rdropWhile, List.reverse_append, List.dropWhile_append, List.isEmpty_iff, kept,
    if_false, List.reverse_reverse]

theorem rdropWhile_append_of_all {back : List Char} (all : back.any (· != '/') = false)
    (front : List Char) :
    (front ++ back).rdropWhile (· == '/') = front.rdropWhile (· == '/') := by
  have none : back.reverse.dropWhile (· == '/') = [] := by
    apply List.dropWhile_eq_nil_iff.mpr
    intro c member
    simpa using List.any_eq_false.mp all c (List.mem_reverse.mp member)
  simp [List.rdropWhile, List.dropWhile_append, none]

/-- What stands behind a character that is no slash loses its own slashes only. -/
theorem rdropWhile_cons {c : Char} (other : c ≠ '/') (cs : List Char) :
    (c :: cs).rdropWhile (· == '/') = c :: cs.rdropWhile (· == '/') := by
  cases some : cs.any (· != '/') with
  | true => exact rdropWhile_append_of_any some [c]
  | false =>
    have none : cs.rdropWhile (· == '/') = [] := by simpa using rdropWhile_append_of_all some []
    have kept := rdropWhile_append_of_all some [c]
    rw [List.singleton_append] at kept
    rw [kept, none, ← List.nil_append [c], List.rdropWhile_concat_neg _ _ _ (by simpa using other)]

/-- What is left begins as before, and a single character of it is no slash. -/
theorem rdropWhile_start {cs : List Char} (some : cs.any (· != '/') = true) :
    ∃ c more, cs.rdropWhile (· == '/') = c :: more ∧ c :: more <+: cs ∧
      (more = [] → c ≠ '/') := by
  have kept : cs.rdropWhile (· == '/') ≠ [] := by
    intro none
    obtain ⟨c, member, other⟩ := List.any_eq_true.mp some
    have slash := List.rdropWhile_eq_nil_iff.mp none c member
    simp [eq_of_beq slash] at other
  have last := List.rdropWhile_last_not (· == '/') cs kept
  have front := List.rdropWhile_prefix (· == '/') (l := cs)
  obtain ⟨c, more, split⟩ := List.exists_cons_of_ne_nil kept
  refine ⟨c, more, split, split ▸ front, ?_⟩
  rintro rfl rfl
  simp [split] at last

/-- Where the base goes on, the slashes are taken from what is written behind its authority. -/
theorem joined_goesOn {base : Url} (goesOn : base.goesOn = true) (path : String) :
    (withoutSlashes base.text ++ path).toList =
      base.scheme.toList ++ ':' :: (base.slashes ++ base.authority ++
        (base.behind.rdropWhile (· == '/') ++ path.toList)) := by
  have kept := rdropWhile_append_of_any goesOn
    (base.scheme.toList ++ ':' :: (base.slashes ++ base.authority))
  simp only [List.append_assoc, List.cons_append] at kept
  rw [String.toList_append, withoutSlashes_toList, Url.text_toList, kept]
  simp

/-- Where the base ends with its authority, the path is written right behind that. -/
theorem joined_authority {base : Url} (sound : base.Sound) (ends : base.goesOn = false)
    (some : base.authority ≠ []) (path : String) :
    (withoutSlashes base.text ++ path).toList =
      base.scheme.toList ++ ':' :: (base.slashes ++ base.authority ++ path.toList) := by
  obtain ⟨init, c, split⟩ : ∃ init c, base.authority = init ++ [c] :=
    ⟨_, _, (List.dropLast_concat_getLast some).symm⟩
  have noSlash : ¬ (c == '/') = true := by
    intro same
    have plain := sound.authority_plain c (by simp [split])
    rw [eq_of_beq same] at plain
    cases plain
  have kept := rdropWhile_append_of_all ends
    (base.scheme.toList ++ ':' :: (base.slashes ++ init) ++ [c])
  rw [List.rdropWhile_concat_neg (· == '/') _ c noSlash] at kept
  simp only [List.append_assoc, List.cons_append, List.nil_append] at kept
  rw [String.toList_append, withoutSlashes_toList, Url.text_toList, split]
  simp [kept]

/-- A base without an authority loses the slashes in front of it as well. -/
theorem joined_empty {base : Url} (ends : base.goesOn = false) (empty : base.authority = [])
    (path : String) :
    (withoutSlashes base.text ++ path).toList = base.scheme.toList ++ ':' :: path.toList := by
  have dropped : (base.slashes ++ base.behind).any (· != '/') = false := by
    have none : base.slashes.any (· != '/') = false := by
      unfold Url.slashes
      split <;> rfl
    have ends' : base.behind.any (· != '/') = false := ends
    rw [List.any_append, none, ends', Bool.or_self]
  have kept := rdropWhile_append_of_all dropped (base.scheme.toList ++ [':'])
  rw [List.rdropWhile_concat_neg _ _ _ (by decide)] at kept
  simp only [List.append_assoc, List.singleton_append] at kept
  rw [String.toList_append, withoutSlashes_toList, Url.text_toList, empty, List.nil_append, kept]
  simp

/-! ### The place of a request -/

/-- Text that begins with the scheme of a sound URL leads where its authority says. -/
theorem read_behind {base : Url} (sound : base.Sound) {text : String} {front rest : List Char}
    (seen : ∀ c ∈ front, 32 < c.toNat)
    (same : text.toList = base.scheme.toList ++ ':' :: (front ++ rest)) :
    (Url.read text).map Url.place =
      Url.readPlace base.scheme (Url.authorityIn base.scheme (front ++ Url.visible rest)) := by
  rw [sound.read_eq seen same, Url.readRest_place]

/-- Behind a base without a host, nothing is read as one. -/
theorem hostless_apart {base : Url} (sound : base.Sound) (hostless : base.host = none)
    (goesOn : base.goesOn = true) (path : List Char) :
    ¬ ['/', '/'] <+: Url.visible (base.behind.rdropWhile (· == '/') ++ path) := by
  obtain ⟨c, more, split, front, single⟩ := rdropWhile_start goesOn
  have printable (d : Char) (inside : d ∈ c :: more) : 32 ≤ d.toNat := by
    have noControl := sound.behind d (front.subset inside)
    simp only [Url.isControl, Bool.or_eq_false_iff, decide_eq_false_iff_not] at noControl
    omega
  rintro ⟨rest, same⟩
  simp only [split, List.cons_append, List.nil_append] at same
  rcases Url.visible_cons_cases (printable c (by simp)) (more ++ path) with none | some
  · rw [none] at same
    cases same
  · rw [some] at same
    obtain ⟨rfl, behind⟩ := List.cons.inj same
    cases more with
    | nil => exact single rfl rfl
    | cons d more =>
      simp only [List.cons_append] at behind
      rcases Url.visible_cons_cases (printable d (by simp)) (more ++ path) with none | some
      · rw [none] at behind
        cases behind
      · rw [some] at behind
        obtain ⟨rfl, _⟩ := List.cons.inj behind
        exact (sound.hostless hostless).2 (List.IsPrefix.trans ⟨more, rfl⟩ front)

theorem slashes_visible {base : Url} (sound : base.Sound) :
    ∀ c ∈ base.slashes ++ base.authority, 32 < c.toNat := by
  intro c member
  rcases List.mem_append.mp member with inSlashes | inAuthority
  · unfold Url.slashes at inSlashes
    split at inSlashes
    · simp only [List.mem_cons, List.not_mem_nil, or_false, or_self] at inSlashes
      subst inSlashes
      decide
    · cases inSlashes
  · exact sound.authority_visible c inAuthority

/-- Where the base goes on, the text of a request leads where its authority says. -/
theorem read_joined_goesOn {base : Url} (sound : base.Sound) (goesOn : base.goesOn = true)
    (path : String) :
    (Url.read (withoutSlashes base.text ++ path)).map Url.place =
      Url.readPlace base.scheme base.authority := by
  rw [read_behind sound (slashes_visible sound) (joined_goesOn goesOn path)]
  cases hosted : base.host with
  | none =>
    have apart := hostless_apart sound hosted goesOn path.toList
    have common := (sound.hostless hosted).1
    have noSlashes : base.slashes = [] := by simp [Url.slashes, hosted]
    have noText : base.authority = [] := by simp [Url.authority, hosted]
    rw [noSlashes, noText, List.nil_append, List.nil_append, Url.authorityIn_common common apart]
  | some host =>
    have some : base.host ≠ none := by simp [hosted]
    have slashes : base.slashes = ['/', '/'] := by simp [Url.slashes, hosted]
    obtain ⟨c, more, split, front, _⟩ := rdropWhile_start goesOn
    obtain ⟨rest, start⟩ := front
    obtain ⟨ends, seen⟩ := sound.behind_start some start.symm
    have stop : (Url.visible (base.behind.rdropWhile (· == '/') ++ path.toList)).takeWhile
        (!Url.endsAuthority (Url.isSpecial base.scheme) ·) = [] := by
      rw [split, List.cons_append, Url.visible_cons seen]
      simp [ends]
    have region := Url.authorityIn_slashes sound.authority_plain sound.of_authority_nil
      (Url.visible (base.behind.rdropWhile (· == '/') ++ path.toList))
    rw [stop, List.append_nil] at region
    rw [slashes, List.append_assoc]
    exact congrArg _ region

/-- Where the base does not, its authority takes on what the path begins with. -/
theorem read_joined_extended {base : Url} (sound : base.Sound) (ends : base.goesOn = false)
    (path : String) :
    (Url.read (withoutSlashes base.text ++ path)).map Url.place =
      Url.readPlace base.scheme (base.authority ++ base.extension path) := by
  by_cases empty : base.authority = []
  · have text : (withoutSlashes base.text ++ path).toList =
        base.scheme.toList ++ ':' :: ([] ++ path.toList) := joined_empty ends empty path
    rw [read_behind sound (by simp) text]
    simp [empty, Url.extension]
  · have slashes : base.slashes = ['/', '/'] := by
      cases hosted : base.host with
      | none => exact absurd (by simp [Url.authority, hosted]) empty
      | some host => simp [Url.slashes, hosted]
    have region := Url.authorityIn_slashes sound.authority_plain sound.of_authority_nil
      (Url.visible path.toList)
    have extension : base.extension path = (Url.visible path.toList).takeWhile
        (!Url.endsAuthority (Url.isSpecial base.scheme) ·) := by
      simp [Url.extension, empty]
    rw [read_behind sound (slashes_visible sound) (joined_authority sound ends empty path),
      slashes, extension, List.append_assoc]
    exact congrArg _ region

/-- Whether a request with the path fails for want of a URL or goes to the place of the base. -/
def Stays (connection : Connection) (path : String) : Prop :=
  (∃ joined message, connection.fullUrl path = .error (.url joined message)) ∨
    ∃ url, connection.fullUrl path = .ok url ∧ url.place = connection.base.place

theorem stays_of_error {connection : Connection} {path : String} {fault : Url.Fault}
    (read : Url.read (withoutSlashes connection.base.text ++ path) = .error fault) :
    connection.Stays path :=
  .inl ⟨withoutSlashes connection.base.text ++ path, fault.message, by simp only [fullUrl, read]⟩

theorem stays_of_ok {connection : Connection} {path : String} {url : Url}
    (read : Url.read (withoutSlashes connection.base.text ++ path) = .ok url) :
    connection.Stays path ↔ url.place = connection.base.place := by
  have found : connection.fullUrl path = .ok url := by simp only [fullUrl, read]
  simp [Stays, found]

theorem stays_iff_keeps {connection : Connection} (sound : connection.base.Sound)
    (path : String) : connection.Stays path ↔ connection.base.Keeps path := by
  cases goesOn : connection.base.goesOn with
  | true =>
    refine iff_of_true ?_ (.inl goesOn)
    have leads := read_joined_goesOn sound goesOn path
    cases read : Url.read (withoutSlashes connection.base.text ++ path) with
    | error fault => exact stays_of_error read
    | ok url =>
      rw [read] at leads
      exact (stays_of_ok read).mpr (sound.readPlace_authority leads.symm)
  | false =>
    have leads := read_joined_extended sound goesOn path
    cases read : Url.read (withoutSlashes connection.base.text ++ path) with
    | error fault =>
      rw [read] at leads
      refine iff_of_true (stays_of_error read) (.inr (.inr fun found done => ?_))
      rw [← leads] at done
      cases done
    | ok url =>
      rw [read] at leads
      rw [stays_of_ok read]
      constructor
      · intro same
        refine .inr (.inr fun found done => ?_)
        rw [← leads] at done
        cases done
        exact same
      · rintro (going | none | again)
        · rw [goesOn] at going
          cases going
        · rw [none, List.append_nil] at leads
          exact sound.readPlace_authority leads.symm
        · exact again url.place leads.symm

/-- A path that begins with a slash adds nothing to the authority of a host. -/
theorem extension_of_slash {base : Url} (named : base.authority ≠ []) {path : String}
    (slash : path.toList.head? = some '/') : base.extension path = [] := by
  obtain ⟨rest, split⟩ := List.head?_eq_some_iff.mp slash
  simp [Url.extension, named, split, Url.visible_cons (c := '/') (by decide), Url.endsAuthority]

/-- A template that begins with a slash becomes a path that does. -/
theorem filled_of_slash {raw : String} {route : Route} (accepted : Route.read raw = .ok route)
    (slash : raw.toList.head? = some '/') (values : String → String) :
    (route.filled values).toList.head? = some '/' := by
  have written := Route.read_written accepted
  have valid := Route.read_valid accepted
  rw [← written, Route.writtenSegments, String.toList_ofList] at slash
  unfold Route.filled
  cases segments : route.segments with
  | nil =>
    rw [segments] at slash
    cases slash
  | cons first rest =>
    rw [segments, List.flatMap_cons] at slash
    cases first with
    | placeholder name =>
      rw [Route.Segment.written, List.cons_append] at slash
      exact absurd (Option.some.inj slash) (by decide)
    | literal text =>
      have some : text.toList ≠ [] := by
        have literal := valid (.literal text) (by simp [segments])
        intro none
        exact literal.1 (String.toList_eq_nil_iff.mp none)
      rw [Route.Segment.written, List.head?_append_of_ne_nil _ some] at slash
      rw [List.map_cons, String.join_cons, String.toList_append, Route.Segment.filled,
        List.head?_append_of_ne_nil _ some, slash]

/-- A request of a method stays at the place of its base exactly if the base keeps it there; on a
base that names a host, templates that begin with a slash make it do so. -/
theorem request_stays_iff {text raw : String} {route : Route} {connection : Connection}
    (parsed : Url.read text = .ok connection.base) (accepted : Route.read raw = .ok route)
    (values : String → String) (pairs : Query.Pairs) :
    (connection.Stays (route.filled values ++ pairs.finish) ↔
      connection.base.Keeps (route.filled values ++ pairs.finish)) ∧
    (connection.base.authority ≠ [] → raw.toList.head? = some '/' →
      connection.Stays (route.filled values ++ pairs.finish)) := by
  have sound := Url.read_sound parsed
  refine ⟨stays_iff_keeps sound _, fun named slash => ?_⟩
  have start : (route.filled values ++ pairs.finish).toList.head? = some '/' := by
    have filled := filled_of_slash accepted slash values
    rw [String.toList_append, List.head?_append, filled]
    rfl
  exact (stays_iff_keeps sound _).mpr (.inr (.inl (extension_of_slash named start)))

/-- A base that names a host and a port. -/
def loopback : Url :=
  ⟨"http", "", "", some (.four 2130706433), some 8080, .segments [""], none, none⟩

theorem loopback_read : Url.read "http://127.0.0.1:8080" = .ok (new loopback).base :=
  eq_ok_of_toOption (by decide +kernel)

theorem request_stays_slash :
    Url.read "http://127.0.0.1:8080" = .ok (new loopback).base ∧
      Route.read "/x/{id}" = .ok ⟨"/x/{id}", [.literal "/x/", .placeholder "id"]⟩ ∧
      (new loopback).Stays
        (Route.filled ⟨"/x/{id}", [.literal "/x/", .placeholder "id"]⟩ (fun _ => "a/b") ++
          Query.Pairs.finish [("k", "v")]) := by
  have accepted : Route.read "/x/{id}" =
      .ok ⟨"/x/{id}", [.literal "/x/", .placeholder "id"]⟩ :=
    eq_ok_of_toOption (by decide +kernel)
  have named : (new loopback).base.authority ≠ [] := by decide +kernel
  exact ⟨loopback_read, accepted,
    (request_stays_iff loopback_read accepted _ _).2 named (by decide +kernel)⟩

/-- A template that begins with an `@` makes a user of the base's host and sends requests to
another one. -/
theorem request_leaves :
    Url.read "http://127.0.0.1:8080" = .ok (new loopback).base ∧
      Route.read "@0.0.0.0:8080/a" = .ok ⟨"@0.0.0.0:8080/a", [.literal "@0.0.0.0:8080/a"]⟩ ∧
      ¬ (new loopback).Stays
        (Route.filled ⟨"@0.0.0.0:8080/a", [.literal "@0.0.0.0:8080/a"]⟩ id ++
          Query.Pairs.finish []) := by
  have accepted : Route.read "@0.0.0.0:8080/a" =
      .ok ⟨"@0.0.0.0:8080/a", [.literal "@0.0.0.0:8080/a"]⟩ :=
    eq_ok_of_toOption (by decide +kernel)
  have path : Route.filled ⟨"@0.0.0.0:8080/a", [.literal "@0.0.0.0:8080/a"]⟩ id ++
      Query.Pairs.finish [] = "@0.0.0.0:8080/a" := by
    decide +kernel
  have read : Url.read (withoutSlashes (new loopback).base.text ++ "@0.0.0.0:8080/a") =
      .ok ⟨"http", "127.0.0.1", "8080", some (.four 0), some 8080, .segments ["a"], none, none⟩ :=
    eq_ok_of_toOption (by decide +kernel)
  refine ⟨loopback_read, accepted, fun stays => ?_⟩
  rw [path, stays_of_ok read] at stays
  exact absurd stays (by decide +kernel)

end Client.Connection

end Endpoint
