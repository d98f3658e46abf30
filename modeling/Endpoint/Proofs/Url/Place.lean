import Endpoint.Proofs.Outcome
import Endpoint.Url
import Mathlib.Data.List.TakeWhile

/-!
Where a URL leads: its scheme, host and port, and the part of the text that they are read from.
Nothing behind that part keeps the text from being a URL.
-/

namespace Endpoint.Url

/-- A host that has text. -/
def named (host : Option Host) : Option Host := host.filter fun host => !host.text.isEmpty

/-- Scheme, host and port; a host without text counts as none. -/
def place (url : Url) : String × Option Host × Option Nat :=
  (url.scheme, named url.host, url.port)

/-- The text behind a scheme that user, host and port are read from. -/
def authorityIn (scheme : String) (cs : List Char) : List Char :=
  let isSlash := fun c => c == '/' || c == '\\'
  if scheme == "file" then
    if (cs.takeWhile isSlash).length < 2 then []
    else (cs.drop 2).takeWhile (!endsAuthority true ·)
  else if isSpecial scheme then (cs.dropWhile isSlash).takeWhile (!endsAuthority true ·)
  else
    match cs with
    | '/' :: '/' :: rest => rest.takeWhile (!endsAuthority false ·)
    | _ => []

/-- The host of a file; the machine itself is none. -/
def localHost : Host → Host
  | .domain name => .domain (if name == "localhost" then "" else name)
  | other => other

/-- The place that a scheme and the text of an authority name. -/
def readPlace (scheme : String) (authority : List Char) :
    Except Fault (String × Option Host × Option Nat) :=
  if scheme == "file" then
    if authority.isEmpty || isDrive authority then .ok (scheme, none, none)
    else (Host.read authority).map fun host => (scheme, named (some (localHost host)), none)
  else
    (readAuthority scheme authority).map fun (_, _, host, port) => (scheme, named host, port)

@[simp] theorem named_none : named none = none := rfl

@[simp] theorem named_empty : named (some (.domain "")) = none := rfl

@[simp] theorem named_blank : named (some (.plain "")) = none := rfl

/-! ### Behind the scheme -/

theorem readFile_place (cs : List Char) :
    (readFile cs).map place = readPlace "file" (authorityIn "file" cs) := by
  simp only [readFile, authorityIn, readPlace, cutAt, beq_self_eq_true, if_true]
  by_cases few : (cs.takeWhile fun c => c == '/' || c == '\\').length < 2
  · simp [few, bind, Except.bind, pure, Except.pure, Except.map, place]
  · simp only [few, decide_false, Bool.false_or, if_false]
    by_cases here : (((cs.drop 2).takeWhile (!endsAuthority true ·)).isEmpty ||
        isDrive ((cs.drop 2).takeWhile (!endsAuthority true ·))) = true
    · simp [here, bind, Except.bind, pure, Except.pure, Except.map, place]
    · simp only [here, Bool.false_eq_true, if_false]
      cases Host.read ((cs.drop 2).takeWhile (!endsAuthority true ·)) with
      | error fault => rfl
      | ok host => cases host <;> rfl

theorem readHierarchy_place (scheme : String) (cs : List Char) :
    (readHierarchy scheme cs).map place =
      (readAuthority scheme (cs.takeWhile (!endsAuthority (isSpecial scheme) ·))).map
        fun (_, _, host, port) => (scheme, named host, port) := by
  simp only [readHierarchy, cutAt]
  cases readAuthority scheme (cs.takeWhile (!endsAuthority (isSpecial scheme) ·)) <;> rfl

/-- Without text, an authority names no host, unless the scheme needs one. -/
theorem readPlace_nil {scheme : String} (free : scheme = "file" ∨ isSpecial scheme = false) :
    readPlace scheme [] = .ok (scheme, none, none) := by
  rcases free with rfl | common
  · rfl
  · have noFile : (scheme == "file") = false := by
      simp only [isSpecial, Bool.or_eq_false_iff] at common
      exact common.2
    simp only [readPlace, noFile, Bool.false_eq_true, if_false, readAuthority, common]
    rfl

theorem readRest_place (scheme : String) (cs : List Char) :
    (readRest scheme cs).map place = readPlace scheme (authorityIn scheme cs) := by
  by_cases file : (scheme == "file") = true
  · obtain rfl := eq_of_beq file
    exact readFile_place cs
  · by_cases special : isSpecial scheme = true
    · simp only [readRest, file, special, readHierarchy_place, readPlace, authorityIn, if_true,
        Bool.false_eq_true, if_false]
    · have common : isSpecial scheme = false := by simpa using special
      simp only [readRest, file, common, authorityIn, Bool.false_eq_true, if_false]
      split
      · simp only [readHierarchy_place, common, readPlace, file, Bool.false_eq_true, if_false]
      · rename_i noAuthority
        split
        · rename_i same
          exact absurd (List.cons.inj same).2 (noAuthority _)
        · rw [readPlace_nil (.inr common)]
          rfl
      · rename_i noAuthority _
        split
        · exact absurd rfl (noAuthority _)
        · rw [readPlace_nil (.inr common)]
          rfl

/-! ### The whole text -/

/-- The end of text as it is read: without blanks behind it, line breaks and tabs. -/
def visible (cs : List Char) : List Char :=
  (cs.reverse.dropWhile fun c => c.toNat ≤ 32).reverse.filter
    fun c => c != '\t' && c != '\n' && c != '\r'

theorem visible_cons {c : Char} (seen : 32 < c.toNat) (cs : List Char) :
    visible (c :: cs) = c :: visible cs := by
  have dropped : (c :: cs).reverse.dropWhile (fun c => decide (c.toNat ≤ 32)) =
      cs.reverse.dropWhile (fun c => decide (c.toNat ≤ 32)) ++ [c] := by
    rw [List.reverse_cons, List.dropWhile_append]
    split
    · rename_i none
      simp only [List.isEmpty_iff] at none
      have kept : ¬ c.toNat ≤ 32 := Nat.not_le_of_lt seen
      simp [none, kept]
    · rfl
  have kept : (c != '\t' && c != '\n' && c != '\r') = true := by
    simp only [Bool.and_eq_true, bne_iff_ne]
    refine ⟨⟨?_, ?_⟩, ?_⟩ <;> rintro rfl <;> exact absurd seen (by decide)
  rw [visible, dropped, List.reverse_append, List.reverse_singleton, List.singleton_append,
    List.filter_cons, if_pos kept]
  rfl

/-- A printable character stays in front of what stays, or nothing stays. -/
theorem visible_cons_cases {c : Char} (printable : 32 ≤ c.toNat) (cs : List Char) :
    visible (c :: cs) = [] ∨ visible (c :: cs) = c :: visible cs := by
  by_cases seen : 32 < c.toNat
  · exact .inr (visible_cons seen cs)
  · have blank : c.toNat ≤ 32 := Nat.le_of_not_lt seen
    have kept : (c != '\t' && c != '\n' && c != '\r') = true := by
      simp only [Bool.and_eq_true, bne_iff_ne]
      refine ⟨⟨?_, ?_⟩, ?_⟩ <;> rintro rfl <;> exact absurd printable (by decide)
    by_cases none : cs.reverse.dropWhile (fun c => decide (c.toNat ≤ 32)) = []
    · refine .inl ?_
      simp [visible, List.dropWhile_append, none, blank]
    · refine .inr ?_
      simp only [visible, List.reverse_cons, List.dropWhile_append, List.isEmpty_iff, none,
        if_false, List.reverse_append, List.reverse_nil, List.nil_append, List.singleton_append]
      rw [List.filter_cons, if_pos kept]

theorem visible_append {front : List Char} (seen : ∀ c ∈ front, 32 < c.toNat) (cs : List Char) :
    visible (front ++ cs) = front ++ visible cs := by
  induction front with
  | nil => rfl
  | cons c front ih =>
    rw [List.cons_append, visible_cons (seen c (by simp)), ih fun c member =>
      seen c (List.mem_cons_of_mem _ member), List.cons_append]

/-- In front of a visible character, only line breaks and tabs are lost. -/
theorem visible_append_cons {c : Char} (seen : 32 < c.toNat) (front cs : List Char) :
    visible (front ++ c :: cs) =
      front.filter (fun c => c != '\t' && c != '\n' && c != '\r') ++ c :: visible cs := by
  have some : (c :: cs).reverse.dropWhile (fun c => decide (c.toNat ≤ 32)) ≠ [] := by
    intro none
    have blank := List.dropWhile_eq_nil_iff.mp none c (by simp)
    exact Nat.not_le_of_lt seen (by simpa using blank)
  rw [← visible_cons seen]
  simp only [visible, List.reverse_append, List.dropWhile_append, List.isEmpty_iff, some, if_false,
    List.reverse_reverse, List.filter_append]

theorem visible_subset (cs : List Char) : visible cs ⊆ cs := by
  intro c member
  have kept := (List.dropWhile_sublist _).subset
    (List.mem_reverse.mp (List.mem_filter.mp member).1)
  exact List.mem_reverse.mp kept

/-- Text that begins with visible characters keeps them. -/
theorem trimmed_append {front : List Char} (seen : ∀ c ∈ front, 32 < c.toNat) (some : front ≠ [])
    (cs : List Char) : trimmed (String.ofList (front ++ cs)) = front ++ visible cs := by
  obtain ⟨c, front, rfl⟩ := List.exists_cons_of_ne_nil some
  have kept : ¬ c.toNat ≤ 32 := Nat.not_le_of_lt (seen c (by simp))
  rw [← visible_append seen]
  simp only [trimmed, visible, String.toList_ofList, List.cons_append]
  rw [List.dropWhile_cons_of_neg (by simpa using kept)]

/-- Text that begins with a scheme is read behind it. -/
theorem read_eq {text : String} {scheme rest : List Char}
    (seen : trimmed text = scheme ++ ':' :: rest) (chars : ∀ c ∈ scheme, isSchemeChar c = true)
    (letter : scheme.head?.any Char.isAlpha = true) (small : scheme.map Char.toLower = scheme) :
    read text = readRest (String.ofList scheme) rest := by
  have taken : (scheme ++ ':' :: rest).takeWhile isSchemeChar = scheme := by
    rw [List.takeWhile_append_of_pos chars, List.takeWhile_cons_of_neg (by decide)]
    simp
  obtain ⟨first, more, rfl⟩ : ∃ first more, scheme = first :: more := by
    cases scheme with
    | nil => cases letter
    | cons first more => exact ⟨first, more, rfl⟩
  have alpha : first.isAlpha = true := by simpa using letter
  have behind : List.drop (first :: more).length (first :: more ++ ':' :: rest) = ':' :: rest :=
    List.drop_left
  simp only [read, seen, taken, behind, alpha, if_true, small]

end Endpoint.Url
