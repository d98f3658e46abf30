import Endpoint.Proofs.Outcome
import Endpoint.Proofs.Text.Percent
import Endpoint.Proofs.Text.Split
import Endpoint.Query

/-!
Query strings are read back as the pairs that they were made of.
-/

namespace Endpoint.Query

/-! ### Reading -/

/-- A key and a value with an equals sign between them, decoded. -/
def readPair? (cs : List Char) : Option (String × String) :=
  match Text.splitAt (· == '=') cs with
  | [key, value] => do return (← Text.percentDecode? key, ← Text.percentDecode? value)
  | _ => none

/-- The pairs of a query string, which is given without its question mark. -/
def read? (cs : List Char) : Option (List (String × String)) :=
  (Text.splitAt (· == '&') cs).mapM readPair?

/-! ### Reading what was written -/

/-- A key and a value as they are kept. -/
def escapedPair (pair : String × String) : String × String :=
  (Text.percentEncode pair.1, Text.percentEncode pair.2)

/-- The characters of a pair, as it is written. -/
def pairText (pair : String × String) : List Char :=
  (Text.percentEncode pair.1).toList ++ '=' :: (Text.percentEncode pair.2).toList

theorem not_mem_pairText {c : Char} (reserved : Text.isUnreserved c = false)
    (other : Text.isEscape c = false) (mark : c ≠ '=') (pair : String × String) :
    c ∉ pairText pair := by
  simp [pairText, Text.not_mem_percentEncode reserved other, mark]

theorem readPair?_pairText (pair : String × String) : readPair? (pairText pair) = some pair := by
  have pieces : Text.splitAt (· == '=') (pairText pair) =
      [(Text.percentEncode pair.1).toList, (Text.percentEncode pair.2).toList] :=
    Text.splitAt_pair (Text.not_mem_percentEncode (by decide) (by decide) pair.1)
      (Text.not_mem_percentEncode (by decide) (by decide) pair.2)
  rw [readPair?, pieces]
  simp only [Text.percentDecode?_percentEncode]
  rfl

/-- The characters of the pairs, as they are written behind the question mark. -/
def pairsText (pairs : List (String × String)) : List Char :=
  ['&'].intercalate (pairs.map pairText)

theorem finish_toList {pairs : List (String × String)} (some : pairs ≠ []) :
    (Pairs.finish (pairs.map escapedPair)).toList = '?' :: pairsText pairs := by
  have several : (pairs.map escapedPair).isEmpty = false := by simpa using some
  have same : String.toList ∘ (fun pair : String × String => pair.1 ++ "=" ++ pair.2) ∘
      escapedPair = pairText := by
    funext pair
    simp [escapedPair, pairText]
  rw [Pairs.finish, several]
  simp only [Bool.false_eq_true, if_false, String.toList_append, String.toList_intercalate,
    List.map_map, same]
  rfl

theorem question_not_mem_pairsText (pairs : List (String × String)) : '?' ∉ pairsText pairs := by
  intro inside
  rcases Text.mem_intercalate inside with joint | ⟨piece, member, here⟩
  · simp at joint
  · obtain ⟨pair, -, rfl⟩ := List.mem_map.mp member
    exact not_mem_pairText (by decide) (by decide) (by decide) pair here

/-- Where each pair is read back, so are the pairs between ampersands. -/
theorem mapM_splitAt_pairsText {read : List Char → Option (String × String)}
    (back : ∀ pair, read (pairText pair) = some pair) {pairs : List (String × String)}
    (some : pairs ≠ []) :
    (Text.splitAt (· == '&') (pairsText pairs)).mapM read = Option.some pairs := by
  rw [pairsText, Text.splitAt_intercalate '&' (by simpa using some)]
  · exact mapM_map_eq_some_self back pairs
  · intro piece member
    obtain ⟨pair, -, rfl⟩ := List.mem_map.mp member
    exact not_mem_pairText (by decide) (by decide) (by decide) pair

/-- The query string of some pairs is a question mark and what is read as the pairs. -/
theorem finish_read {pairs : List (String × String)} (some : pairs ≠ []) :
    ∃ query, (Pairs.finish (pairs.map escapedPair)).toList = '?' :: query ∧ '?' ∉ query ∧
      read? query = Option.some pairs :=
  ⟨pairsText pairs, finish_toList some, question_not_mem_pairsText pairs,
    mapM_splitAt_pairsText readPair?_pairText some⟩

end Endpoint.Query
