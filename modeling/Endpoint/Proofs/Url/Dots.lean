import Endpoint.Proofs.Text.Ascii
import Endpoint.Proofs.Text.Percent
import Endpoint.Url

/-!
Segments that name no place of their own: those that one or two points are written as, escaped or
not. They are told by the bytes that they stand for.
-/

namespace Endpoint.Url

/-- The ways of writing a point, in small letters. -/
def pointForms : List (List Char) := [['.'], ['%', '2', 'e']]

theorem isSingleDot_iff (segment : List Char) :
    isSingleDot segment = true ↔ segment.map Char.toLower ∈ pointForms := by
  simp [isSingleDot, pointForms, String.ext_iff]

theorem isDoubleDot_iff (segment : List Char) :
    isDoubleDot segment = true ↔
      ∃ first ∈ pointForms, ∃ second ∈ pointForms, segment.map Char.toLower = first ++ second := by
  simp [isDoubleDot, pointForms, String.ext_iff, or_assoc]

/-! ### Points by their bytes -/

theorem toLower_point (c : Char) : c.toLower = '.' ↔ c = '.' :=
  Text.toLower_eq_iff '.' (· = '.') (by decide) (by rintro _ rfl; decide) (by decide) c

theorem toLower_percent (c : Char) : c.toLower = '%' ↔ c = '%' :=
  Text.toLower_eq_iff '%' (· = '%') (by decide) (by rintro _ rfl; decide) (by decide) c

theorem toLower_two (c : Char) : c.toLower = '2' ↔ Text.hexValue? c = some 2 :=
  Text.toLower_eq_iff '2' (Text.hexValue? · = some 2) (by decide)
    (fun _ known => Text.hexValue?_ascii (by rw [known]; rfl)) (by decide) c

theorem toLower_fourteen (c : Char) : c.toLower = 'e' ↔ Text.hexValue? c = some 14 :=
  Text.toLower_eq_iff 'e' (Text.hexValue? · = some 14) (by decide)
    (fun _ known => Text.hexValue?_ascii (by rw [known]; rfl)) (by decide) c

/-- The first character of bytes that begin with a point is one. -/
theorem eq_point_of_utf8EncodeChar {c : Char} {more bytes : List UInt8}
    (same : String.utf8EncodeChar c ++ more = 46 :: bytes) : c = '.' ∧ more = bytes := by
  have point : (46 :: bytes : List UInt8) = String.utf8EncodeChar '.' ++ bytes := rfl
  have decoded := congrArg Text.decodeChars (same.trans point)
  rw [Text.decodeChars_utf8EncodeChar, Text.decodeChars_utf8EncodeChar] at decoded
  obtain rfl := Option.some.inj (List.cons.inj decoded).1
  exact ⟨rfl, (List.cons.inj same).2⟩

/-- Text stands for a point and more exactly if a way of writing a point stands in front. -/
theorem percentBytes_point_iff {cs : List Char} {bytes : List UInt8} :
    Text.percentBytes cs = 46 :: bytes ↔
      ∃ front behind, cs = front ++ behind ∧ front.map Char.toLower ∈ pointForms ∧
        Text.percentBytes behind = bytes := by
  constructor
  · intro same
    induction cs using Text.percentBytes.induct with
    | case1 a b rest high low second first =>
      simp only [Text.percentBytes, first, second] at same
      obtain ⟨point, behind⟩ := List.cons.inj same
      have value := congrArg UInt8.toNat point
      have bounds := Text.hexValue?_lt first
      have bounds' := Text.hexValue?_lt second
      rw [Text.byteOf_toNat (by omega)] at value
      change 16 * high + low = 46 at value
      obtain ⟨rfl, rfl⟩ : high = 2 ∧ low = 14 := by omega
      refine ⟨['%', a, b], rest, rfl, ?_, behind⟩
      simp [pointForms, (toLower_two a).mpr first, (toLower_fourteen b).mpr second]
    | case2 a b rest plain =>
      rw [Text.percentBytes_percent (Text.startsHex_eq_false plain)] at same
      exact absurd (eq_point_of_utf8EncodeChar same).1 (by decide)
    | case3 c rest plain =>
      rw [Text.percentBytes] at same
      · obtain ⟨rfl, behind⟩ := eq_point_of_utf8EncodeChar same
        exact ⟨['.'], rest, rfl, by simp [pointForms], behind⟩
      · exact plain
    | case4 => cases same
  · rintro ⟨front, behind, rfl, form, rfl⟩
    simp only [pointForms, List.mem_cons, List.not_mem_nil, or_false] at form
    rcases form with point | escape
    · obtain ⟨c, rfl, small⟩ := List.map_eq_singleton_iff.mp point
      obtain rfl := (toLower_point c).mp small
      exact Text.percentBytes_cons (by decide) behind
    · obtain ⟨sign, digits, rfl, percent, more⟩ := List.map_eq_cons_iff.mp escape
      obtain ⟨two, last, rfl, second, more⟩ := List.map_eq_cons_iff.mp more
      obtain ⟨small, rfl, third⟩ := List.map_eq_singleton_iff.mp more
      obtain rfl := (toLower_percent sign).mp percent
      simp only [List.cons_append, List.nil_append, Text.percentBytes, (toLower_two two).mp second,
        (toLower_fourteen small).mp third]
      rfl

theorem percentBytes_eq_nil_iff {cs : List Char} : Text.percentBytes cs = [] ↔ cs = [] := by
  refine ⟨fun none => ?_, fun none => none ▸ rfl⟩
  induction cs using Text.percentBytes.induct with
  | case1 a b rest high low second first =>
    simp [Text.percentBytes, first, second] at none
  | case2 a b rest plain =>
    rw [Text.percentBytes_percent (Text.startsHex_eq_false plain)] at none
    cases none
  | case3 c rest plain =>
    rw [Text.percentBytes] at none
    · exact absurd (List.append_eq_nil_iff.mp none).1 String.utf8EncodeChar_ne_nil
    · exact plain
  | case4 => rfl

/-- A segment stays in its place exactly if it stands for one point. -/
theorem isSingleDot_iff_bytes {segment : List Char} :
    isSingleDot segment = true ↔ Text.percentBytes segment = [46] := by
  rw [isSingleDot_iff, percentBytes_point_iff]
  constructor
  · exact fun form => ⟨segment, [], (List.append_nil _).symm, form, rfl⟩
  · rintro ⟨front, behind, rfl, form, none⟩
    rwa [percentBytes_eq_nil_iff.mp none, List.append_nil]

/-- It goes up exactly if it stands for two. -/
theorem isDoubleDot_iff_bytes {segment : List Char} :
    isDoubleDot segment = true ↔ Text.percentBytes segment = [46, 46] := by
  rw [isDoubleDot_iff, percentBytes_point_iff]
  simp only [← isSingleDot_iff_bytes, isSingleDot_iff]
  constructor
  · rintro ⟨first, inForms, second, inForms', same⟩
    obtain ⟨front, behind, rfl, rfl, rfl⟩ := List.map_eq_append_iff.mp same
    exact ⟨front, behind, rfl, inForms, inForms'⟩
  · rintro ⟨front, behind, rfl, form, form'⟩
    exact ⟨_, form, _, form', List.map_append⟩

end Endpoint.Url
