import Endpoint.Proofs.Url.Authority

/-!
Authorities that are read again: those of addresses, and of domain names none of whose labels has the
mark of a label in digits.
-/

namespace Endpoint.Url

namespace Domain

/-- Whether no label of a name has the mark of labels in digits. -/
def IsUnmarked (name : List Char) : Prop :=
  ∀ label ∈ Text.splitAt (· == '.') name, ¬ "xn--".toList <+: label

private theorem nonspacing_beyond : ∀ range ∈ nonspacingPoints, 128 ≤ range.1 := by
  have all : (nonspacingPoints.all fun range => 128 ≤ range.1) = true := by decide +kernel
  intro range member
  simpa using List.all_eq_true.mp all range member

private theorem spacing_beyond : ∀ range ∈ spacingPoints, 128 ≤ range.1 := by
  have all : (spacingPoints.all fun range => 128 ≤ range.1) = true := by decide +kernel
  intro range member
  simpa using List.all_eq_true.mp all range member

theorem isMark_ascii {c : Char} (ascii : c.toNat < 128) : isMark c = false := by
  have none {points : Text.CodePoints} (beyond : ∀ range ∈ points, 128 ≤ range.1) :
      points.holds c.toNat = false := by
    refine List.any_eq_false.mpr fun range member => ?_
    have first := beyond range member
    simp only [Bool.and_eq_true, decide_eq_true_eq, not_and]
    omega
  rw [isMark, isNonspacing, none nonspacing_beyond, none spacing_beyond]
  rfl

theorem joinsBehind_ascii {label : List Char} (ascii : ∀ c ∈ label, c.toNat < 128)
    (before : List Char) : joinsBehind before label = true := by
  induction label generalizing before with
  | nil => rfl
  | cons c rest ih =>
    simp only [List.mem_cons, forall_eq_or_imp] at ascii
    have noJoiner : (c == joiner) = false := by
      refine beq_false_of_ne ?_
      rintro rfl
      exact absurd ascii.1 (by decide)
    have noNonJoiner : (c == nonJoiner) = false := by
      refine beq_false_of_ne ?_
      rintro rfl
      exact absurd ascii.1 (by decide)
    rw [joinsBehind, ih ascii.2]
    simp [mayStand, noJoiner, noNonJoiner]

theorem isBackward_ascii {c : Char} (ascii : c.toNat < 128) :
    (Direction.ofChar c).isBackward = false :=
  Text.ascii_induction (P := fun c => (Direction.ofChar c).isBackward = false) (by decide) ascii

/-- Labels in ASCII keep the rules of names. -/
theorem isValid_ascii {labels : List (List Char)}
    (ascii : ∀ label ∈ labels, ∀ c ∈ label, c.toNat < 128) : isValid labels = true := by
  have placed : labels.all isPlaced = true := by
    refine List.all_eq_true.mpr fun label member => ?_
    rw [isPlaced, joinsBehind_ascii (ascii label member), Bool.and_true, Bool.not_eq_true']
    cases label with
    | nil => rfl
    | cons c rest => exact isMark_ascii (ascii _ member c (by simp))
  have forward : isBackward labels = false := by
    refine List.any_eq_false.mpr fun label member => Bool.not_eq_true _ ▸ ?_
    exact List.any_eq_false.mpr fun c inside =>
      Bool.not_eq_true _ ▸ isBackward_ascii (ascii label member c inside)
  rw [isValid, placed, forward]
  rfl

theorem meaning?_unmarked {label : List Char} (unmarked : ¬ "xn--".toList <+: label) :
    meaning? label = some label := by
  unfold meaning?
  split
  · exact absurd ⟨_, rfl⟩ unmarked
  · rfl

/-- A small plain name without marks is read as it is. -/
theorem ascii?_unmarked {cs : List Char} (plain : ∀ c ∈ cs, IsPlain c ∧ c.toLower = c)
    (unmarked : IsUnmarked cs) : ascii? (String.ofList cs) = some cs := by
  have labels : ∀ label ∈ Text.splitAt (· == '.') cs, ∀ c ∈ label, IsPlain c :=
    fun label member c inside => (plain c (Text.mem_splitAt member c inside).1).1
  have meanings : (Text.splitAt (· == '.') cs).mapM meaning? = some (Text.splitAt (· == '.') cs) :=
    mapM_eq_some_self fun label member => meaning?_unmarked (unmarked label member)
  have allowed : (Text.splitAt (· == '.') cs).any (·.any isForbidden) = false := by
    simpa using fun label member c inside => (labels label member c inside).2
  have valid := isValid_ascii fun label member c inside => (labels label member c inside).1
  rw [ascii?_eq (fun c member => (plain c member).1.1) fun c member => (plain c member).2, meanings,
    Option.bind_some, allowed, valid]
  rfl

end Domain

namespace Host

/-- A host whose text has no marked label. -/
def IsUnmarked : Host → Prop
  | .domain name => Domain.IsUnmarked name.toList
  | _ => True

/-- Small plain text without marks is read as an address or as the name that it is. -/
theorem read_unmarked {cs : List Char} (some : cs ≠ [])
    (plain : ∀ c ∈ cs, Domain.IsPlain c ∧ c.toLower = c) (unmarked : Domain.IsUnmarked cs) :
    Host.read cs = if endsInNumber cs then (addressFour cs).map .four
      else .ok (.domain (String.ofList cs)) := by
  obtain ⟨c, more, rfl⟩ := List.exists_cons_of_ne_nil some
  rw [read_small plain, Domain.ascii?_unmarked plain unmarked]

theorem addressFourText_unmarked (address : Nat) :
    Domain.IsUnmarked (addressFourText address).toList := by
  rintro label member ⟨more, rfl⟩
  have inside := (Text.mem_splitAt member 'x' (by simp)).1
  rcases addressFourText_chars address 'x' inside with digit | point
  · exact absurd digit (by decide)
  · cases point

/-- The text of a host without marks is read as that host. -/
theorem Sound.read_text {host : Host} (sound : host.Sound true) (unmarked : host.IsUnmarked)
    (some : host.text ≠ "") : Host.read host.text.toList = .ok host := by
  cases sound with
  | @domain name plain noNumber =>
    rw [text] at some ⊢
    rw [read_unmarked (by simpa using some) plain unmarked, noNumber, String.ofList_toList]
    rfl
  | @four address fits =>
    rw [text, read_unmarked (by simpa [text] using some)
      (fun c member => decimal_plain (addressFourText_chars address c member))
      (addressFourText_unmarked address), endsInNumber_text, if_pos rfl, addressFour_text fits]
    rfl
  | six eight small => exact readHost_six eight small true

end Host

/-- The authority of a URL of the web is read again, if no label of its host is marked. -/
theorem Sound.readAuthority_unmarked {url : Url} (sound : url.Sound)
    (special : isSpecial url.scheme = true) (noFile : url.scheme ≠ "file")
    (unmarked : ∀ host, url.host = some host → host.IsUnmarked) :
    ∃ found, readAuthority url.scheme url.authority = .ok found := by
  obtain ⟨host, hosted⟩ : ∃ host, url.host = some host := by
    cases held : url.host with
    | none => exact absurd (sound.hostless held).1 (by simp [special])
    | some host => exact ⟨host, rfl⟩
  have hostSound := sound.host host hosted
  rw [special] at hostSound
  have some : host.text ≠ "" := by
    intro empty
    rcases (sound.nameless (by simp [hosted, named, Option.filter, empty])).2.2 with file | common
    · exact noFile file
    · rw [special] at common
      cases common
  obtain ⟨user, place, cut⟩ : ∃ user place, cutUser url.authority = (user, place) := ⟨_, _, rfl⟩
  have own : place = host.text.toList ++ url.portText := by
    rw [← sound.cutUser_authority hosted, cut]
  have text : host.text.toList.isEmpty = false := by simpa using some
  have whole : place.isEmpty = false := by
    rw [own, List.isEmpty_eq_false_iff]
    simp [some]
  have split := cutPort_text hostSound (portText_start url)
  rw [← own] at split
  have hostRead := hostSound.read_text (unmarked host hosted) some
  simp only [readAuthority, cut, whole, split, text, special, hostRead, readPort_portText sound,
    Bool.and_false, Bool.false_and, Bool.false_eq_true, if_false, if_true]
  exact ⟨_, rfl⟩

end Endpoint.Url
