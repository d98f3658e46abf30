import Endpoint.Proofs.Url.Reading

/-!
The authority of a sound URL: its text names the place of the URL, if it is read at all.
-/

namespace Endpoint.Url

/-! ### Users -/

private theorem takeWhile_place {place : List Char} (noUser : '@' ∉ place) (rest : List Char) :
    (place.reverse ++ rest).takeWhile (· != '@') = place.reverse ++ rest.takeWhile (· != '@') := by
  apply List.takeWhile_append_of_pos
  intro c member
  refine bne_iff_ne.mpr ?_
  rintro rfl
  exact noUser (by simpa using member)

theorem cutUser_place {place : List Char} (noUser : '@' ∉ place) :
    cutUser place = (none, place) := by
  have all := takeWhile_place noUser []
  rw [List.append_nil, List.takeWhile_nil, List.append_nil] at all
  simp [cutUser, all]

theorem cutUser_append (user : List Char) {place : List Char} (noUser : '@' ∉ place) :
    cutUser (user ++ '@' :: place) = (some user, place) := by
  have last : ((user ++ '@' :: place).reverse.takeWhile (· != '@')).reverse = place := by
    rw [List.reverse_append, List.reverse_cons, List.append_assoc, takeWhile_place noUser]
    simp
  have longer : (place.length == (user ++ '@' :: place).length) = false := by
    simp only [List.length_append, List.length_cons, beq_eq_false_iff_ne]
    omega
  have count : (user ++ '@' :: place).length - place.length - 1 = user.length := by
    simp only [List.length_append, List.length_cons]
    omega
  simp only [cutUser, last, longer, count, List.take_left, Bool.false_eq_true, if_false]

/-- The user part ends with its mark. -/
theorem userText_cases (url : Url) :
    url.userText = [] ∨ ∃ user, url.userText = user ++ ['@'] := by
  unfold userText
  split
  · exact .inl rfl
  · exact .inr ⟨_, (List.append_assoc _ _ _).symm⟩

/-! ### Ports -/

theorem cutPort_bare {cs : List Char} (bare : ∀ c ∈ cs, Host.isBareChar c = true)
    (rest : List Char) :
    cutPort false (cs ++ rest) = (cs ++ (cutPort false rest).1, (cutPort false rest).2) := by
  induction cs with
  | nil => rfl
  | cons c cs ih =>
    simp only [List.mem_cons, forall_eq_or_imp, Host.isBareChar, Bool.and_eq_true,
      bne_iff_ne] at bare ih
    obtain ⟨⟨⟨⟨⟨_, noColon⟩, noOpening⟩, noClosing⟩, _⟩, more⟩ := bare
    simp [cutPort, noColon, noOpening, noClosing, ih more]

theorem cutPort_inside {cs : List Char}
    (inside : ∀ c ∈ cs, Host.isBareChar c = true ∨ c = ':') (rest : List Char) :
    cutPort true (cs ++ rest) = (cs ++ (cutPort true rest).1, (cutPort true rest).2) := by
  induction cs with
  | nil => rfl
  | cons c cs ih =>
    simp only [List.mem_cons, forall_eq_or_imp] at inside ih
    have behind := ih inside.2
    have plain : c ≠ '[' ∧ c ≠ ']' := by
      rcases inside.1 with bare | rfl
      · simp only [Host.isBareChar, Bool.and_eq_true, bne_iff_ne] at bare
        exact ⟨bare.1.1.2, bare.1.2⟩
      · decide
    simp [cutPort, plain.1, plain.2, behind]

/-- The text of a host is cut from a port behind it. -/
theorem cutPort_text {special : Bool} {host : Host} (sound : host.Sound special)
    {port : List Char} (start : port = [] ∨ ∃ digits, port = ':' :: digits) :
    cutPort false (host.text.toList ++ port) = (host.text.toList, port) := by
  have stop : cutPort false port = ([], port) := by
    rcases start with rfl | ⟨digits, rfl⟩
    · rfl
    · simp [cutPort]
  rcases sound.text_cases with bare | ⟨inside, same, chars⟩
  · simp [cutPort_bare bare, stop]
  · rw [same]
    simp [cutPort, cutPort_inside chars, stop]

theorem digitsValue_toDigits (number : Nat) :
    Number.digitsValue (Nat.toDigits 10 number) = number :=
  Nat.ofDigitChars_ten_toDigits

theorem readPort_portText {url : Url} (sound : url.Sound) :
    readPort url.scheme url.portText = .ok url.port := by
  unfold portText
  cases port : url.port with
  | none => rfl
  | some number =>
    obtain ⟨small, other⟩ := sound.port number port
    have digits : (Nat.toDigits 10 number).all Char.isDigit = true :=
      List.all_eq_true.mpr (digits_isDigit number)
    have fits : ¬ number > 65535 := Nat.not_lt.mpr small
    have foreign : (defaultPort? url.scheme == some number) = false := beq_false_of_ne other
    have value := digitsValue_toDigits number
    obtain ⟨digit, more, split⟩ :=
      List.exists_cons_of_ne_nil (Nat.toDigits_ne_nil (n := number) (b := 10))
    show readPort url.scheme (':' :: Nat.toDigits 10 number) = .ok (some number)
    rw [split] at digits value ⊢
    simp [readPort, digits, value, fits, foreign]

/-! ### The whole authority -/

theorem portText_start (url : Url) :
    url.portText = [] ∨ ∃ digits, url.portText = ':' :: digits := by
  unfold portText
  cases url.port with
  | none => exact .inl rfl
  | some port => exact .inr ⟨_, rfl⟩

theorem portText_chars (url : Url) : ∀ c ∈ url.portText, Host.isTextChar c = true := by
  intro c member
  unfold portText at member
  split at member
  · rename_i port _
    rcases List.mem_cons.mp member with rfl | inside
    · decide
    · exact Host.decimal_isTextChar (digits_isDigit port c inside)
  · cases member

/-- The text of an authority holds no mark that ends one. -/
theorem Sound.authority_chars {url : Url} (sound : url.Sound) :
    ∀ c ∈ url.authority, c = '@' ∨ Host.isTextChar c = true := by
  intro c member
  unfold authority at member
  split at member
  · cases member
  · rename_i host found
    simp only [List.mem_append] at member
    rcases member with inUser | inHost | inPort
    · exact sound.user c inUser
    · exact .inr ((sound.host host found).text_chars c inHost)
    · exact .inr (portText_chars url c inPort)

/-- Behind its user, an authority is its host and port. -/
theorem Sound.cutUser_authority {url : Url} (sound : url.Sound) {host : Host}
    (hosted : url.host = some host) :
    (cutUser url.authority).2 = host.text.toList ++ url.portText := by
  have noUser : '@' ∉ host.text.toList ++ url.portText := by
    intro mark
    rcases List.mem_append.mp mark with inHost | inPort
    · exact absurd ((sound.host host hosted).text_chars '@' inHost) (by decide)
    · exact absurd (portText_chars url '@' inPort) (by decide)
  simp only [authority, hosted]
  rcases userText_cases url with none | ⟨user, some⟩
  · simp [none, cutUser_place noUser]
  · simp [some, cutUser_append user noUser]

/-- An authority that is read again names the host and port that it was written for. -/
theorem Sound.readAuthority_authority {url : Url} (sound : url.Sound) {host : Host}
    (hosted : url.host = some host) {found : String × String × Option Host × Option Nat}
    (done : readAuthority url.scheme url.authority = .ok found) :
    found.2.2 = (some host, url.port) := by
  have hostSound := sound.host host hosted
  have place := sound.cutUser_authority hosted
  obtain ⟨parts, rfl⟩ := readAuthority_parts done
  have own : parts.place = host.text.toList ++ url.portText := by
    rw [← place, parts.cut]
  have hostRead := parts.hostRead
  have portRead := parts.portRead
  rw [own, cutPort_text hostSound (portText_start url)] at hostRead portRead
  have sameHost : parts.host = host := hostSound.readHost_text hostRead
  have samePort : parts.port = url.port := by
    rw [readPort_portText sound] at portRead
    exact (Except.ok.inj portRead).symm
  rw [sameHost, samePort]

/-- No host is written as the letter of a drive. -/
theorem isDrive_text {special : Bool} {host : Host} (sound : host.Sound special) :
    isDrive host.text.toList = false := by
  rcases sound.text_cases with bare | ⟨inside, same, _⟩
  · unfold isDrive
    split
    · rename_i letter mark same
      have plain := bare mark (by simp [same])
      simp only [Host.isBareChar, Bool.and_eq_true, bne_iff_ne] at plain
      have noMark : (mark == ':' || mark == '|') = false := by
        simp [plain.1.1.1.2, plain.2]
      rw [noMark, Bool.and_false]
    · rfl
  · rw [same]
    unfold isDrive
    split
    · rename_i letter mark first
      obtain rfl := (List.cons.inj first).1
      rfl
    · rfl

/-- The authority of a URL names its place, if it is read. -/
theorem Sound.readPlace_authority {url : Url} (sound : url.Sound)
    {found : String × Option Host × Option Nat}
    (done : readPlace url.scheme url.authority = .ok found) : found = url.place := by
  by_cases nameless : named url.host = none
  · obtain ⟨noText, noPort, free⟩ := sound.nameless nameless
    rw [noText, readPlace_nil free] at done
    simp only [Except.ok.injEq] at done
    rw [← done, place, nameless, noPort]
  · obtain ⟨host, hosted⟩ : ∃ host, url.host = some host := by
      cases held : url.host with
      | none => exact absurd (by rw [held]; rfl) nameless
      | some host => exact ⟨host, rfl⟩
    have hostSound := sound.host host hosted
    by_cases file : url.scheme = "file"
    · obtain ⟨noUser, noPort, other, same, foreign⟩ := sound.file file
      rw [hosted] at same
      obtain rfl := Option.some.inj same
      have text : url.authority = host.text.toList := by
        simp [authority, hosted, noUser, portText, noPort]
      have some : host.text.toList.isEmpty = false := by
        rw [List.isEmpty_eq_false_iff]
        intro none
        have empty := String.toList_eq_nil_iff.mp none
        exact nameless (by simp [hosted, named, Option.filter, empty])
      have fileHost : (url.scheme == "file") = true := by simp [file]
      simp only [readPlace, fileHost, if_true, text, some, isDrive_text hostSound, Bool.or_false,
        Bool.false_eq_true, if_false, map_eq_ok] at done
      obtain ⟨other, read, rfl⟩ := done
      have special : isSpecial url.scheme = true := by simp [isSpecial, file]
      rw [special] at hostSound
      obtain rfl := hostSound.readHost_text read
      rw [place, hosted, noPort, foreign]
    · have noFile : (url.scheme == "file") = false := beq_false_of_ne file
      simp only [readPlace, noFile, Bool.false_eq_true, if_false, map_eq_ok] at done
      obtain ⟨⟨_, _, other, port⟩, read, rfl⟩ := done
      have same := sound.readAuthority_authority hosted read
      simp only [Prod.mk.injEq] at same
      obtain ⟨rfl, rfl⟩ := same
      rw [place, hosted]

/-! ### Where an authority stands -/

/-- Text that ends no authority is one behind two slashes, with what follows it up to an end. -/
theorem authorityIn_slashes {scheme : String} {text : List Char}
    (plain : ∀ c ∈ text, endsAuthority (isSpecial scheme) c = false)
    (some : text = [] → scheme = "file" ∨ isSpecial scheme = false) (more : List Char) :
    authorityIn scheme ('/' :: '/' :: (text ++ more)) =
      text ++ more.takeWhile (!endsAuthority (isSpecial scheme) ·) := by
  have taken : (text ++ more).takeWhile (!endsAuthority (isSpecial scheme) ·) =
      text ++ more.takeWhile (!endsAuthority (isSpecial scheme) ·) :=
    List.takeWhile_append_of_pos fun c member => by simp [plain c member]
  by_cases file : scheme = "file"
  · subst file
    have special : isSpecial "file" = true := rfl
    have many (count : Nat) : ¬ count + 1 + 1 < 2 := by omega
    rw [special] at taken ⊢
    simpa [authorityIn, many] using taken
  · have noFile : (scheme == "file") = false := beq_false_of_ne file
    cases special : isSpecial scheme with
    | false =>
      rw [special] at taken
      simpa [authorityIn, noFile, special] using taken
    | true =>
      rw [special] at taken plain
      cases text with
      | nil =>
        rcases some rfl with same | common
        · exact absurd same file
        · rw [special] at common
          cases common
      | cons c text =>
        have noSlash : c ≠ '/' ∧ c ≠ '\\' := by
          have first := plain c (by simp)
          simp only [endsAuthority, Bool.true_and, Bool.or_eq_false_iff,
            beq_eq_false_iff_ne] at first
          exact ⟨first.1.1.1, first.2⟩
        simpa [authorityIn, noFile, special, noSlash.1, noSlash.2] using taken

/-- Text that does not begin with two slashes has no authority, unless its scheme needs one. -/
theorem authorityIn_common {scheme : String} (common : isSpecial scheme = false)
    {cs : List Char} (apart : ¬ ['/', '/'] <+: cs) : authorityIn scheme cs = [] := by
  have noFile : (scheme == "file") = false := beq_false_of_ne (not_file common)
  simp only [authorityIn, noFile, common, Bool.false_eq_true, if_false]
  split
  · exact absurd ⟨_, rfl⟩ apart
  · rfl

theorem endsAuthority_cases {special : Bool} {c : Char} (ends : endsAuthority special c = true) :
    c = '/' ∨ c = '?' ∨ c = '#' ∨ c = '\\' := by
  simp only [endsAuthority, Bool.or_eq_true, Bool.and_eq_true, beq_iff_eq] at ends
  rcases ends with ((slash | question) | hash) | ⟨_, backslash⟩
  · exact .inl slash
  · exact .inr (.inl question)
  · exact .inr (.inr (.inl hash))
  · exact .inr (.inr (.inr backslash))

theorem Sound.authority_plain {url : Url} (sound : url.Sound) :
    ∀ c ∈ url.authority, endsAuthority (isSpecial url.scheme) c = false := by
  intro c member
  apply Bool.eq_false_iff.mpr
  intro ends
  rcases sound.authority_chars c member with rfl | text
  · rcases endsAuthority_cases ends with same | same | same | same <;> cases same
  · rcases endsAuthority_cases ends with rfl | rfl | rfl | rfl <;> exact absurd text (by decide)

theorem Sound.authority_visible {url : Url} (sound : url.Sound) :
    ∀ c ∈ url.authority, 32 < c.toNat := by
  intro c member
  rcases sound.authority_chars c member with rfl | text
  · decide
  · simp only [Host.isTextChar, Bool.and_eq_true, decide_eq_true_eq] at text
    exact text.1

/-- Only a scheme that needs no host goes without text for one. -/
theorem Sound.of_authority_nil {url : Url} (sound : url.Sound) (empty : url.authority = []) :
    url.scheme = "file" ∨ isSpecial url.scheme = false := by
  refine (sound.nameless ?_).2.2
  unfold authority at empty
  split at empty
  · rename_i hostless
    rw [hostless]
    rfl
  · rename_i host hosted
    have noText : host.text = "" := by
      simpa using (List.append_eq_nil_iff.mp (List.append_eq_nil_iff.mp empty).2).1
    simp [hosted, named, Option.filter, noText]

/-! ### What stands behind -/

/-- Behind a host, a visible character ends the authority. -/
theorem Sound.behind_start {url : Url} (sound : url.Sound) (hosted : url.host ≠ none)
    {c : Char} {more : List Char} (start : url.behind = c :: more) :
    endsAuthority (isSpecial url.scheme) c = true ∧ 32 < c.toNat := by
  obtain ⟨held, path⟩ := sound.segments hosted
  have mark : url.pathMark = "" := by
    cases host : url.host with
    | none => exact absurd host hosted
    | some host => simp [pathMark, host]
  simp only [Url.behind, mark, path, segments_toList, String.toList_empty, List.nil_append] at start
  have first : c = '/' ∨ c = '?' ∨ c = '#' := by
    cases held with
    | cons segment rest =>
      rw [List.flatMap_cons, List.cons_append, List.cons_append] at start
      exact .inl (List.cons.inj start).1.symm
    | nil =>
      rw [List.flatMap_nil, List.nil_append] at start
      cases query : url.query with
      | some text =>
        rw [query] at start
        exact .inr (.inl (List.cons.inj start).1.symm)
      | none =>
        rw [query] at start
        cases fragment : url.fragment with
        | some text =>
          rw [fragment] at start
          exact .inr (.inr (List.cons.inj start).1.symm)
        | none =>
          rw [fragment] at start
          cases start
  rcases first with rfl | rfl | rfl <;> exact ⟨rfl, by decide⟩

/-! ### The whole text -/

/-- Text that begins with the scheme of a sound URL is read behind it. -/
theorem Sound.read_eq {url : Url} (sound : url.Sound) {text : String} {front rest : List Char}
    (seen : ∀ c ∈ front, 32 < c.toNat)
    (same : text.toList = url.scheme.toList ++ ':' :: (front ++ rest)) :
    read text = readRest url.scheme (front ++ visible rest) := by
  have start : ∀ c ∈ url.scheme.toList ++ ':' :: front, 32 < c.toNat := by
    intro c member
    rcases List.mem_append.mp member with inScheme | behind
    · exact isSchemeChar_visible (sound.scheme c inScheme).1
    · rcases List.mem_cons.mp behind with rfl | inFront
      · decide
      · exact seen c inFront
  have whole : text = String.ofList ((url.scheme.toList ++ ':' :: front) ++ rest) := by
    rw [List.append_assoc, List.cons_append, ← same, String.ofList_toList]
  have trimmed := trimmed_append start (by simp) rest
  rw [← whole, List.append_assoc, List.cons_append] at trimmed
  have small : url.scheme.toList.map Char.toLower = url.scheme.toList := by
    simpa using List.map_congr_left fun c member => (sound.scheme c member).2
  rw [Url.read_eq trimmed (fun c member => (sound.scheme c member).1) sound.letter small,
    String.ofList_toList]

end Endpoint.Url
