import Endpoint.Proofs.Url.Sound

/-!
Every URL that is read is sound.
-/

namespace Endpoint.Url

/-! ### Authorities -/

/-- What an authority that is read consists of. -/
structure Parts (scheme : String) (cs : List Char) where
  user : Option (List Char)
  place : List Char
  host : Host
  port : Option Nat
  cut : cutUser cs = (user, place)
  needed : user ≠ none → place ≠ []
  nameless : (cutPort false place).1 = [] → isSpecial scheme = false ∧ (cutPort false place).2 = []
  hostRead : readHost (isSpecial scheme) (cutPort false place).1 = .ok host
  portRead : readPort scheme (cutPort false place).2 = .ok port

def Parts.username {scheme : String} {cs : List Char} (parts : Parts scheme cs) : String :=
  encode keepsInUser (cutAt (· == ':') (parts.user.getD [])).1

def Parts.password {scheme : String} {cs : List Char} (parts : Parts scheme cs) : String :=
  encode keepsInUser ((cutAt (· == ':') (parts.user.getD [])).2.drop 1)

theorem readAuthority_parts {scheme : String} {cs : List Char}
    {found : String × String × Option Host × Option Nat}
    (done : readAuthority scheme cs = .ok found) :
    ∃ parts : Parts scheme cs,
      found = (parts.username, parts.password, some parts.host, parts.port) := by
  obtain ⟨user, place, cut⟩ : ∃ user place, cutUser cs = (user, place) := ⟨_, _, rfl⟩
  simp only [readAuthority, cut] at done
  split at done
  · cases done
  · rename_i needed
    split at done
    · cases done
    · rename_i nameless
      have read : ∃ host, readHost (isSpecial scheme) (cutPort false place).1 = .ok host ∧
          ∃ port, readPort scheme (cutPort false place).2 = .ok port ∧
            (encode keepsInUser (cutAt (· == ':') (user.getD [])).1,
              encode keepsInUser ((cutAt (· == ':') (user.getD [])).2.drop 1), some host, port) =
                found := by
        unfold readHost
        split at done
        · rename_i special
          simpa only [special, if_true, bind_eq_ok, pure, Except.pure, Except.ok.injEq] using done
        · rename_i common
          simpa only [common, if_false, Bool.false_eq_true, bind_eq_ok, pure, Except.pure,
            Except.ok.injEq] using done
      obtain ⟨host, hostRead, port, portRead, rfl⟩ := read
      refine ⟨⟨user, place, host, port, cut, ?_, ?_, hostRead, portRead⟩, rfl⟩
      · intro some none
        cases user with
        | none => exact some rfl
        | some user => simp [none] at needed
      · intro none
        simpa [none] using nameless

theorem Parts.chars {scheme : String} {cs : List Char} (parts : Parts scheme cs) :
    ∀ c ∈ parts.username.toList ++ parts.password.toList, Host.isTextChar c = true := by
  intro c member
  rcases List.mem_append.mp member with inName | inSecret
  · exact encode_user _ c inName
  · exact encode_user _ c inSecret

/-- Where the host has no text, there is neither user nor port. -/
theorem Parts.of_nameless {scheme : String} {cs : List Char} (parts : Parts scheme cs)
    (nameless : parts.host.text = "") :
    isSpecial scheme = false ∧ parts.username = "" ∧ parts.password = "" ∧
      parts.port = none := by
  have noText : (cutPort false parts.place).1 = [] := by
    have read := parts.hostRead
    cases special : isSpecial scheme with
    | true =>
      rw [special] at read
      exact absurd nameless (Host.read_sound read).2
    | false =>
      rw [special] at read
      exact (Host.readPlain_sound read).2 nameless
  obtain ⟨common, noPort⟩ := parts.nameless noText
  have noPlace : parts.place = [] := by
    have whole := cutPort_append false parts.place
    rw [noText, noPort] at whole
    exact whole.symm
  have noUser : parts.user = none :=
    Decidable.byContradiction fun some => parts.needed some noPlace
  refine ⟨common, ?_, ?_, ?_⟩
  · rw [username, noUser]
    rfl
  · rw [password, noUser]
    rfl
  · have read := parts.portRead
    rw [noPort] at read
    exact (Except.ok.inj read).symm

/-! ### Behind the scheme -/

/-- The text of a scheme: a letter and what may follow it, all small. -/
structure SchemeText (scheme : String) : Prop where
  letter : scheme.toList.head?.any Char.isAlpha = true
  chars : ∀ c ∈ scheme.toList, isSchemeChar c = true ∧ c.toLower = c

theorem userText_chars {url : Url}
    (chars : ∀ c ∈ url.username.toList ++ url.password.toList, Host.isTextChar c = true) :
    ∀ c ∈ url.userText, c = '@' ∨ Host.isTextChar c = true := by
  intro c member
  unfold userText at member
  split at member
  · cases member
  · simp only [List.mem_append, List.mem_singleton] at member
    rcases member with inName | inSecret | mark
    · exact .inr (chars c (List.mem_append_left _ inName))
    · split at inSecret
      · cases inSecret
      · rcases List.mem_cons.mp inSecret with rfl | inside
        · exact .inr (by decide)
        · exact .inr (chars c (List.mem_append_right _ inside))
    · exact .inl mark

theorem not_file {scheme : String} (common : isSpecial scheme = false) : scheme ≠ "file" := by
  rintro rfl
  exact absurd common (by decide)

theorem named_eq_none {host : Host} (nameless : named (some host) = none) : host.text = "" := by
  simpa [named, Option.filter] using nameless

theorem readHierarchy_sound {scheme : String} {cs : List Char} {url : Url}
    (text : SchemeText scheme) (noFile : scheme ≠ "file")
    (done : readHierarchy scheme cs = .ok url) : url.Sound := by
  simp only [readHierarchy, bind_eq_ok, pure, Except.pure, Except.ok.injEq] at done
  obtain ⟨_, read, rfl⟩ := done
  obtain ⟨parts, rfl⟩ := readAuthority_parts read
  obtain ⟨held, rest, same, segments⟩ :=
    readPath_parts scheme (cutAt (endsAuthority (isSpecial scheme)) cs).2
  obtain ⟨query, fragment⟩ := readTail_printable (isSpecial scheme) rest
  simp only [same]
  exact {
    letter := text.letter
    scheme := text.chars
    user := userText_chars parts.chars
    host := by
      rintro _ ⟨⟩
      exact Host.readHost_sound parts.hostRead
    port := readPort_bound parts.portRead
    nameless := by
      intro nameless
      have noText := named_eq_none nameless
      obtain ⟨common, noName, noSecret, noPort⟩ := parts.of_nameless noText
      refine ⟨?_, noPort, .inr common⟩
      simp [authority, userText, portText, noText, noName, noSecret, noPort]
    file := fun file => absurd file noFile
    hostless := by
      rintro ⟨⟩
    segments := fun _ => ⟨held, rfl⟩
    behind := behind_printable (segments_printable segments) query fragment
  }

theorem localHost_sound {host : Host} (sound : host.Sound true) : (localHost host).Sound true := by
  cases sound with
  | @domain name plain noNumber =>
    by_cases here : name = "localhost"
    · have empty : localHost (.domain name) = .domain "" := by simp [localHost, here]
      rw [empty]
      exact .domain (by simp) (by decide)
    · have same : localHost (.domain name) = .domain name := by simp [localHost, here]
      rw [same]
      exact .domain plain noNumber
  | four fits => exact .four fits
  | six eight small => exact .six eight small

theorem localHost_localHost (host : Host) : localHost (localHost host) = localHost host := by
  cases host with
  | domain name => by_cases here : name = "localhost" <;> simp [localHost, here]
  | _ => rfl

/-- The URL of a file has a host that is not the machine itself, and a path. -/
theorem readFile_parts {cs : List Char} {url : Url} (done : readFile cs = .ok url) :
    ∃ host rest, host.Sound true ∧ localHost host = host ∧
      url = ⟨"file", "", "", some host, none, (readPath "file" rest).1,
        (readPath "file" rest).2.1, (readPath "file" rest).2.2⟩ := by
  simp only [readFile] at done
  split at done
  · cases done
    exact ⟨.domain "", _, .domain (by simp) (by decide), rfl, rfl⟩
  · cases read : Host.read (cutAt (endsAuthority true) (cs.drop 2)).1 with
    | error fault =>
      rw [read] at done
      cases done
    | ok found =>
      rw [read] at done
      have sound := localHost_sound (Host.read_sound read).1
      have same := localHost_localHost found
      cases found <;>
        · cases done
          exact ⟨_, _, sound, same, rfl⟩

theorem readFile_sound {cs : List Char} {url : Url} (text : SchemeText "file")
    (done : readFile cs = .ok url) : url.Sound := by
  obtain ⟨host, rest, sound, foreign, rfl⟩ := readFile_parts done
  obtain ⟨held, rest', same, segments⟩ := readPath_parts "file" rest
  obtain ⟨query, fragment⟩ := readTail_printable (isSpecial "file") rest'
  simp only [same]
  exact {
    letter := text.letter
    scheme := text.chars
    user := by simp [userText]
    host := by
      rintro _ ⟨⟩
      exact sound
    port := by simp
    nameless := by
      intro nameless
      have noText := named_eq_none nameless
      exact ⟨by simp [authority, userText, portText, noText], rfl, .inl rfl⟩
    file := fun _ => ⟨rfl, rfl, host, rfl, foreign⟩
    hostless := by
      rintro ⟨⟩
    segments := fun _ => ⟨held, rfl⟩
    behind := behind_printable (segments_printable segments) query fragment
  }

/-- A URL without a host is sound if its path is not taken for one. -/
theorem hostless_sound {url : Url} (text : SchemeText url.scheme)
    (common : isSpecial url.scheme = false) (user : url.userText = []) (host : url.host = none)
    (port : url.port = none) (apart : ¬ ['/', '/'] <+: url.behind)
    (printable : ∀ c ∈ url.behind, isControl c = false) : url.Sound where
  letter := text.letter
  scheme := text.chars
  user := by simp [user]
  host := by simp [host]
  port := by simp [port]
  nameless := fun _ => ⟨by simp [authority, host], port, .inr common⟩
  file := fun file => absurd file (not_file common)
  hostless := fun _ => ⟨common, apart⟩
  segments := fun some => absurd host some
  behind := printable

/-- Text that begins with no slash is encoded so. -/
theorem encode_ne_slash {keeps : Char → Bool} {cs : List Char}
    (noSlash : ∀ more, cs ≠ '/' :: more) (more : List Char) :
    (encode keeps cs).toList ≠ '/' :: more := by
  cases cs with
  | nil => simp [encode, Text.percentEncodeUnless]
  | cons c cs =>
    obtain ⟨first, others, encoded, start⟩ := Text.percentChar_start keeps c
    have text : (encode keeps (c :: cs)).toList =
        first :: (others ++ cs.flatMap (Text.percentChar keeps)) := by
      simp [encode, Text.percentEncodeUnless, encoded]
    rw [text]
    intro same
    obtain rfl := (List.cons.inj same).1
    rcases start with rfl | percent
    · exact noSlash cs rfl
    · exact absurd percent (by decide)

theorem takeWhile_ne_slash {cs : List Char} (noSlash : ∀ more, cs ≠ '/' :: more)
    (keeps : Char → Bool) (more : List Char) : cs.takeWhile keeps ≠ '/' :: more := by
  intro same
  cases cs with
  | nil => cases same
  | cons c cs =>
    rw [List.takeWhile_cons] at same
    split at same
    · obtain rfl := (List.cons.inj same).1
      exact noSlash cs rfl
    · cases same

theorem readRest_sound {scheme : String} {cs : List Char} {url : Url} (text : SchemeText scheme)
    (done : readRest scheme cs = .ok url) : url.Sound := by
  unfold readRest at done
  split at done
  · rename_i file
    obtain rfl := eq_of_beq file
    exact readFile_sound text done
  · rename_i noFile
    have notFile : scheme ≠ "file" := fun same => noFile (by simp [same])
    split at done
    · exact readHierarchy_sound text notFile done
    · rename_i special
      have common : isSpecial scheme = false := by simpa using special
      split at done
      · exact readHierarchy_sound text notFile done
      · rename_i rest _
        obtain ⟨held, rest', same, segments⟩ := readPath_parts scheme ('/' :: rest)
        obtain ⟨query, fragment⟩ := readTail_printable (isSpecial scheme) rest'
        simp only [same, Except.ok.injEq] at done
        subst done
        exact hostless_sound text common rfl rfl rfl (segments_hostless rfl rfl segments)
          (behind_printable (segments_printable segments) query fragment)
      · rename_i noSlash
        obtain ⟨query, fragment⟩ :=
          readTail_printable false (cutAt (fun c => c == '?' || c == '#') cs).2
        cases done
        refine hostless_sound text common rfl rfl rfl ?_ ?_
        · refine plain_hostless rfl (encode_ne_slash (takeWhile_ne_slash ?_ _))
          exact fun more same => noSlash more same
        · exact behind_printable (encode_printable (by simp) _) query fragment

/-! ### The whole text -/

theorem isSchemeChar_ascii {c : Char} (inScheme : isSchemeChar c = true) : c.toNat < 128 := by
  simp only [isSchemeChar, Bool.or_eq_true, beq_iff_eq] at inScheme
  rcases inScheme with ((letter | rfl) | rfl) | rfl
  · exact Text.isAlphanum_ascii letter
  all_goals decide

theorem isSchemeChar_visible {c : Char} (inScheme : isSchemeChar c = true) : 32 < c.toNat :=
  Text.ascii_induction (P := fun c => isSchemeChar c = true → 32 < c.toNat) (by decide)
    (isSchemeChar_ascii inScheme) inScheme

/-- A letter and what may follow it are the text of a scheme in small letters. -/
theorem schemeText_small {cs : List Char} (letter : cs.head?.any Char.isAlpha = true)
    (chars : ∀ c ∈ cs, isSchemeChar c = true) :
    SchemeText (String.ofList (cs.map Char.toLower)) where
  letter := by
    cases cs with
    | nil => cases letter
    | cons c cs =>
      have ascii := isSchemeChar_ascii (chars c (by simp))
      have all : c.isAlpha = true → c.toLower.isAlpha = true :=
        Text.ascii_induction (P := fun c => c.isAlpha = true → c.toLower.isAlpha = true)
          (by decide) ascii
      simpa using all (by simpa using letter)
  chars := by
    intro c member
    rw [String.toList_ofList] at member
    obtain ⟨d, inside, rfl⟩ := List.mem_map.mp member
    have ascii := isSchemeChar_ascii (chars d inside)
    have all : isSchemeChar d = true → isSchemeChar d.toLower = true :=
      Text.ascii_induction (P := fun d => isSchemeChar d = true → isSchemeChar d.toLower = true)
        (by decide) ascii
    exact ⟨all (chars d inside), Text.toLower_toLower ascii⟩

/-- Every URL that is read is sound. -/
theorem read_sound {text : String} {url : Url} (done : read text = .ok url) : url.Sound := by
  unfold read at done
  dsimp only at done
  split at done
  · rename_i first more rest scheme _
    split at done
    · rename_i letter
      refine readRest_sound ?_ done
      apply schemeText_small
      · rw [scheme]
        simpa using letter
      · intro c member
        exact List.all_eq_true.mp List.all_takeWhile c member
    · cases done
  · cases done

end Endpoint.Url
