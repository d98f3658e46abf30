import Endpoint.Proofs.Text.Percent
import Endpoint.Proofs.Url.AddressFour
import Endpoint.Proofs.Url.AddressSix
import Endpoint.Proofs.Url.Domain

/-!
Hosts: what is read as one, the characters of its text, and that the text is read as the same
host again, if it is read at all.
-/

namespace Endpoint.Url

/-- The host of a URL whose scheme is special or not. -/
def readHost (special : Bool) (cs : List Char) : Except Fault Host :=
  if special then Host.read cs else Host.readPlain cs

namespace Host

/-- A host that a scheme can have, special or not. -/
inductive Sound : Bool → Host → Prop
  | domain (plain : ∀ c ∈ name.toList, Domain.IsPlain c ∧ c.toLower = c)
      (noNumber : endsInNumber name.toList = false) : Sound true (.domain name)
  | four (fits : address < 256 ^ 4) : Sound true (.four address)
  | six (eight : pieces.length = 8) (small : ∀ piece ∈ pieces, piece < 65536) :
      Sound special (.six pieces)
  | plain (allowed : ∀ c ∈ held.toList, isForbiddenInHost c = false ∧ isControl c = false) :
      Sound false (.plain held)

/-! ### What is read -/

theorem read_sound {cs : List Char} {host : Host} (done : Host.read cs = .ok host) :
    host.Sound true ∧ host.text ≠ "" := by
  unfold Host.read at done
  split at done
  · split at done
    · obtain ⟨pieces, read, rfl⟩ := map_eq_ok.mp done
      obtain ⟨eight, small⟩ := addressSix_pieces read
      exact ⟨.six eight small, by simp [text]⟩
    · cases done
  · split at done
    · cases done
    · split at done
      · cases done
      · cases done
      · rename_i name some ascii
        split at done
        · obtain ⟨address, read, rfl⟩ := map_eq_ok.mp done
          refine ⟨.four (addressFour_lt read), fun empty => ?_⟩
          have number := endsInNumber_text address
          rw [show addressFourText address = "" from empty] at number
          exact absurd number (by decide)
        · rename_i noNumber
          cases done
          refine ⟨.domain ?_ ?_, ?_⟩
          · simpa using Domain.ascii?_plain ascii
          · simpa using noNumber
          · simpa [text] using some

theorem escape_allowed {c : Char} (escape : Text.isEscape c = true) :
    isForbiddenInHost c = false ∧ isControl c = false := by
  have all : Text.isEscape c = true → isForbiddenInHost c = false ∧ isControl c = false :=
    Text.ascii_induction
      (P := fun c => Text.isEscape c = true → isForbiddenInHost c = false ∧ isControl c = false)
      (by decide) (Text.isEscape_ascii escape)
  exact all escape

theorem readPlain_sound {cs : List Char} {host : Host} (done : Host.readPlain cs = .ok host) :
    host.Sound false ∧ (host.text = "" → cs = []) := by
  unfold Host.readPlain at done
  split at done
  · split at done
    · obtain ⟨pieces, read, rfl⟩ := map_eq_ok.mp done
      obtain ⟨eight, small⟩ := addressSix_pieces read
      exact ⟨.six eight small, by simp [text]⟩
    · cases done
  · split at done
    · cases done
    · rename_i allowed
      cases done
      refine ⟨.plain fun c member => ?_, fun empty => ?_⟩
      · rcases Text.percentEncodeUnless_chars _ _ c member with ⟨kept, inside⟩ | escape
        · rw [String.toList_ofList] at inside
          have noForbidden : ∀ d ∈ cs, isForbiddenInHost d = false := by simpa using allowed
          exact ⟨noForbidden c inside, by simpa using kept⟩
        · exact escape_allowed escape
      · simpa using Text.percentEncodeUnless_empty empty

theorem readHost_sound {special : Bool} {cs : List Char} {host : Host}
    (done : readHost special cs = .ok host) : host.Sound special := by
  cases special with
  | true => exact (read_sound done).1
  | false => exact (readPlain_sound done).1

/-! ### Characters -/

/-- A character that the text of a host may hold: a visible one that ends no authority and no
user. -/
def isTextChar (c : Char) : Bool := 32 < c.toNat && !"/?#@\\".toList.contains c

/-- A character that the text of a host may hold outside of brackets. -/
def isBareChar (c : Char) : Bool :=
  isTextChar c && c != ':' && c != '[' && c != ']' && c != '|'

private theorem plain_isBareChar {c : Char} (plain : Domain.IsPlain c) :
    isBareChar c = true ∧ c ≠ '%' := by
  have all : Domain.isForbidden c = false → isBareChar c = true ∧ c ≠ '%' :=
    Text.ascii_induction
      (P := fun c => Domain.isForbidden c = false → isBareChar c = true ∧ c ≠ '%')
      (by decide) plain.1
  exact all plain.2

private theorem allowed_isBareChar {c : Char} (allowed : isForbiddenInHost c = false)
    (noControl : isControl c = false) : isBareChar c = true := by
  have ascii : c.toNat < 128 := by
    simp only [isControl, Bool.or_eq_false_iff, decide_eq_false_iff_not] at noControl
    omega
  have all : isForbiddenInHost c = false → isControl c = false → isBareChar c = true :=
    Text.ascii_induction
      (P := fun c => isForbiddenInHost c = false → isControl c = false → isBareChar c = true)
      (by decide) ascii
  exact all allowed noControl

private theorem hex_isBareChar {c : Char} (hex : IsHex c) : isBareChar c = true := by
  have all : (Text.hexValue? c).isSome = true → isBareChar c = true :=
    Text.ascii_induction
      (P := fun c => (Text.hexValue? c).isSome = true → isBareChar c = true) (by decide) hex.1
  exact all hex.2

theorem decimal_plain {c : Char} (decimal : c.isDigit = true ∨ c = '.') :
    Domain.IsPlain c ∧ c.toLower = c := by
  have ascii : c.toNat < 128 := by
    rcases decimal with digit | rfl
    · simp only [Char.isDigit, Bool.and_eq_true, decide_eq_true_eq, ge_iff_le,
        UInt32.le_iff_toNat_le] at digit
      exact Nat.lt_of_le_of_lt digit.2 (by decide)
    · decide
  have all : (c.isDigit = true ∨ c = '.') → Domain.isForbidden c = false ∧ c.toLower = c :=
    Text.ascii_induction
      (P := fun c => (c.isDigit = true ∨ c = '.') →
        Domain.isForbidden c = false ∧ c.toLower = c) (by decide) ascii
  obtain ⟨allowed, small⟩ := all decimal
  exact ⟨⟨ascii, allowed⟩, small⟩

theorem decimal_isTextChar {c : Char} (digit : c.isDigit = true) : isTextChar c = true := by
  have bare := (plain_isBareChar (decimal_plain (.inl digit)).1).1
  simp only [isBareChar, Bool.and_eq_true] at bare
  exact bare.1.1.1.1

/-- The text of a host is bare, or bare apart from colons between brackets. -/
theorem Sound.text_cases {special : Bool} {host : Host} (sound : host.Sound special) :
    (∀ c ∈ host.text.toList, isBareChar c = true) ∨
      ∃ inside, host.text.toList = '[' :: (inside ++ [']']) ∧
        ∀ c ∈ inside, isBareChar c = true ∨ c = ':' := by
  cases sound with
  | domain plain noNumber => exact .inl fun c member => (plain_isBareChar (plain c member).1).1
  | four fits =>
    exact .inl fun c member =>
      (plain_isBareChar (decimal_plain (addressFourText_chars _ c member)).1).1
  | plain allowed =>
    exact .inl fun c member => allowed_isBareChar (allowed c member).1 (allowed c member).2
  | @six pieces _ eight small =>
    refine .inr ⟨(addressSixText pieces).toList, by simp [text], fun c member => ?_⟩
    rcases addressSixText_chars pieces c member with hex | colon
    · exact .inl (hex_isBareChar hex)
    · exact .inr colon

theorem Sound.text_chars {special : Bool} {host : Host} (sound : host.Sound special) :
    ∀ c ∈ host.text.toList, isTextChar c = true := by
  have bare {c : Char} (bare : isBareChar c = true) : isTextChar c = true := by
    simp only [isBareChar, Bool.and_eq_true] at bare
    exact bare.1.1.1.1
  intro c member
  rcases sound.text_cases with all | ⟨inside, same, all⟩
  · exact bare (all c member)
  · simp only [same, List.mem_cons, List.mem_append, List.not_mem_nil, or_false] at member
    rcases member with rfl | here | rfl
    · decide
    · rcases all c here with plain | rfl
      · exact bare plain
      · decide
    · decide

/-! ### Reading back -/

/-- Small plain text is read as the domain name that it is. -/
theorem read_small {cs : List Char} (plain : ∀ c ∈ cs, Domain.IsPlain c ∧ c.toLower = c) :
    Host.read cs =
      match Domain.ascii? (String.ofList cs) with
      | none => .error .domain
      | some [] => .error .emptyHost
      | some name =>
        if endsInNumber name then (addressFour name).map .four
        else .ok (.domain (String.ofList name)) := by
  have noPercent : '%' ∉ cs := fun member => (plain_isBareChar (plain '%' member).1).2 rfl
  unfold Host.read
  split
  · exact absurd (plain '[' (by simp)).1.2 (by decide)
  · have decoded := Text.strictText?_percentBytes noPercent
    generalize Text.strictText? (Text.percentBytes cs) = text at decoded ⊢
    subst decoded
    rfl

/-- Small plain text is read as nothing but itself. -/
theorem read_plain {cs : List Char} {host : Host}
    (plain : ∀ c ∈ cs, Domain.IsPlain c ∧ c.toLower = c) (done : Host.read cs = .ok host) :
    (if endsInNumber cs then (addressFour cs).map .four
      else .ok (.domain (String.ofList cs))) = .ok host := by
  rw [read_small plain] at done
  split at done
  · cases done
  · cases done
  · rename_i name _ read
    obtain rfl := Domain.ascii?_small (fun c member => (plain c member).1.1)
      (fun c member => (plain c member).2) read
    exact done

/-- An address between its brackets is read under any scheme. -/
theorem readHost_six {pieces : List Nat} (eight : pieces.length = 8)
    (small : ∀ piece ∈ pieces, piece < 65536) (special : Bool) :
    readHost special (text (.six pieces)).toList = .ok (.six pieces) := by
  have split : (text (.six pieces)).toList = '[' :: ((addressSixText pieces).toList ++ [']']) := by
    simp [text]
  have read := addressSix_text eight small
  cases special <;>
    simp [readHost, Host.read, Host.readPlain, split, read, Except.map]

/-- The text of a host is read as that host, if it is read at all. -/
theorem Sound.readHost_text {special : Bool} {host other : Host} (sound : host.Sound special)
    (done : readHost special host.text.toList = .ok other) : other = host := by
  cases sound with
  | @domain name plain noNumber =>
    have read := read_plain plain done
    simp only [noNumber, Bool.false_eq_true, if_false, String.ofList_toList, Except.ok.injEq] at read
    exact read.symm
  | @four address fits =>
    have plain : ∀ c ∈ (addressFourText address).toList, Domain.IsPlain c ∧ c.toLower = c :=
      fun c member => decimal_plain (addressFourText_chars address c member)
    simp only [readHost, if_true, text] at done
    have read := read_plain plain done
    simp only [endsInNumber_text, addressFour_text fits, if_true, Except.map,
      Except.ok.injEq] at read
    exact read.symm
  | six eight small =>
    rw [readHost_six eight small] at done
    exact (Except.ok.inj done).symm
  | @plain held allowed =>
    simp only [readHost, Bool.false_eq_true, if_false, Host.readPlain] at done
    split at done
    · rename_i rest bracket
      have split : held.toList = '[' :: rest := bracket
      exact absurd (allowed '[' (by simp [split])).1 (by decide)
    · have none : held.toList.any isForbiddenInHost = false := by
        simpa using fun c member => (allowed c member).1
      have kept : Text.percentEncodeUnless (!isControl ·) held = held :=
        Text.percentEncodeUnless_kept fun c member => by simp [(allowed c member).2]
      simp only [text, none, Bool.false_eq_true, if_false, String.ofList_toList, kept,
        Except.ok.injEq] at done
      exact done.symm

end Host

end Endpoint.Url
