import Endpoint.Lowering.Enumeration
import Endpoint.Proofs.Emission.Coding
import Endpoint.Proofs.Table
import Endpoint.Proofs.Validation

/-!
The members of an enumeration are the variants of its enum, one each and in order. Its emitted code
is run on the tables that it is read back to: the two look-ups undo each other, and what is written
is read back.
-/

namespace Endpoint.Lowering

open Source (Enum Variant)

/-- A plain variant with one alias becomes the member with its name and the alias. -/
theorem enumerationMember_ok_iff {imports : Imports} {variant : Variant}
    {member : EnumerationMember} :
    enumerationMember imports variant = .ok member ↔
      isUnitVariant variant = true ∧ aliasOf? imports variant = some member.wireName ∧
        member.variant = variant.name := by
  obtain ⟨name, shown⟩ := member
  unfold enumerationMember
  by_cases unit : isUnitVariant variant = true
  · cases found : aliasOf? imports variant with
    | none => simp [unit]
    | some text => simp [unit, and_comm, eq_comm]
  · simp [unit]

theorem variantProblem?_eq_none_iff (imports : Imports) (identity : Identity)
    (variant : Variant) :
    variantProblem? imports identity variant = none ↔
      ∃ member, enumerationMember imports variant = .ok member := by
  unfold variantProblem?
  cases enumerationMember imports variant <;> simp

/-- Where no variant has a problem, the members are the variants with their aliases. -/
theorem members_eq {imports : Imports} {identity : Identity} {variants : List Variant}
    (plain : variants.filterMap (variantProblem? imports identity) = []) :
    (variants.filterMap fun variant => (enumerationMember imports variant).toOption).map
        (fun member => (member.variant, some member.wireName)) =
      variants.map fun variant => (variant.name, aliasOf? imports variant) := by
  induction variants with
  | nil => rfl
  | cons variant rest ih =>
    rw [List.filterMap_eq_nil_iff] at plain
    obtain ⟨member, here⟩ :=
      (variantProblem?_eq_none_iff imports identity variant).mp (plain variant (by simp))
    have behind := ih (List.filterMap_eq_nil_iff.mpr fun other later =>
      plain other (List.mem_cons_of_mem _ later))
    obtain ⟨_, named, same⟩ := enumerationMember_ok_iff.mp here
    have given : (enumerationMember imports variant).toOption = some member := by rw [here]; rfl
    simp only [List.filterMap_cons, given, List.map_cons, named, same, behind]

/-- The members of an enumeration are the variants of its enum with their aliases, in order. -/
theorem enumeration_members {candidate : Candidate} {item : Enum} {held : Enumeration}
    (understood : (enumeration candidate item).definition = some held) :
    held.name = item.name ∧
      held.members.map (fun member => (member.variant, some member.wireName)) =
        item.variants.map fun variant => (variant.name, aliasOf? candidate.imports variant) := by
  simp only [enumeration] at understood
  split at understood
  · cases understood
  · split at understood
    · rename_i plain
      cases understood
      exact ⟨rfl, members_eq (List.isEmpty_iff.mp plain)⟩
    · cases understood

end Endpoint.Lowering

namespace Endpoint.Emission

open Source (Ident)

/-! ### Running the code -/

namespace Coding

/-- The alias of a variant: what the first arm for it gives. -/
def alias? (code : Coding) (variant : String) : Option String := code.aliasArms.alias? variant

/-- What the look-up by alias gives for a text, by the first arm for it. -/
def ofAlias? (code : Coding) (text : String) : Option (Option String) :=
  (code.variantArms.find? fun arm => arm.text.all (· == text)).map Arm.variant

/-- Why a value is not read as a variant. -/
inductive Refusal
  | unknownVariant (text : String) (choices : List String)
  | invalidType (value : Json)

/-- A variant as it is written. -/
def serialize (code : Coding) (variant : String) : Option Json := (code.alias? variant).map .text

/-- The variant that a value is read as. -/
def deserialize (code : Coding) : Json → Except Refusal String
  | .text text =>
    match code.ofAlias? text with
    | some (some variant) => .ok variant
    | _ => .error (.unknownVariant text code.choices)
  | other => .error (.invalidType other)

theorem ofAlias?_ofTable (table : AliasTable Ident) (text : String) :
    (ofTable table).ofAlias? text = some (AliasTable.ofAlias? (table.map shown) text) := by
  induction table with
  | nil => rfl
  | cons entry rest ih =>
    by_cases same : entry.2 = text
    · simp [ofAlias?, ofTable, AliasTable.ofAlias?, armOf, shown, same]
    · simpa [ofAlias?, ofTable, AliasTable.ofAlias?, armOf, shown, same] using ih

/-- The tables of the code lead from the variants with these names to their aliases and back. -/
structure Inverse (code : Coding) (variants : List String) : Prop where
  /-- The constant lists every variant once, in order, with its alias. -/
  listed : code.entries.map Prod.fst = variants
  named : ∀ entry ∈ code.entries, code.alias? entry.1 = some entry.2
  back : ∀ variant ∈ variants, ∃ text, code.alias? variant = some text ∧
    code.ofAlias? text = some (some variant)
  forth : ∀ text variant, code.ofAlias? text = some (some variant) →
    code.alias? variant = some text
  unknown : ∀ text, code.ofAlias? text = some none ↔
    ∀ variant ∈ variants, code.alias? variant ≠ some text
  roundTrip : ∀ variant ∈ variants, ∃ json, code.serialize variant = some json ∧
    code.deserialize json = .ok variant
  refused : ∀ text, (∀ variant ∈ variants, code.alias? variant ≠ some text) →
    code.deserialize (.text text) = .error (.unknownVariant text (code.entries.map Prod.snd))

theorem ofTable_alias?_iff {table : AliasTable Ident}
    (distinct : AliasTable.Distinct (table.map shown)) (variant text : String) :
    (ofTable table).alias? variant = some text ↔ (variant, text) ∈ table.map shown :=
  AliasTable.alias?_eq_some_iff distinct variant text

theorem ofTable_ofAlias?_iff {table : AliasTable Ident}
    (distinct : AliasTable.Distinct (table.map shown)) (text variant : String) :
    (ofTable table).ofAlias? text = some (some variant) ↔ (variant, text) ∈ table.map shown := by
  rw [ofAlias?_ofTable, Option.some.injEq, AliasTable.ofAlias?_eq_some_iff distinct]

/-- Nothing is found for exactly the texts that are nobody's alias. -/
theorem ofTable_ofAlias?_none_iff {table : AliasTable Ident}
    (distinct : AliasTable.Distinct (table.map shown)) (text : String) :
    (ofTable table).ofAlias? text = some none ↔
      ∀ variant ∈ (table.map shown).map Prod.fst, (ofTable table).alias? variant ≠ some text := by
  rw [ofAlias?_ofTable, Option.some.injEq]
  constructor
  · intro none variant _ found
    have member := (ofTable_alias?_iff distinct variant text).mp found
    rw [(AliasTable.ofAlias?_eq_some_iff distinct text variant).mpr member] at none
    cases none
  · intro nobody
    cases found : AliasTable.ofAlias? (table.map shown) text with
    | none => rfl
    | some variant =>
      have member := (AliasTable.ofAlias?_eq_some_iff distinct text variant).mp found
      exact absurd ((ofTable_alias?_iff distinct variant text).mpr member)
        (nobody variant (List.mem_map.mpr ⟨_, member, rfl⟩))

/-- Where no variant and no alias stands in the table twice, the code leads back and forth. -/
theorem ofTable_inverse {table : AliasTable Ident}
    (distinct : AliasTable.Distinct (table.map shown)) :
    (ofTable table).Inverse ((table.map shown).map Prod.fst) := by
  have forward := ofTable_alias?_iff distinct
  have backward := ofTable_ofAlias?_iff distinct
  have unknown := ofTable_ofAlias?_none_iff distinct
  have entry : ∀ variant ∈ (table.map shown).map Prod.fst,
      ∃ text, (variant, text) ∈ table.map shown := by
    intro variant member
    obtain ⟨⟨_, text⟩, inside, rfl⟩ := List.mem_map.mp member
    exact ⟨text, inside⟩
  refine ⟨rfl, ?named, ?back, ?forth, unknown, ?roundTrip, ?refused⟩
  case named => exact fun entry member => (forward entry.1 entry.2).mpr member
  case back =>
    intro variant member
    obtain ⟨text, inside⟩ := entry variant member
    exact ⟨text, (forward variant text).mpr inside, (backward text variant).mpr inside⟩
  case forth =>
    intro text variant found
    exact (forward variant text).mpr ((backward text variant).mp found)
  case roundTrip =>
    intro variant member
    obtain ⟨text, inside⟩ := entry variant member
    refine ⟨.text text, ?_, ?_⟩
    · rw [serialize, (forward variant text).mpr inside]
      rfl
    · rw [deserialize, (backward text variant).mpr inside]
  case refused =>
    intro text nobody
    rw [deserialize, (unknown text).mpr nobody]
    simp [ofTable, shown, Function.comp_def]

end Coding

/-! ### Enumerations that are understood -/

/-- The table of an accepted enumeration lists the variants of its enum with their aliases, and
nothing twice. -/
theorem table_of_understood {candidate : Candidate} {item : Source.Enum} {held : Enumeration}
    (apart : (item.variants.map fun variant => variant.name.text).Nodup)
    (understood : (Lowering.enumeration candidate item).definition = some held)
    (accepted : held.problems = []) :
    AliasTable.Distinct (held.table.map shown) ∧
      (held.table.map shown).map Prod.fst = item.variants.map (fun variant => variant.name.text) ∧
      (held.table.map shown).map (fun entry => (entry.1, some entry.2)) =
        item.variants.map fun variant =>
          (variant.name.text, Lowering.aliasOf? candidate.imports variant) := by
  obtain ⟨_, members⟩ := Lowering.enumeration_members understood
  have entries : (held.table.map shown).map (fun entry => (entry.1, some entry.2)) =
      item.variants.map fun variant =>
        (variant.name.text, Lowering.aliasOf? candidate.imports variant) := by
    have named := congrArg (List.map fun pair : Ident × Option String => (pair.1.text, pair.2))
      members
    simpa [Enumeration.table, shown, Function.comp_def] using named
  have variants : (held.table.map shown).map Prod.fst =
      item.variants.map fun variant => variant.name.text := by
    have firsts := congrArg (List.map Prod.fst) entries
    simpa [Function.comp_def] using firsts
  have aliases : (held.table.map shown).map Prod.snd =
      held.members.map EnumerationMember.wireName := by
    simp [Enumeration.table, shown, Function.comp_def]
  refine ⟨⟨?_, ?_⟩, variants, entries⟩
  · rw [variants]
    exact apart
  · rw [aliases]
    exact (held.problems_eq_nil_iff.mp accepted).1

/-- The code that is emitted for an enum with distinct variants leads from them to their aliases and
back, whether an alias is given or is the name of the variant. -/
theorem serializerTokens_inverse (context : Context) {candidate : Candidate} {item : Source.Enum}
    {held : Enumeration}
    (apart : (item.variants.map fun variant => variant.name.text).Nodup)
    (understood : (Lowering.enumeration candidate item).definition = some held)
    (accepted : held.problems = []) :
    ∃ code rest,
      Coding.read? context.runtime item.name (serializerTokens context held) = some (code, rest) ∧
      code.Inverse (item.variants.map fun variant => variant.name.text) ∧
      ∀ variant ∈ item.variants,
        code.alias? variant.name.text = Lowering.aliasOf? candidate.imports variant := by
  obtain ⟨distinct, variants, entries⟩ := table_of_understood apart understood accepted
  refine ⟨.ofTable held.table, queryValueTokens context held.name, ?_,
    variants ▸ Coding.ofTable_inverse distinct, ?_⟩
  · rw [← (Lowering.enumeration_members understood).1]
    exact Coding.read?_tokens context held
  · intro variant member
    have listed : (variant.name.text, Lowering.aliasOf? candidate.imports variant) ∈
        (held.table.map shown).map fun entry => (entry.1, some entry.2) := by
      rw [entries]
      exact List.mem_map.mpr ⟨variant, member, rfl⟩
    obtain ⟨⟨name, text⟩, inside, same⟩ := List.mem_map.mp listed
    obtain ⟨rfl, found⟩ := Prod.mk.inj same
    rw [← found]
    exact (Coding.ofTable_alias?_iff distinct _ text).mpr inside

/-- The enum `enum State { #[restgen::alias("open")] Open, Closed, r#Type }`. -/
def stateEnum : Source.Enum where
  attributes := []
  visibility := .inherited
  name := .plain "State"
  generics := ⟨[], false, none⟩
  variants := [
    ⟨[⟨false, ⟨false, [⟨.plain "restgen", .none⟩, ⟨.plain "alias", .none⟩]⟩,
      .list .paren [.string "open"]⟩], .plain "Open", .unit, none⟩,
    ⟨[], .plain "Closed", .unit, none⟩,
    ⟨[], ⟨"Type", true⟩, .unit, none⟩]
  comma := false

/-- The members that it has. -/
def stateMembers : Enumeration :=
  ⟨⟨[], "State"⟩, .plain "State",
    [⟨.plain "Open", "open"⟩, ⟨.plain "Closed", "Closed"⟩, ⟨⟨"Type", true⟩, "Type"⟩]⟩

theorem serializerTokens_inverse_state :
    (Lowering.enumeration ⟨⟨[], "State"⟩, .serializer, ⟨[], [], []⟩, .enum stateEnum⟩
        stateEnum).definition = some stateMembers ∧
      stateMembers.problems = [] ∧
      ∃ code rest, Coding.read? (.plain "restgen") (.plain "State")
          (serializerTokens ⟨.plain "restgen", {}⟩ stateMembers) = some (code, rest) ∧
        code.Inverse ["Open", "Closed", "Type"] := by
  have understood : (Lowering.enumeration
      ⟨⟨[], "State"⟩, .serializer, ⟨[], [], []⟩, .enum stateEnum⟩ stateEnum).definition =
        some stateMembers := rfl
  have accepted : stateMembers.problems = [] := by decide
  obtain ⟨code, rest, read, inverse, _⟩ :=
    serializerTokens_inverse ⟨.plain "restgen", {}⟩ (by decide) understood accepted
  exact ⟨understood, accepted, code, rest, read, inverse⟩

end Endpoint.Emission
