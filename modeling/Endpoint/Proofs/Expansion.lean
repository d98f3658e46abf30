import Endpoint.Expansion
import Endpoint.Lowering.Helper

/-!
Attributes inside a declaration are understood through the imports of its module, but its macro
takes them off by the path as written. Main statement: the two agree exactly where the written path
shows what the imports make of it.
-/

namespace Endpoint

open Source (Associated Attribute Attributes Enum Ident Input Method Path Trait Variant)

/-! ### Markers by name and by path -/

theorem Marker.ofName?_name (marker : Marker) : ofName? marker.name = some marker := by
  cases marker with
  | verb held => cases held <;> rfl
  | _ => rfl

theorem Marker.ofName?_eq_some_iff {name : String} {marker : Marker} :
    ofName? name = some marker ↔ name = marker.name := by
  constructor
  · intro found
    exact (beq_iff_eq.mp (List.find?_some (p := fun held : Marker => held.name == name) found)).symm
  · rintro rfl
    exact ofName?_name marker

theorem Marker.ofPath?_eq_some_iff {path : Names} {marker : Marker} :
    ofPath? path = some marker ↔
      path.getLast? = some marker.name ∧ path.dropLast ∈ vocabularyModules := by
  unfold ofPath?
  cases path.getLast? with
  | none => simp
  | some name => simp [ofName?_eq_some_iff, and_comm]

/-- A name alone is no path into the vocabulary. -/
theorem Marker.ofPath?_single (name : String) : ofPath? [name] = none := rfl

/-- A path that begins at the crate at hand leads nowhere in the vocabulary. -/
theorem Marker.ofPath?_crate (rest : Names) : ofPath? ("crate" :: rest) = none := by
  have apart : ("crate" :: rest).dropLast ∉ vocabularyModules := by
    cases rest with
    | nil => decide
    | cons name more => simp [vocabularyModules]
  refine Option.eq_none_iff_forall_ne_some.mpr fun marker leads => ?_
  exact apart (ofPath?_eq_some_iff.mp leads).2

/-! ### What paths stand for -/

namespace Imports

theorem climb_crate (module path : Names) : ∃ more, climb module path = "crate" :: more := by
  induction module, path using climb.induct with
  | case1 module rest ih =>
    rw [climb]
    exact ih
  | case2 module rest =>
    rw [climb]
    · exact ⟨_, rfl⟩
    · assumption

theorem anchor_crate (module : Names) {head : String} (rest : Names)
    (relative : ["crate", "self", "super"].contains head = true) :
    ∃ more, anchor module (head :: rest) = "crate" :: more := by
  have cases : head = "crate" ∨ head = "self" ∨ head = "super" := by simpa using relative
  rcases cases with rfl | rfl | rfl
  · exact ⟨rest, rfl⟩
  · exact ⟨_, rfl⟩
  · exact climb_crate module ("super" :: rest)

/-- What a path that does not begin at the root resolves to: what its first name was imported for,
something in the crate at hand, a name alone of a module imported as a whole, or itself. -/
theorem resolveNames_cases {imports : Imports} {segments resolved : Names}
    (found : imports.resolveNames false segments = some resolved) :
    ∃ head rest, segments = head :: rest ∧
      ((∃ full, imports.alias? head = some full ∧ resolved = full ++ rest) ∨
        imports.alias? head = none ∧
          ((∃ more, resolved = "crate" :: more) ∨
            (∃ module ∈ imports.globs, rest = [] ∧ resolved = module ++ [head]) ∨
            rest ≠ [] ∧ resolved = segments)) := by
  unfold resolveNames at found
  rw [if_neg Bool.false_ne_true] at found
  cases segments with
  | nil => cases found
  | cons head rest =>
    refine ⟨head, rest, rfl, ?_⟩
    dsimp only at found
    cases known : imports.alias? head with
    | some full =>
      rw [known] at found
      exact .inl ⟨full, rfl, (Option.some.inj found).symm⟩
    | none =>
      rw [known] at found
      refine .inr ⟨rfl, ?_⟩
      dsimp only at found
      split at found
      · rename_i relative
        obtain ⟨more, anchored⟩ := anchor_crate imports.module rest relative
        exact .inl ⟨more, (Option.some.inj found).symm.trans anchored⟩
      · split at found
        · rename_i alone
          obtain ⟨module, provides, rfl⟩ := Option.map_eq_some_iff.mp found
          exact .inr (.inl
            ⟨module, List.mem_of_find?_eq_some provides, List.isEmpty_iff.mp alone, rfl⟩)
        · rename_i longer
          have full := (Option.some.inj found).symm
          exact .inr (.inr ⟨fun nothing => longer (by simp [nothing]), full⟩)

/-- A path without imports for its first name resolves to nothing only if it is that name alone. -/
theorem resolveNames_eq_none {imports : Imports} {segments : Names}
    (lost : imports.resolveNames false segments = none) :
    segments.length ≤ 1 ∧ ∀ head, segments = [head] → imports.alias? head = none := by
  unfold resolveNames at lost
  rw [if_neg Bool.false_ne_true] at lost
  cases segments with
  | nil => simp
  | cons head rest =>
    dsimp only at lost
    split at lost
    · cases lost
    · rename_i unknown
      split at lost
      · cases lost
      · split at lost
        · rename_i alone
          rw [List.isEmpty_iff] at alone
          subst alone
          simpa using unknown
        · cases lost

/-- Whether names show what they stand for. If the first one is imported, then a name alone must be
imported as it is called, and a longer path must lead into the vocabulary as written. -/
def ShowsNames (imports : Imports) : Names → Prop
  | [] => True
  | head :: rest => ∀ full, imports.alias? head = some full →
    if rest = [] then full.getLast? = some head else (head :: rest).dropLast ∈ vocabularyModules

/-- Whether a path shows what it stands for. One that begins at the root always does. -/
def Shows (imports : Imports) (path : Path) : Prop :=
  path.leading = true ∨ imports.ShowsNames path.names

theorem shows_of_unknown {imports : Imports} {path : Path} {head : String} {rest : Names}
    (written : path.names = head :: rest) (unknown : imports.alias? head = none) :
    imports.Shows path := by
  refine .inr ?_
  rw [written]
  intro full known
  simp [unknown] at known

theorem shows_iff_of_known {imports : Imports} {path : Path} {head : String} {rest full : Names}
    (inside : path.leading = false) (written : path.names = head :: rest)
    (known : imports.alias? head = some full) :
    imports.Shows path ↔
      if rest = [] then full.getLast? = some head else path.names.dropLast ∈ vocabularyModules := by
  simp [Shows, inside, written, ShowsNames, known]

/-- A path into the vocabulary shows what it stands for under any imports. -/
theorem shows_of_leads {imports : Imports} {path : Path} {marker : Marker}
    (leads : Marker.ofPath? path.names = some marker) : imports.Shows path := by
  refine .inr ?_
  cases written : path.names with
  | nil => trivial
  | cons head rest =>
    intro full _
    rw [written] at leads
    have longer : rest ≠ [] := by
      rintro rfl
      simp [Marker.ofPath?_single] at leads
    rw [if_neg longer]
    exact (Marker.ofPath?_eq_some_iff.mp leads).2

end Imports

theorem Source.Path.names_of_ident? {path : Path} {name : Source.Ident}
    (alone : path.ident? = some name) : path.names = [name.written] := by
  unfold Path.ident? at alone
  split at alone
  · obtain rfl := Option.some.inj alone
    rfl
  · cases alone

/-! ### The two recognizers -/

namespace Expansion

open Lowering (Helper helper)

theorem helperMarker?_eq_some_iff {held : Attribute} {marker : Marker} :
    helperMarker? held = some marker ↔ marker.isHelper = true ∧
      (held.path.names = [marker.name] ∨ Marker.ofPath? held.path.names = some marker) := by
  simp only [helperMarker?, Option.filter_eq_some_iff]
  split
  · rename_i single alone
    simp [alone, Marker.ofPath?_single, Marker.ofName?_eq_some_iff, and_comm]
  · rename_i longer
    have other : held.path.names ≠ [marker.name] := longer marker.name
    simp [other, and_comm]

/-- An attribute is understood as a helper by the path that it resolves to, or as a name alone that
nothing resolves. -/
theorem helper_eq_marker {imports : Imports} {held : Attribute} {marker : Marker}
    (understood : helper imports held = .marker marker) :
    marker.isHelper = true ∧
      ((∃ resolved, imports.resolve held.path = some resolved ∧
          Marker.ofPath? resolved = some marker) ∨
        imports.resolve held.path = none ∧ held.path.names = [marker.name]) := by
  unfold helper at understood
  split at understood
  · rename_i resolved found
    split at understood
    · rename_i known leads
      split at understood
      · rename_i helps
        obtain rfl := Helper.marker.inj understood
        exact ⟨helps, .inl ⟨resolved, found, leads⟩⟩
      · cases understood
    · split at understood <;> cases understood
  · rename_i lost
    split at understood
    · rename_i known named
      obtain rfl := Helper.marker.inj understood
      obtain ⟨written, helps⟩ := Option.filter_eq_some_iff.mp named
      obtain ⟨name, alone, called⟩ := Option.bind_eq_some_iff.mp written
      rw [Path.names_of_ident? alone, Marker.ofName?_eq_some_iff.mp called]
      exact ⟨helps, .inr ⟨lost, rfl⟩⟩
    · cases understood

/-- What the macro sees in an attribute that is understood as a helper is the same helper, exactly
if the written path shows what it stands for. -/
theorem helperMarker?_iff_shows {imports : Imports} {held : Attribute} {marker : Marker}
    (understood : helper imports held = .marker marker) :
    helperMarker? held = some marker ↔ imports.Shows held.path := by
  obtain ⟨helps, ⟨resolved, found, leads⟩ | ⟨lost, alone⟩⟩ := helper_eq_marker understood
  · obtain ⟨last, inside⟩ := Marker.ofPath?_eq_some_iff.mp leads
    cases rooted : held.path.leading with
    | true =>
      rw [Imports.resolve, rooted] at found
      obtain rfl : held.path.names = resolved := Option.some.inj found
      exact iff_of_true (helperMarker?_eq_some_iff.mpr ⟨helps, .inr leads⟩) (.inl rooted)
    | false =>
      rw [Imports.resolve, rooted] at found
      obtain ⟨head, rest, written, ⟨full, known, rfl⟩ | ⟨unknown, origin⟩⟩ :=
        Imports.resolveNames_cases found
      · rw [Imports.shows_iff_of_known rooted written known, helperMarker?_eq_some_iff]
        by_cases alone : rest = []
        · subst alone
          rw [List.append_nil] at last
          simp [helps, written, Marker.ofPath?_single, last, eq_comm]
        · -- More is written behind it, so the path as written ends in the marker's name too.
          have ends : held.path.names.getLast? = some marker.name := by
            rw [written, ← last, List.getLast?_append, List.getLast?_cons_of_ne_nil alone,
              List.getLast?_eq_some_getLast alone, Option.some_or]
          have longer : held.path.names ≠ [marker.name] := by simp [written, alone]
          simp [helps, longer, alone, Marker.ofPath?_eq_some_iff, ends]
      · refine iff_of_true (helperMarker?_eq_some_iff.mpr ⟨helps, ?_⟩)
          (Imports.shows_of_unknown written unknown)
        rcases origin with ⟨more, rfl⟩ | ⟨module, -, rfl, rfl⟩ | ⟨-, rfl⟩
        · simp [Marker.ofPath?_crate] at leads
        · refine .inl ?_
          rw [written, Option.some.inj (List.getLast?_concat.symm.trans last)]
        · exact .inr leads
  · have unknown : imports.alias? marker.name = none := by
      unfold Imports.resolve at lost
      cases rooted : held.path.leading with
      | true => simp [rooted, Imports.resolveNames] at lost
      | false =>
        rw [rooted] at lost
        exact (Imports.resolveNames_eq_none lost).2 _ alone
    exact iff_of_true (helperMarker?_eq_some_iff.mpr ⟨helps, .inl alone⟩)
      (Imports.shows_of_unknown alone unknown)

/-! ### Attributes inside declarations -/

/-- An attribute inside a declaration, with what it is written on. -/
structure Inner where
  target : MarkerTarget
  held : Attribute

/-- The attributes on something, each with what it is written on. -/
def innerOn (target : MarkerTarget) (attributes : Attributes) : List Inner :=
  attributes.map (Inner.mk target)

def innerOfInput : Input → List Inner
  | .typed attributes _ _ => innerOn .parameter attributes
  | .receiver _ => []

def innerOfMethod (declared : Method) : List Inner :=
  innerOn .method declared.attributes ++ declared.signature.inputs.flatMap innerOfInput

def innerOfMember : Associated → List Inner
  | .method declared => innerOfMethod declared
  | _ => []

/-- The attributes on the methods of a trait and on their parameters. -/
def innerOfTrait (item : Trait) : List Inner := item.items.flatMap innerOfMember

def innerOfVariant (variant : Variant) : List Inner := innerOn .member variant.attributes

/-- The attributes on the variants of an enum. -/
def innerOfEnum (item : Enum) : List Inner := item.variants.flatMap innerOfVariant

/-- Whether the macro leaves the attribute where it is. -/
def Inner.stays (inner : Inner) : Bool := !isHelperFor inner.target inner.held

theorem innerOn_withoutHelpers (target : MarkerTarget) (attributes : Attributes) :
    innerOn target (withoutHelpers target attributes) =
      (innerOn target attributes).filter Inner.stays := by
  rw [innerOn, innerOn, List.filter_map]
  rfl

/-- What acts on each member of a list as a filter does so on all of them. -/
theorem flatMap_stays {α : Type} {inside : α → List Inner} {change : α → α}
    (each : ∀ member, inside (change member) = (inside member).filter Inner.stays)
    (members : List α) :
    (members.map change).flatMap inside = (members.flatMap inside).filter Inner.stays := by
  rw [List.flatMap_map, List.filter_flatMap]
  exact congrArg (List.flatMap · members) (funext each)

theorem innerOfInput_withoutHelpers (input : Input) :
    innerOfInput (inputWithoutHelpers input) = (innerOfInput input).filter Inner.stays := by
  cases input with
  | receiver _ => rfl
  | typed attributes _ _ => exact innerOn_withoutHelpers .parameter attributes

theorem innerOfMember_withoutHelpers (member : Associated) :
    innerOfMember (memberWithoutHelpers member) =
      (innerOfMember member).filter Inner.stays := by
  cases member with
  | method declared =>
    simp only [memberWithoutHelpers, innerOfMember, methodWithoutHelpers, innerOfMethod,
      List.filter_append, innerOn_withoutHelpers, flatMap_stays innerOfInput_withoutHelpers]
  | _ => rfl

/-- What is left in a trait is what stays. -/
theorem innerOfTrait_withoutHelpers (item : Trait) :
    innerOfTrait (traitWithoutHelpers item) = (innerOfTrait item).filter Inner.stays :=
  flatMap_stays innerOfMember_withoutHelpers item.items

/-- What is left in an enum is what stays. -/
theorem innerOfEnum_withoutHelpers (item : Enum) :
    innerOfEnum (enumWithoutHelpers item) = (innerOfEnum item).filter Inner.stays :=
  flatMap_stays (fun variant : Variant => innerOn_withoutHelpers .member variant.attributes)
    item.variants

/-- Whether lowering takes the attribute as a marker of what it is written on. -/
def Inner.Consumed (imports : Imports) (inner : Inner) : Prop :=
  ∃ marker, helper imports inner.held = .marker marker ∧ marker.target = inner.target

/-- Whether the path of the attribute hides from its macro what the imports make of it. A path that
is the name of another helper for the same place does not: it is taken off all the same. -/
def Inner.Hidden (imports : Imports) (inner : Inner) : Prop :=
  ¬imports.Shows inner.held.path ∧
    ∀ other : Marker, other.isHelper = true → other.target = inner.target →
      inner.held.path.names ≠ [other.name]

theorem Inner.stays_iff_hidden {imports : Imports} {inner : Inner}
    (consumed : inner.Consumed imports) : inner.stays = true ↔ inner.Hidden imports := by
  obtain ⟨marker, understood, fits⟩ := consumed
  have stays_iff : inner.stays = true ↔
      ∀ seen, helperMarker? inner.held = some seen → seen.target ≠ inner.target := by
    simp [Inner.stays, isHelperFor]
  rw [stays_iff]
  constructor
  · intro unseen
    refine ⟨fun shown => ?_, fun other helps same written => ?_⟩
    · exact unseen marker ((helperMarker?_iff_shows understood).mpr shown) fits
    · exact unseen other (helperMarker?_eq_some_iff.mpr ⟨helps, .inl written⟩) same
  · rintro ⟨hidden, nameless⟩ seen sees same
    obtain ⟨helps, written | leads⟩ := helperMarker?_eq_some_iff.mp sees
    · exact nameless seen helps same written
    · exact hidden (Imports.shows_of_leads leads)

/-- Lowering and the macros agree exactly on the attributes whose path shows what the imports make
of it: such an attribute is the same helper for both. What lowering takes of a declaration is gone
from it but for what is hidden. -/
theorem helpers_agree_iff (imports : Imports) :
    (∀ held marker, helper imports held = .marker marker →
      (helperMarker? held = some marker ↔ imports.Shows held.path)) ∧
    (∀ item, ∀ inner ∈ innerOfTrait item, inner.Consumed imports →
      (inner ∈ innerOfTrait (traitWithoutHelpers item) ↔ inner.Hidden imports)) ∧
    (∀ item, ∀ inner ∈ innerOfEnum item, inner.Consumed imports →
      (inner ∈ innerOfEnum (enumWithoutHelpers item) ↔ inner.Hidden imports)) := by
  refine ⟨fun held marker => helperMarker?_iff_shows, ?_, ?_⟩
  · intro item inner inside consumed
    rw [innerOfTrait_withoutHelpers, List.mem_filter, and_iff_right inside]
    exact inner.stays_iff_hidden consumed
  · intro item inner inside consumed
    rw [innerOfEnum_withoutHelpers, List.mem_filter, and_iff_right inside]
    exact inner.stays_iff_hidden consumed

/-- The imports of a module that says `use restgen::get as fetch;`. -/
def fetching : Imports :=
  .ofItems [] [.use [] .inherited false
    (.path (.plain "restgen") (.rename (.plain "get") (.plain "fetch")))]

/-- The attribute `#[name("argument")]`. -/
def called (name argument : String) : Attribute :=
  ⟨false, ⟨false, [⟨.plain name, .none⟩]⟩, .list .paren [.string argument]⟩

/-- The trait `trait Files { #[name("/files")] fn files(); }`. -/
def filesTrait (name : String) : Trait where
  attributes := []
  visibility := .inherited
  isUnsafe := false
  isAuto := false
  name := .plain "Files"
  generics := ⟨[], false, none⟩
  bounds := []
  plus := false
  items := [.method {
    attributes := [called name "/files"]
    visibility := .inherited
    isDefault := false
    signature := ⟨false, false, none, none, .plain "files", ⟨[], false, none⟩, [], false, none,
      none⟩
    body := none }]

/-- The enum `enum Kind { #[alias("small")] Small }`. -/
def kindEnum : Enum where
  attributes := []
  visibility := .inherited
  name := .plain "Kind"
  generics := ⟨[], false, none⟩
  variants := [⟨[called "alias" "small"], .plain "Small", .unit, none⟩]
  comma := false

theorem helpers_agree_iff_get :
    helper fetching (called "get" "/files") = .marker (.verb .get) ∧
      helperMarker? (called "get" "/files") = some (.verb .get) ∧
      (⟨.method, called "get" "/files"⟩ : Inner) ∉
        innerOfTrait (traitWithoutHelpers (filesTrait "get")) ∧
      (⟨.member, called "alias" "small"⟩ : Inner) ∉
        innerOfEnum (enumWithoutHelpers kindEnum) := by
  have verb : helper fetching (called "get" "/files") = .marker (.verb .get) := by decide
  have member : helper fetching (called "alias" "small") = .marker .alias := by decide
  have verbShown : fetching.Shows (called "get" "/files").path :=
    Imports.shows_of_unknown rfl (by decide)
  have aliasShown : fetching.Shows (called "alias" "small").path :=
    Imports.shows_of_unknown rfl (by decide)
  obtain ⟨same, ofTrait, ofEnum⟩ := helpers_agree_iff fetching
  refine ⟨verb, (same _ _ verb).mpr verbShown, fun left => ?_, fun left => ?_⟩
  · exact ((ofTrait (filesTrait "get") _ (.head _) ⟨_, verb, rfl⟩).mp left).1 verbShown
  · exact ((ofEnum kindEnum _ (.head _) ⟨_, member, rfl⟩).mp left).1 aliasShown

/-- Under another name a helper is a verb for lowering but nothing for the macro, which leaves it in
the trait. -/
theorem fetch_stays :
    helper fetching (called "fetch" "/files") = .marker (.verb .get) ∧
      helperMarker? (called "fetch" "/files") = none ∧
      (⟨.method, called "fetch" "/files"⟩ : Inner) ∈
        innerOfTrait (traitWithoutHelpers (filesTrait "fetch")) :=
  ⟨by decide, by decide, .head _⟩

end Expansion

end Endpoint
