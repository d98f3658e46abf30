import Mathlib
import Endpoint.Proofs.Expansion
import Endpoint.Proofs.Outcome
import Endpoint.Proofs.Source.Rereading.Plain

/-!
A marker that stands on a trait or an enum takes the helper markers inside it off and changes
nothing else. Main statement: what is left of an item is the item but for exactly these attributes,
and the marker leaves that as it is, if the parts that it does not look at are read again.
-/

namespace Endpoint.Expansion

open Source (Associated Attribute Attributes Delimiter Enum Grammar Input Method Parser Token Tokens
  Trait Variant)
open Source.Grammar

variable {target : MarkerTarget} {attributes : Attributes}

/-! ### What is gone and what is kept -/

/-- The one attributes are the others, in order, without exactly the helper markers for such a
place. -/
inductive Stripped (target : MarkerTarget) : Attributes → Attributes → Prop
  | nil : Stripped target [] []
  | gone {held : Attribute} {left given : Attributes} {marker : Marker}
      (sees : helperMarker? held = some marker) (fits : marker.target = target)
      (others : Stripped target left given) : Stripped target left (held :: given)
  | kept {held : Attribute} {left given : Attributes}
      (other : ∀ marker, helperMarker? held = some marker → marker.target ≠ target)
      (others : Stripped target left given) : Stripped target (held :: left) (held :: given)

theorem isHelperFor_iff {held : Attribute} :
    isHelperFor target held = true ↔
      ∃ marker, helperMarker? held = some marker ∧ marker.target = target := by
  simp [isHelperFor]

theorem stripped_iff {left given : Attributes} :
    Stripped target left given ↔ left = withoutHelpers target given := by
  constructor
  · intro stripped
    induction stripped with
    | nil => rfl
    | gone sees fits _ ih =>
      have helps := isHelperFor_iff.mpr ⟨_, sees, fits⟩
      simpa [withoutHelpers, helps] using ih
    | kept other _ ih =>
      have stays : isHelperFor target _ = false := Bool.eq_false_iff.mpr fun helps => by
        obtain ⟨marker, sees, fits⟩ := isHelperFor_iff.mp helps
        exact other marker sees fits
      simpa [withoutHelpers, stays] using ih
  · rintro rfl
    induction given with
    | nil => exact .nil
    | cons held given ih =>
      by_cases helps : isHelperFor target held = true
      · obtain ⟨marker, sees, fits⟩ := isHelperFor_iff.mp helps
        simpa [withoutHelpers, helps] using Stripped.gone sees fits ih
      · have stays (marker : Marker) (sees : helperMarker? held = some marker) :
            marker.target ≠ target := fun fits => helps (isHelperFor_iff.mpr ⟨marker, sees, fits⟩)
        simpa [withoutHelpers, helps] using Stripped.kept stays ih

/-- Typed parameters lose their markers; receivers lose nothing. -/
inductive InputFrame : Input → Input → Prop
  | receiver (held : Source.Receiver) : InputFrame (.receiver held) (.receiver held)
  | typed {left given : Attributes} (stripped : Stripped .parameter left given)
      (pattern : Source.Pattern) (ty : Source.Ty) :
      InputFrame (.typed left pattern ty) (.typed given pattern ty)

/-- A method loses its markers and those of its parameters, and is the same otherwise. -/
structure MethodFrame (left given : Method) : Prop where
  attributes : Stripped .method left.attributes given.attributes
  inputs : List.Forall₂ InputFrame left.signature.inputs given.signature.inputs
  others : left = { given with
    attributes := left.attributes
    signature := { given.signature with inputs := left.signature.inputs } }

/-- Methods lose markers; all other members stay as they are. -/
inductive MemberFrame : Associated → Associated → Prop
  | method {left given : Method} (frame : MethodFrame left given) :
      MemberFrame (.method left) (.method given)
  | other {member : Associated} (noMethod : ∀ declared, member ≠ .method declared) :
      MemberFrame member member

/-- The members of a trait lose their markers, one by one, and the rest of it is the same. -/
structure TraitFrame (left given : Trait) : Prop where
  items : List.Forall₂ MemberFrame left.items given.items
  others : left = { given with items := left.items }

/-- A variant loses its markers and is the same otherwise. -/
structure VariantFrame (left given : Variant) : Prop where
  attributes : Stripped .member left.attributes given.attributes
  others : left = { given with attributes := left.attributes }

/-- The variants of an enum lose their markers, one by one, and the rest of it is the same. -/
structure EnumFrame (left given : Enum) : Prop where
  variants : List.Forall₂ VariantFrame left.variants given.variants
  others : left = { given with variants := left.variants }

theorem forall₂_iff_map {α : Type} {frame : α → α → Prop} {change : α → α}
    (each : ∀ left given, frame left given ↔ left = change given) {left given : List α} :
    List.Forall₂ frame left given ↔ left = given.map change := by
  induction given generalizing left with
  | nil => rw [List.forall₂_nil_right_iff, List.map_nil]
  | cons first given ih => simp [List.forall₂_cons_right_iff, each, ih]

theorem inputFrame_iff (left given : Input) :
    InputFrame left given ↔ left = inputWithoutHelpers given := by
  constructor
  · rintro (held | ⟨stripped, pattern, ty⟩)
    · rfl
    · rw [inputWithoutHelpers, stripped_iff.mp stripped]
  · rintro rfl
    cases given with
    | receiver held => exact .receiver held
    | typed attributes pattern ty => exact .typed (stripped_iff.mpr rfl) pattern ty

theorem methodFrame_iff (left given : Method) :
    MethodFrame left given ↔ left = methodWithoutHelpers given := by
  constructor
  · rintro ⟨attributes, inputs, others⟩
    rw [others, stripped_iff.mp attributes, (forall₂_iff_map inputFrame_iff).mp inputs]
    rfl
  · rintro rfl
    exact ⟨stripped_iff.mpr rfl, (forall₂_iff_map inputFrame_iff).mpr rfl, rfl⟩

theorem memberFrame_iff (left given : Associated) :
    MemberFrame left given ↔ left = memberWithoutHelpers given := by
  constructor
  · rintro (frame | noMethod)
    · rw [memberWithoutHelpers, (methodFrame_iff _ _).mp frame]
    · cases left with
      | method declared => exact absurd rfl (noMethod declared)
      | _ => rfl
  · rintro rfl
    cases given with
    | method declared => exact .method ((methodFrame_iff _ _).mpr rfl)
    | _ => exact .other (by simp [memberWithoutHelpers])

theorem traitFrame_iff (left given : Trait) :
    TraitFrame left given ↔ left = traitWithoutHelpers given := by
  constructor
  · rintro ⟨items, others⟩
    rw [others, (forall₂_iff_map memberFrame_iff).mp items]
    rfl
  · rintro rfl
    exact ⟨(forall₂_iff_map memberFrame_iff).mpr rfl, rfl⟩

theorem variantFrame_iff (left given : Variant) :
    VariantFrame left given ↔ left = variantWithoutHelpers given := by
  constructor
  · rintro ⟨attributes, others⟩
    rw [others, stripped_iff.mp attributes]
    rfl
  · rintro rfl
    exact ⟨stripped_iff.mpr rfl, rfl⟩

theorem enumFrame_iff (left given : Enum) :
    EnumFrame left given ↔ left = enumWithoutHelpers given := by
  constructor
  · rintro ⟨variants, others⟩
    rw [others, (forall₂_iff_map variantFrame_iff).mp variants]
    rfl
  · rintro rfl
    exact ⟨(forall₂_iff_map variantFrame_iff).mpr rfl, rfl⟩

/-! ### Tokens that are cut out -/

/-- The one row of tokens is the other with whole helper markers cut out of it, at any depth. -/
inductive Cut : Tokens → Tokens → Prop
  | nil : Cut [] []
  | token (token : Token) {left given : Tokens} (others : Cut left given) :
      Cut (token :: left) (token :: given)
  | group (delimiter : Delimiter) {inner within left given : Tokens} (inside : Cut inner within)
      (others : Cut left given) :
      Cut (.group delimiter inner :: left) (.group delimiter within :: given)
  | helper {held : Attribute} {marker : Marker} (sees : helperMarker? held = some marker)
      {left given : Tokens} (others : Cut left given) : Cut left (held.tokens ++ given)

namespace Cut

theorem refl (tokens : Tokens) : Cut tokens tokens := by
  induction tokens with
  | nil => exact .nil
  | cons token _ ih => exact .token token ih

theorem append {left given more others : Tokens} (first : Cut left given)
    (second : Cut more others) :
    Cut (left ++ more) (given ++ others) := by
  induction first with
  | nil => exact second
  | token token _ ih => exact .token token ih
  | group delimiter inside _ _ ih => exact .group delimiter inside ih
  | helper sees _ ih =>
    rw [List.append_assoc]
    exact .helper sees ih

theorem flatten {left given : List Tokens} (rows : List.Forall₂ Cut left given) :
    Cut left.flatten given.flatten := by
  induction rows with
  | nil => exact .nil
  | cons first _ ih => exact first.append ih

theorem withCommas {left given : List Tokens} (rows : List.Forall₂ Cut left given) (comma : Bool) :
    Cut (Source.withCommas comma left) (Source.withCommas comma given) := by
  induction rows with
  | nil => exact refl _
  | @cons row other rows others first rest ih =>
    by_cases more : comma = true ∨ others ≠ []
    · have same : comma = true ∨ rows ≠ [] := more.imp_right fun some none => by
        subst none
        exact some (List.forall₂_nil_left_iff.mp rest)
      rw [withCommas_cons same, withCommas_cons more]
      exact first.append (.token _ ih)
    · obtain ⟨rfl, rfl⟩ : comma = false ∧ others = [] := by simpa using more
      obtain rfl := List.forall₂_nil_right_iff.mp rest
      rw [withCommas_last, withCommas_last]
      exact first

end Cut

/-- Rows are cut one by one. -/
theorem cut_rows {α : Type} {write : α → Tokens} {change : α → α}
    (each : ∀ member, Cut (write (change member)) (write member)) (members : List α) :
    List.Forall₂ Cut ((members.map change).map write) (members.map write) := by
  induction members with
  | nil => exact .nil
  | cons member _ ih => exact .cons (each member) ih

theorem cut_side (inner : Bool) (target : MarkerTarget) (attributes : Attributes) :
    Cut (sideTokens inner (withoutHelpers target attributes)) (sideTokens inner attributes) := by
  induction attributes with
  | nil => exact .nil
  | cons held others ih =>
    have row (others : Attributes) : sideTokens inner (held :: others) =
        (if held.inner = inner then held.tokens else []) ++ sideTokens inner others := by
      by_cases placed : held.inner = inner <;> simp [sideTokens, placed]
    by_cases helps : isHelperFor target held = true
    · obtain ⟨marker, sees, -⟩ := isHelperFor_iff.mp helps
      have gone : withoutHelpers target (held :: others) = withoutHelpers target others := by
        simp [withoutHelpers, helps]
      rw [gone, row]
      split
      · exact .helper sees ih
      · exact ih
    · have kept : withoutHelpers target (held :: others) =
          held :: withoutHelpers target others := by simp [withoutHelpers, helps]
      rw [kept, row, row]
      exact (Cut.refl _).append ih

theorem cut_outer (target : MarkerTarget) (attributes : Attributes) :
    Cut (withoutHelpers target attributes).outer attributes.outer := by
  rw [outer_eq_side, outer_eq_side]
  exact cut_side false target attributes

theorem cut_inner (target : MarkerTarget) (attributes : Attributes) :
    Cut (withoutHelpers target attributes).inner attributes.inner := by
  rw [inner_eq_side, inner_eq_side]
  exact cut_side true target attributes

theorem cut_input (input : Input) : Cut (inputWithoutHelpers input).tokens input.tokens := by
  cases input with
  | receiver held => exact .refl _
  | typed attributes pattern ty =>
    rw [inputWithoutHelpers, Input.tokens, Input.tokens, List.append_assoc, List.append_assoc]
    exact (cut_outer _ _).append (.refl _)

theorem cut_signature (held : Source.Signature) :
    Cut { held with inputs := held.inputs.map inputWithoutHelpers }.tokens held.tokens := by
  rw [signature_tokens, signature_tokens held]
  refine (Cut.refl _).append (.group _ ?_ (.refl _))
  exact (Cut.withCommas (cut_rows cut_input _) _).append (.refl _)

theorem cut_method (declared : Method) :
    Cut (methodWithoutHelpers declared).tokens declared.tokens := by
  obtain ⟨attributes, visibility, isDefault, signature, body⟩ := declared
  have front := (((cut_outer .method attributes).append (.refl visibility.tokens)).append
    (.refl (Source.keywordIf isDefault "default"))).append (cut_signature signature)
  cases body with
  | none => exact front.append (.refl _)
  | some body =>
    exact front.append (.group .brace ((cut_inner .method attributes).append (.refl _)) .nil)

theorem cut_member (member : Associated) :
    Cut (memberWithoutHelpers member).tokens member.tokens := by
  cases member with
  | method declared => exact cut_method declared
  | _ => exact .refl _

theorem cut_trait (item : Trait) : Cut (traitWithoutHelpers item).tokens item.tokens := by
  rw [trait_tokens, trait_tokens item]
  refine (Cut.refl _).append ((Cut.refl _).append (.group _ ?_ .nil))
  exact (Cut.refl _).append (Cut.flatten (cut_rows cut_member _))

theorem cut_variant (variant : Variant) :
    Cut (variantWithoutHelpers variant).tokens variant.tokens := by
  rw [variant_tokens, variant_tokens variant]
  exact (cut_outer _ _).append (.refl _)

theorem cut_enum (item : Enum) : Cut (enumWithoutHelpers item).tokens item.tokens := by
  rw [enum_tokens, enum_tokens item]
  refine (Cut.refl _).append ((Cut.refl _).append (.group _ ?_ .nil))
  exact Cut.withCommas (cut_rows cut_variant _) _

/-! ### Once more -/

/-- What an attribute is a helper for hangs on its path only. -/
theorem isHelperFor_congr {held other : Attribute} (same : held.path = other.path) :
    isHelperFor target held = isHelperFor target other := by
  rw [isHelperFor, isHelperFor, helperMarker?, helperMarker?, same]

/-- Where helper markers were taken off, none are found in what has no other paths. -/
theorem withoutHelpers_again {again : Attributes}
    (among : AreAmong again (withoutHelpers target attributes)) :
    withoutHelpers target again = again := by
  refine List.filter_eq_self.mpr fun held member => ?_
  obtain ⟨other, inside, same⟩ := among held member
  rw [isHelperFor_congr same]
  exact (List.mem_filter.mp inside).2

/-- What is like something that was changed is left as it is by the same change. -/
theorem map_again {α : Type} {alike : α → α → Prop} {change : α → α}
    (each : ∀ again member, alike again (change member) → change again = again)
    {again members : List α} (same : List.Forall₂ alike again (members.map change)) :
    again.map change = again := by
  have still (value : α) (inside : value ∈ again) : change value = id value := by
    obtain ⟨changed, member, like⟩ := exists_related same value inside
    obtain ⟨member, -, rfl⟩ := List.mem_map.mp member
    exact each _ _ like
  rw [List.map_congr_left still, List.map_id]

theorem inputWithoutHelpers_again (again input : Input)
    (same : InputAgain again (inputWithoutHelpers input)) : inputWithoutHelpers again = again := by
  cases again with
  | receiver held => rfl
  | typed attributes pattern ty =>
    cases input with
    | receiver held => cases same.kind
    | typed given _ _ =>
      have kept : withoutHelpers .parameter attributes = attributes :=
        withoutHelpers_again same.among
      rw [inputWithoutHelpers, kept]

theorem methodWithoutHelpers_again (again declared : Method)
    (same : MethodAgain again (methodWithoutHelpers declared)) :
    methodWithoutHelpers again = again := by
  rw [methodWithoutHelpers, withoutHelpers_again same.among,
    map_again inputWithoutHelpers_again same.inputs]

theorem memberWithoutHelpers_again (again member : Associated)
    (same : MemberAgain again (memberWithoutHelpers member)) :
    memberWithoutHelpers again = again := by
  cases again with
  | method again =>
    cases member with
    | method declared =>
      obtain same | noMethod := same
      · rw [memberWithoutHelpers, methodWithoutHelpers_again again declared same]
      · exact absurd rfl (noMethod again)
    | _ =>
      obtain _ | noMethod := same
      exact absurd rfl (noMethod again)
  | _ => rfl

theorem variantWithoutHelpers_again (again variant : Variant)
    (same : VariantAgain again (variantWithoutHelpers variant)) :
    variantWithoutHelpers again = again := by
  rw [variantWithoutHelpers, withoutHelpers_again same.among]

/-! ### Items that are accepted -/

theorem ofTrait_eq_ok_iff {arguments item : Tokens} {held : Trait} :
    ofTrait arguments item = .ok held ↔
      (∃ name, clientArguments arguments = .ok name) ∧ item.parse Trait.rule = .ok held := by
  unfold ofTrait
  cases clientArguments arguments with
  | error text => exact iff_of_false (fun read => by cases read) (by simp)
  | ok name =>
    cases item.parse Trait.rule with
    | error fault => exact iff_of_false (fun read => by cases read) (by simp)
    | ok found =>
      constructor
      · rintro ⟨⟩
        exact ⟨⟨name, rfl⟩, rfl⟩
      · rintro ⟨-, ⟨⟩⟩
        rfl

theorem ofEnum_eq_ok_iff {arguments item : Tokens} {held : Enum} :
    ofEnum arguments item = .ok held ↔
      arguments = [] ∧ item.parse Enum.rule = .ok held ∧
        held.variants.forM (fun variant => checkAliases variant.attributes) = .ok () := by
  unfold ofEnum
  cases arguments with
  | cons token more => exact iff_of_false (fun read => by cases read) (by simp)
  | nil =>
    rw [and_iff_right rfl]
    cases item.parse Enum.rule with
    | error fault => exact iff_of_false (fun read => by cases read) (by simp)
    | ok found =>
      let checks := found.variants.forM fun variant => checkAliases variant.attributes
      have sequence : checks >>= (fun _ => .ok found) = .ok held ↔ _ := bind_eq_ok
      refine sequence.trans ?_
      constructor
      · rintro ⟨_, checked, ⟨⟩⟩
        exact ⟨rfl, checked⟩
      · rintro ⟨⟨⟩, checked⟩
        exact ⟨(), checked, rfl⟩

theorem client_eq {arguments item : Tokens} {held : Trait}
    (read : ofTrait arguments item = .ok held) :
    client arguments item = (traitWithoutHelpers held).tokens := by
  rw [client, read]
  rfl

theorem serializer_eq {arguments item : Tokens} {held : Enum}
    (read : ofEnum arguments item = .ok held) :
    serializer arguments item = (enumWithoutHelpers held).tokens := by
  rw [serializer, read]
  rfl

theorem holds_inputsWithoutHelpers {first : Bool} {inputs : List Input}
    (holds : HoldsInputs first inputs) : HoldsInputs first (inputs.map inputWithoutHelpers) := by
  have kind (input : Input) : (inputWithoutHelpers input).isReceiver = input.isReceiver := by
    cases input <;> rfl
  have paths {input : Input} (paths : ∀ held ∈ input.attributes, AttributePath held.path) :
      ∀ held ∈ (inputWithoutHelpers input).attributes, AttributePath held.path := by
    cases input with
    | receiver _ => exact paths
    | typed => exact fun held kept => paths held (List.mem_of_mem_filter kept)
  induction inputs generalizing first with
  | nil => exact holdsInputs_nil first
  | cons input inputs ih =>
    obtain ⟨leads, here, others⟩ := holdsInputs_cons_iff.mp holds
    exact holdsInputs_cons_iff.mpr ⟨kind input ▸ leads, paths here, ih others⟩

/-- What is left of a trait is such as traits are. -/
theorem holds_traitWithoutHelpers {item : Trait} (holds : HoldsTrait item) :
    HoldsTrait (traitWithoutHelpers item) := by
  refine ⟨holds.paths, fun _ changed => ?_⟩
  obtain ⟨member, inside, rfl⟩ := List.mem_map.mp changed
  rintro declared same
  cases member with
  | method given =>
    cases same
    obtain ⟨shown, plain, paths, inputs⟩ := holds.members _ inside given rfl
    refine ⟨shown, plain, fun held kept => paths held (List.mem_of_mem_filter kept), ?_⟩
    exact holds_inputsWithoutHelpers inputs
  | _ => cases same

theorem holds_enumWithoutHelpers {item : Enum} (holds : HoldsEnum item) :
    HoldsEnum (enumWithoutHelpers item) := by
  refine ⟨holds.paths, fun _ changed => ?_⟩
  obtain ⟨variant, inside, rfl⟩ := List.mem_map.mp changed
  exact fun held kept => holds.variants variant inside held (List.mem_of_mem_filter kept)

/-- Variants that no helper markers can be taken off have no aliases to check. -/
theorem checkAliases_none {variants : List Variant}
    (still : variants.map variantWithoutHelpers = variants) :
    variants.forM (fun variant => checkAliases variant.attributes) = .ok () := by
  refine forM_eq_ok_iff.mpr fun variant inside => forM_eq_ok_iff.mpr fun held member => ?_
  have bare : variantWithoutHelpers variant = variant :=
    List.map_inj_left.mp (still.trans (List.map_id _).symm) variant inside
  have kept : held ∈ withoutHelpers .member variant.attributes := by
    rwa [← bare] at member
  have noAlias : helperMarker? held ≠ some .alias := fun sees => by
    have helps : isHelperFor .member held = true := isHelperFor_iff.mpr ⟨.alias, sees, rfl⟩
    have stays := (List.mem_filter.mp kept).2
    simp [helps] at stays
  rw [if_neg (by simpa using noAlias)]

/-- What is left of a trait is accepted, and left as it is. -/
theorem client_again {arguments item : Tokens} {held : Trait}
    (read : ofTrait arguments item = .ok held)
    (reads : ReadsTrait (.covering (traitWithoutHelpers held).tokens) (traitWithoutHelpers held)) :
    (∃ again, ofTrait arguments (traitWithoutHelpers held).tokens = .ok again) ∧
      client arguments (traitWithoutHelpers held).tokens = (traitWithoutHelpers held).tokens := by
  obtain ⟨named, parsed⟩ := ofTrait_eq_ok_iff.mp read
  have holds : HoldsTrait held := trait_holds _ _ _ _ _ (Parser.whole_ok_iff.mp parsed)
  obtain ⟨again, ran, written, same⟩ :=
    reads_trait reads (holds_traitWithoutHelpers holds) [] none rfl
  rw [List.append_nil] at ran
  have readAgain : ofTrait arguments (traitWithoutHelpers held).tokens = .ok again :=
    ofTrait_eq_ok_iff.mpr ⟨named, Parser.whole_ok_iff.mpr ran⟩
  have still : traitWithoutHelpers again = again := by
    rw [traitWithoutHelpers, map_again memberWithoutHelpers_again same]
  refine ⟨⟨again, readAgain⟩, ?_⟩
  rw [client_eq readAgain, still, written]

theorem serializer_again {arguments item : Tokens} {held : Enum}
    (read : ofEnum arguments item = .ok held)
    (reads : ReadsEnum (.covering (enumWithoutHelpers held).tokens) (enumWithoutHelpers held)) :
    (∃ again, ofEnum arguments (enumWithoutHelpers held).tokens = .ok again) ∧
      serializer arguments (enumWithoutHelpers held).tokens = (enumWithoutHelpers held).tokens := by
  obtain ⟨bare, parsed, -⟩ := ofEnum_eq_ok_iff.mp read
  have holds : HoldsEnum held := enum_holds _ _ _ _ _ (Parser.whole_ok_iff.mp parsed)
  obtain ⟨again, ran, written, same⟩ :=
    reads_enum reads (holds_enumWithoutHelpers holds) [] none rfl
  rw [List.append_nil] at ran
  have still : again.variants.map variantWithoutHelpers = again.variants :=
    map_again variantWithoutHelpers_again same
  have readAgain : ofEnum arguments (enumWithoutHelpers held).tokens = .ok again :=
    ofEnum_eq_ok_iff.mpr ⟨bare, Parser.whole_ok_iff.mpr ran, checkAliases_none still⟩
  refine ⟨⟨again, readAgain⟩, ?_⟩
  rw [serializer_eq readAgain, enumWithoutHelpers, still, written]

/-- What is left of a plain trait is plain. -/
theorem plainTrait_withoutHelpers {item : Trait} (plain : PlainTrait item) :
    PlainTrait (traitWithoutHelpers item) := by
  refine { plain with members := fun _ changed => ?_ }
  obtain ⟨member, inside, rfl⟩ := List.mem_map.mp changed
  obtain ⟨declared, rfl, method⟩ := plain.members member inside
  refine ⟨methodWithoutHelpers declared, rfl, ?_, ?_, method.body⟩
  · exact fun held kept => method.values held (List.mem_of_mem_filter kept)
  · refine { method.signature with inputs := fun _ changed => ?_ }
    obtain ⟨input, inside, rfl⟩ := List.mem_map.mp changed
    obtain ⟨plainInput, values⟩ := method.signature.inputs input inside
    cases plainInput with
    | receiver typed => exact ⟨.receiver typed, values⟩
    | typed attributes mutable isName plain =>
      exact ⟨.typed _ mutable isName plain, fun held kept => values held (List.mem_of_mem_filter kept)⟩

theorem plainEnum_withoutHelpers {item : Enum} (plain : PlainEnum item) :
    PlainEnum (enumWithoutHelpers item) := by
  refine { plain with variants := fun _ changed => ?_ }
  obtain ⟨variant, inside, rfl⟩ := List.mem_map.mp changed
  have each := plain.variants variant inside
  exact { each with values := fun held kept => each.values held (List.mem_of_mem_filter kept) }

/-! ### Items without helper markers -/

theorem withoutHelpers_of_stays
    (stay : ∀ inner ∈ innerOn target attributes, inner.stays = true) :
    withoutHelpers target attributes = attributes :=
  List.filter_eq_self.mpr fun held member =>
    stay ⟨target, held⟩ (List.mem_map.mpr ⟨held, member, rfl⟩)

/-- What leaves members alone in which every marker stays leaves a list of such members alone. -/
theorem map_of_stays {α : Type} {inside : α → List Inner} {change : α → α}
    (each : ∀ member, (∀ inner ∈ inside member, inner.stays = true) → change member = member)
    {members : List α} (stay : ∀ inner ∈ members.flatMap inside, inner.stays = true) :
    members.map change = members := by
  have still (member : α) (here : member ∈ members) : change member = id member :=
    each member fun inner within => stay inner (List.mem_flatMap.mpr ⟨member, here, within⟩)
  rw [List.map_congr_left still, List.map_id]

theorem inputWithoutHelpers_of_stays (input : Input)
    (stay : ∀ inner ∈ innerOfInput input, inner.stays = true) :
    inputWithoutHelpers input = input := by
  cases input with
  | receiver _ => rfl
  | typed attributes pattern ty => rw [inputWithoutHelpers, withoutHelpers_of_stays stay]

theorem memberWithoutHelpers_of_stays (member : Associated)
    (stay : ∀ inner ∈ innerOfMember member, inner.stays = true) :
    memberWithoutHelpers member = member := by
  cases member with
  | method declared =>
    obtain ⟨onMethod, onInputs⟩ := List.forall_mem_append.mp stay
    rw [memberWithoutHelpers, methodWithoutHelpers, withoutHelpers_of_stays onMethod,
      map_of_stays inputWithoutHelpers_of_stays onInputs]
  | _ => rfl

theorem traitWithoutHelpers_of_stays {item : Trait}
    (stay : ∀ inner ∈ innerOfTrait item, inner.stays = true) : traitWithoutHelpers item = item := by
  rw [traitWithoutHelpers, map_of_stays memberWithoutHelpers_of_stays stay]

theorem enumWithoutHelpers_of_stays {item : Enum}
    (stay : ∀ inner ∈ innerOfEnum item, inner.stays = true) : enumWithoutHelpers item = item := by
  have still (variant : Variant) (stay : ∀ inner ∈ innerOfVariant variant, inner.stays = true) :
      variantWithoutHelpers variant = variant := by
    rw [variantWithoutHelpers, withoutHelpers_of_stays stay]
  rw [enumWithoutHelpers, map_of_stays still stay]

/-! ### What the markers leave -/

/-- The type `Result<Vec<File>, Error>`. -/
def listed : Source.Ty :=
  .path ⟨false, [⟨.plain "Result", .angle false ([
    .path ⟨false, [⟨.plain "Vec", .angle false ([nameTy (.plain "File")].map .type) false⟩]⟩,
    nameTy (.plain "Error")].map .type) false⟩]⟩

/-- The method `fn files(&self, #[query("q")] name: &str) -> Result<Vec<File>, Error>`, under the
attributes `#[doc = "Lists."]`, `#[get("/files")]` and `#[query("p")]`. -/
def filesMethod : Method where
  attributes := [
    ⟨false, .ofIdent (.plain "doc"), .value ⟨[.string "Lists."], [.string "Lists."]⟩⟩,
    called "get" "/files", called "query" "p"]
  visibility := .inherited
  isDefault := false
  signature := ⟨false, false, none, none, .plain "files", ⟨[], false, none⟩,
    [.receiver ⟨[], some none, false, none⟩,
      .typed [called "query" "q"] (.ident false false (.plain "name") none)
        (.reference none false (nameTy (.plain "str")))],
    false, none, some listed⟩
  body := none

/-- The statement `self.names.len()`. -/
def lengthStmts : List Source.Stmt :=
  [.expression (.methodCall (.field (.path ⟨none, namesPath [.plain "self"]⟩)
    (.named (.plain "names"))) (.plain "len") .none [] false) false]

/-- The method `fn size(&self) -> usize { self.names.len() }`. -/
def sizeMethod : Method where
  attributes := []
  visibility := .inherited
  isDefault := false
  signature := ⟨false, false, none, none, .plain "size", ⟨[], false, none⟩,
    [.receiver ⟨[], some none, false, none⟩], false, none, some (nameTy (.plain "usize"))⟩
  body := some ⟨Source.stmtRows lengthStmts, Source.stmtRows lengthStmts⟩

/-- A trait with these two methods. -/
def listingTrait : Trait where
  attributes := []
  visibility := .inherited
  isUnsafe := false
  isAuto := false
  name := .plain "Files"
  generics := ⟨[], false, none⟩
  bounds := []
  plus := false
  items := [.method filesMethod, .method sizeMethod]

theorem plain_listed : PlainTy listed := by
  have list : PlainTy
      (.path ⟨false, [⟨.plain "Vec", .angle false ([nameTy (.plain "File")].map .type) false⟩]⟩) :=
    .angle (by decide) (by simp) fun ty member => by
      obtain rfl := List.mem_singleton.mp member
      exact .name (by decide)
  refine .angle (by decide) (by simp) fun ty member => ?_
  rcases List.mem_cons.mp member with rfl | member
  · exact list
  · obtain rfl := List.mem_singleton.mp member
    exact .name (by decide)

theorem plain_filesMethod : PlainMethod filesMethod := by
  refine ⟨?_, ⟨rfl, rfl, rfl, by decide, ⟨by simp [filesMethod], .nil, rfl, rfl⟩, ?_, rfl, ?_⟩,
    by simp [filesMethod]⟩
  · rintro _ (_ | ⟨_, _ | ⟨_, _ | ⟨_, ⟨⟩⟩⟩⟩) value ⟨⟩
    exact ⟨_, rfl⟩
  · rintro _ (_ | ⟨_, _ | ⟨_, ⟨⟩⟩⟩)
    · exact ⟨.receiver (by simp), by simp [Input.attributes]⟩
    · refine ⟨.typed _ false (by decide) (.reference none false (.name (by decide)) rfl), ?_⟩
      rintro _ (_ | ⟨_, ⟨⟩⟩) value ⟨⟩
  · rintro _ ⟨⟩
    exact plain_listed

theorem plain_sizeMethod : PlainMethod sizeMethod := by
  refine ⟨by simp [sizeMethod], ⟨rfl, rfl, rfl, by decide,
    ⟨by simp [sizeMethod], .nil, rfl, rfl⟩, ?_, rfl, ?_⟩, ?_⟩
  · rintro _ (_ | ⟨_, ⟨⟩⟩)
    exact ⟨.receiver (by simp), by simp [Input.attributes]⟩
  · rintro _ ⟨⟩
    exact .name (by decide)
  · rintro _ ⟨⟩
    have self : PlainExpr (.path ⟨none, namesPath [.plain "self"]⟩) :=
      .names ⟨by simp, by decide, by decide⟩
    exact ⟨lengthStmts, rfl,
      .last (.methodCall (.field self rfl (by decide)) rfl (by decide) (by simp))⟩

theorem plain_listingTrait : PlainTrait listingTrait where
  values := by simp [listingTrait]
  visibility := .inherited
  notAuto := rfl
  isName := by decide
  generics := ⟨by simp [listingTrait], .nil, rfl, rfl⟩
  bounds := by simp [listingTrait]
  noPlus := rfl
  members := by
    rintro _ (_ | ⟨_, _ | ⟨_, ⟨⟩⟩⟩)
    · exact ⟨filesMethod, rfl, plain_filesMethod⟩
    · exact ⟨sizeMethod, rfl, plain_sizeMethod⟩

theorem plain_kindEnum : PlainEnum kindEnum where
  values := by simp [kindEnum]
  visibility := .inherited
  isName := by decide
  generics := ⟨by simp [kindEnum], .nil, rfl, rfl⟩
  variants := by
    rintro _ (_ | ⟨_, ⟨⟩⟩)
    refine ⟨?_, by decide, rfl, by simp⟩
    rintro _ (_ | ⟨_, ⟨⟩⟩) value ⟨⟩

/-- The trait `trait T { fn g() { mark become h(); } }`. -/
def becoming (mark : Tokens) : Tokens :=
  [.word "trait", .word "T", .brace [.word "fn", .word "g", .paren [], .brace
    (mark ++ [.word "become", .word "h", .paren [], .punct ';' false])]]

/-- The enum `enum Kind { shown Small, Large }`. -/
def showing (shown : Tokens) : Tokens :=
  [.word "enum", .word "Kind", .brace
    (shown ++ [.word "Small", .punct ',' false, .word "Large"])]

end Endpoint.Expansion
