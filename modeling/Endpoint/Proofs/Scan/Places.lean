import Endpoint.Proofs.Imports
import Endpoint.Proofs.Scan.Declarations

/-!
Places of declarations in units and their modules. Main statement: a scan comes to the first marked
declaration of each kind and identity, in the order of places, and marks are understood through the
imports of the declaration's own module.
-/

namespace Endpoint.Scan

open Source (Attributes Ident Item Visibility)

/-- The index of a unit, of an item in it, and of items in modules on the way further in. -/
abbrev Place := List Nat

/-! ### Declarations among the items of their modules -/

/-- A declaration with its module. -/
structure Site where
  module : Names
  items : List Item
  declaration : Declaration

namespace Site

def kind (site : Site) : Kind := site.declaration.kind

def identity (site : Site) : Identity := ⟨site.module, site.declaration.name⟩

def key (site : Site) : Kind × Identity := (site.kind, site.identity)

/-- The attributes that stand for the marker of its kind. -/
def marks (site : Site) : Attributes :=
  site.declaration.attributes.filter fun held =>
    Imports.StandsFor site.module site.items site.kind.marker held.path

/-- Whether code can be generated for a marked declaration: enums may carry the marker again. -/
def IsCandidate (site : Site) : Prop := site.kind = .serializer ∨ site.marks.length = 1

instance : DecidablePred IsCandidate := fun _ => inferInstanceAs (Decidable (_ ∨ _))

def candidate (site : Site) : Candidate :=
  ⟨site.identity, site.kind, Imports.ofItems site.module site.items, site.declaration⟩

def problem (site : Site) : Diagnostic := .ofDeclaration site.identity .duplicateClientMarker

end Site

/-- What is declared by an item itself. -/
def declared? : Item → Option Declaration
  | .trait item => some (.trait item)
  | .enum item => some (.enum item)
  | _ => none

/-- A declaration stands among the items of a module or in a module among them. -/
inductive Stands : Names → List Item → Place → Site → Prop
  | here {module : Names} {items : List Item} {index : Nat} {item : Item}
      {declaration : Declaration} (held : items[index]? = some item)
      (declares : declared? item = some declaration) :
      Stands module items [index] ⟨module, items, declaration⟩
  | inside {module : Names} {items inner : List Item} {index : Nat} {place : Place} {site : Site}
      {attributes : Attributes} {visibility : Visibility} {isUnsafe : Bool} {name : Ident}
      (held : items[index]? = some (.module attributes visibility isUnsafe name (some inner)))
      (stands : Stands (module ++ [name.written]) inner place site) :
      Stands module items (index :: place) site

/-- A declaration stands in one of the units. -/
def StandsIn (units : List SourceUnit) (place : Place) (site : Site) : Prop :=
  ∃ index unit rest, units[index]? = some unit ∧ place = index :: rest ∧
    Stands unit.module unit.file.items rest site

/-- A marked declaration that no marked one of its kind and identity stands before. -/
structure IsFirst (units : List SourceUnit) (place : Place) (site : Site) : Prop where
  stands : StandsIn units place site
  marked : site.marks ≠ []
  first : ∀ earlier other, StandsIn units earlier other → other.marks ≠ [] →
    other.key = site.key → ¬ earlier < place

/-! ### Rows of places -/

section Numbered

variable {α β : Type}

/-- The rows of members, with the index of the member in front of each place. -/
def numbered (rows : α → List (Place × β)) : Nat → List α → List (Place × β)
  | _, [] => []
  | index, one :: rest =>
    (rows one).map (fun held => (index :: held.1, held.2)) ++ numbered rows (index + 1) rest

theorem numbered_map (rows : α → List (Place × β)) (f : β → γ) (index : Nat) (all : List α) :
    (numbered rows index all).map (fun held => f held.2) =
      all.flatMap fun one => (rows one).map fun held => f held.2 := by
  induction all generalizing index with
  | nil => rfl
  | cons one rest ih => simp [numbered, ih, Function.comp_def]

theorem mem_numbered_iff {rows : α → List (Place × β)} {index : Nat} {all : List α}
    {place : Place} {b : β} :
    (place, b) ∈ numbered rows index all ↔
      ∃ offset one rest, all[offset]? = some one ∧ place = (index + offset) :: rest ∧
        (rest, b) ∈ rows one := by
  induction all generalizing index with
  | nil => simp [numbered]
  | cons one others ih =>
    rw [numbered, List.mem_append, ih, List.mem_map]
    constructor
    · rintro (⟨held, member, same⟩ | ⟨offset, other, rest, at', rfl, member⟩)
      · cases same
        exact ⟨0, one, held.1, rfl, rfl, member⟩
      · exact ⟨offset + 1, other, rest, at', by rw [Nat.add_right_comm, Nat.add_assoc], member⟩
    · rintro ⟨offset, other, rest, at', rfl, member⟩
      cases offset with
      | zero =>
        obtain rfl := Option.some.inj at'
        exact .inl ⟨(rest, b), member, rfl⟩
      | succ offset =>
        exact .inr ⟨offset, other, rest, at', by rw [Nat.add_right_comm, Nat.add_assoc], member⟩

/-- Rows that are sorted are sorted behind one another. -/
theorem numbered_sorted {rows : α → List (Place × β)} {all : List α}
    (each : ∀ one ∈ all, (rows one).Pairwise (·.1 < ·.1)) (index : Nat) :
    (numbered rows index all).Pairwise (·.1 < ·.1) := by
  induction all generalizing index with
  | nil => exact .nil
  | cons one rest ih =>
    refine List.pairwise_append.mpr ⟨?_, ih (fun other member => each other (.tail _ member)) _, ?_⟩
    · rw [List.pairwise_map]
      exact (each one (.head _)).imp fun less => List.cons_lt_cons_iff.mpr (.inr ⟨rfl, less⟩)
    · rintro _ member ⟨place, b⟩ later
      obtain ⟨held, -, rfl⟩ := List.mem_map.mp member
      obtain ⟨offset, -, behind, -, rfl, -⟩ := mem_numbered_iff.mp later
      exact List.cons_lt_cons_iff.mpr (.inl (by omega))

end Numbered

/-! ### Walking -/

mutual

/-- The declarations that an item of the module is or holds, with their places behind its own. -/
def within (module : Names) (items : List Item) : Item → List (Place × Site)
  | .trait item => [([], ⟨module, items, .trait item⟩)]
  | .enum item => [([], ⟨module, items, .enum item⟩)]
  | .module _ _ _ name (some inner) => sites (module ++ [name.written]) inner 0 inner
  | _ => []

/-- Those of the items from an index on. -/
def sites (module : Names) (items : List Item) (index : Nat) : List Item → List (Place × Site)
  | [] => []
  | item :: rest =>
    (within module items item).map (fun held => (index :: held.1, held.2)) ++
      sites module items (index + 1) rest

end

theorem sites_eq (module : Names) (items : List Item) (index : Nat) (rest : List Item) :
    sites module items index rest = numbered (within module items) index rest := by
  induction rest generalizing index with
  | nil => simp [sites, numbered]
  | cons item rest ih => simp [sites, numbered, ih]

/-- Whether an item is something else than a module with items. -/
def IsFlat : Item → Prop
  | .module _ _ _ _ (some _) => False
  | _ => True

mutual

/-- What holds of flat items, and of modules if of the items in them, holds of every item. -/
theorem item_induct {P : Item → Prop} (flat : ∀ item, IsFlat item → P item)
    (module : ∀ attributes visibility isUnsafe name inner, (∀ item ∈ inner, P item) →
      P (.module attributes visibility isUnsafe name (some inner))) : ∀ item, P item
  | .module _ _ _ _ (some inner) => module _ _ _ _ inner (items_induct flat module inner)
  | .module _ _ _ _ none | .constant _ | .enum _ | .externCrate .. | .function _ | .foreign ..
  | .implementation _ | .invocation _ | .static .. | .struct _ | .trait _ | .traitAlias ..
  | .alias _ | .union _ | .use .. | .verbatim _ => flat _ trivial

theorem items_induct {P : Item → Prop} (flat : ∀ item, IsFlat item → P item)
    (module : ∀ attributes visibility isUnsafe name inner, (∀ item ∈ inner, P item) →
      P (.module attributes visibility isUnsafe name (some inner))) :
    ∀ items : List Item, ∀ item ∈ items, P item
  | [], _, member => absurd member List.not_mem_nil
  | first :: rest, item, member => by
    rcases List.mem_cons.mp member with same | later
    · rw [same]
      exact item_induct flat module first
    · exact items_induct flat module rest item later

end

theorem within_flat {item : Item} (flat : IsFlat item) (module : Names) (items : List Item) :
    within module items item =
      (declared? item).toList.map fun declaration => ([], ⟨module, items, declaration⟩) := by
  cases item with
  | module _ _ _ _ inner =>
    cases inner with
    | none => simp [within, declared?]
    | some inner => cases flat
  | _ => simp [within, declared?]

theorem itemDeclarations_flat {item : Item} (flat : IsFlat item) (imports : Imports) :
    itemDeclarations imports item = (declared? item).toList.map (⟨imports, ·⟩) := by
  cases item with
  | module _ _ _ _ inner =>
    cases inner with
    | none => simp [itemDeclarations, declared?]
    | some inner => cases flat
  | _ => simp [itemDeclarations, declared?]

theorem within_sorted (module : Names) (items : List Item) (item : Item) :
    (within module items item).Pairwise (·.1 < ·.1) := by
  induction item using item_induct generalizing module items with
  | flat item flat =>
    rw [within_flat flat]
    cases declared? item <;> simp
  | module attributes visibility isUnsafe name inner ih =>
    rw [within, sites_eq]
    exact numbered_sorted (fun item member => ih item member _ _) 0

/-- A declaration as the scan finds it. -/
def Site.found (site : Site) : Found :=
  ⟨Imports.ofItems site.module site.items, site.declaration⟩

theorem declarations_eq_flatMap (imports : Imports) (items : List Item) :
    declarations imports items = items.flatMap (itemDeclarations imports) := by
  induction items with
  | nil => simp [declarations]
  | cons item rest ih => simp [declarations, ih]

/-- Walking comes by the declarations that the scan finds, in the same order. -/
theorem within_found (module : Names) (items : List Item) (item : Item) :
    (within module items item).map (·.2.found) =
      itemDeclarations (Imports.ofItems module items) item := by
  induction item using item_induct generalizing module items with
  | flat item flat => simp [within_flat flat, itemDeclarations_flat flat, Site.found]
  | module attributes visibility isUnsafe name inner ih =>
    rw [within, sites_eq, itemDeclarations, Imports.ofItems_module, declarations_eq_flatMap,
      numbered_map]
    exact List.flatMap_congr fun item member => ih item member _ _

/-- Walking comes by the declarations that stand among the items, each at its place. -/
theorem mem_sites_iff {module : Names} {items : List Item} {place : Place} {site : Site} :
    (place, site) ∈ sites module items 0 items ↔ Stands module items place site := by
  constructor
  · suffices general : ∀ item module items index place, items[index]? = some item →
        (place, site) ∈ within module items item → Stands module items (index :: place) site by
      intro member
      rw [sites_eq, mem_numbered_iff] at member
      obtain ⟨index, item, rest, held, rfl, member⟩ := member
      rw [Nat.zero_add]
      exact general item module items index rest held member
    intro item
    induction item using item_induct with
    | flat item flat =>
      intro module items index place held member
      rw [within_flat flat, List.mem_map] at member
      obtain ⟨declaration, declares, same⟩ := member
      cases same
      exact .here held (Option.mem_toList.mp declares)
    | module attributes visibility isUnsafe name inner ih =>
      intro module items index place held member
      rw [within, sites_eq, mem_numbered_iff] at member
      obtain ⟨inside, item, rest, at', rfl, member⟩ := member
      rw [Nat.zero_add]
      exact .inside held (ih item (List.mem_of_getElem? at') _ _ _ _ at' member)
  · intro stands
    rw [sites_eq, mem_numbered_iff]
    induction stands with
    | @here _ _ _ item _ held declares =>
      refine ⟨_, item, [], held, by rw [Nat.zero_add], ?_⟩
      cases item <;> cases declares <;> simp [within]
    | inside held _ ih =>
      refine ⟨_, _, _, held, by rw [Nat.zero_add], ?_⟩
      rw [within, sites_eq, mem_numbered_iff]
      exact ih

/-- All declarations of the units. -/
def located (units : List SourceUnit) : List (Place × Site) :=
  numbered (fun unit => sites unit.module unit.file.items 0 unit.file.items) 0 units

theorem located_sorted (units : List SourceUnit) : (located units).Pairwise (·.1 < ·.1) := by
  refine numbered_sorted (fun unit _ => ?_) 0
  rw [sites_eq]
  exact numbered_sorted (fun item _ => within_sorted _ _ item) 0

theorem located_found (units : List SourceUnit) :
    (located units).map (·.2.found) = units.flatMap unitDeclarations := by
  rw [located, numbered_map]
  refine List.flatMap_congr fun unit _ => ?_
  rw [sites_eq, numbered_map, unitDeclarations, declarations_eq_flatMap]
  exact List.flatMap_congr fun item _ => within_found _ _ item

theorem mem_located_iff {units : List SourceUnit} {place : Place} {site : Site} :
    (place, site) ∈ located units ↔ StandsIn units place site := by
  simp only [located, mem_numbered_iff, mem_sites_iff, Nat.zero_add, StandsIn]

/-! ### First declarations -/

namespace Site

theorem found_key (site : Site) : site.found.key = site.key := by
  rw [Found.key, Found.identity, found, Imports.ofItems_module]
  rfl

theorem found_hits (site : Site) : site.found.hits = site.marks.length := by
  have same : ∀ held : Source.Attribute,
      ((Imports.ofItems site.module site.items).marker? held.path == some site.kind.marker) =
        decide (Imports.StandsFor site.module site.items site.kind.marker held.path) := by
    intro held
    rw [Bool.eq_iff_iff, beq_iff_eq, decide_eq_true_eq, Imports.marker?_eq_some_iff]
  simp only [Found.hits, markerCount, marks, ← same]
  rfl

theorem found_isMarked (site : Site) : site.found.isMarked = true ↔ site.marks ≠ [] := by
  simp [Found.isMarked, found_hits]

theorem found_isRepeated {site : Site} (marked : site.marks ≠ []) :
    site.found.isRepeated = true ↔ ¬ site.IsCandidate := by
  have some := List.length_pos_iff.mpr marked
  have kinds : site.found.declaration.kind = .client ↔ site.kind ≠ .serializer := by
    change site.kind = .client ↔ _
    cases site.kind <;> decide
  simp only [Found.isRepeated, found_hits, Bool.and_eq_true, decide_eq_true_eq, beq_iff_eq, kinds,
    IsCandidate, not_or, and_comm (b := site.kind ≠ .serializer)]
  exact and_congr_right fun _ => by omega

theorem found_identity (site : Site) : site.found.identity = site.identity :=
  congrArg Prod.snd site.found_key

end Site

/-- Marked declarations come to candidates or to diagnostics. -/
theorem filterMap_found {sites : List Site} (marked : ∀ site ∈ sites, site.marks ≠ []) :
    (sites.map Site.found).filterMap Found.candidate? =
        (sites.filter (·.IsCandidate)).map Site.candidate ∧
      (sites.map Site.found).filterMap Found.problem? =
        (sites.filter (¬ ·.IsCandidate)).map Site.problem := by
  induction sites with
  | nil => exact ⟨rfl, rfl⟩
  | cons site rest ih =>
    obtain ⟨candidates, problems⟩ := ih fun other member => marked other (.tail _ member)
    have repeated := site.found_isRepeated (marked site (.head _))
    by_cases single : site.IsCandidate
    · have once : site.found.isRepeated = false := by simpa [single] using repeated
      have made : site.found.candidate? = some site.candidate := by
        rw [Found.candidate?, once, Site.found_identity]
        rfl
      simp [single, made, Found.problem?, once, candidates, problems]
    · have again : site.found.isRepeated = true := repeated.mpr single
      have made : site.found.problem? = some site.problem := by
        rw [Found.problem?, again, Site.found_identity]
        rfl
      simp [single, made, Found.candidate?, again, candidates, problems]

/-- Of declarations sorted by place, those with new keys are the marked ones that no marked one of
the same key stands before. -/
theorem firsts_eq {all : List (Place × Site)} (sorted : all.Pairwise (·.1 < ·.1))
    (seen : List (Kind × Identity)) :
    ∃ chosen : List (Place × Site), chosen.Sublist all ∧
      firsts seen (all.map (·.2.found)) = chosen.map (·.2.found) ∧
      ∀ one, one ∈ chosen ↔ one ∈ all ∧ one.2.marks ≠ [] ∧ one.2.key ∉ seen ∧
        ∀ other ∈ all, other.2.marks ≠ [] → other.2.key = one.2.key → ¬ other.1 < one.1 := by
  induction all generalizing seen with
  | nil => exact ⟨[], .slnil, by simp [firsts], by simp⟩
  | cons head rest ih =>
    obtain ⟨before, sorted⟩ := List.pairwise_cons.mp sorted
    by_cases new : head.2.marks ≠ [] ∧ head.2.key ∉ seen
    · obtain ⟨chosen, sublist, same, members⟩ := ih sorted (seen ++ [head.2.key])
      refine ⟨head :: chosen, sublist.cons_cons _, ?_, fun one => ?_⟩
      · have marked := head.2.found_isMarked.mpr new.1
        have fresh : head.2.found.key ∉ seen := by rw [Site.found_key]; exact new.2
        rw [List.map_cons, List.map_cons, firsts_of_new marked fresh, Site.found_key, same]
      rw [List.mem_cons, List.mem_cons, members, List.forall_mem_cons]
      constructor
      · rintro (rfl | ⟨member, marked, fresh, first⟩)
        · exact ⟨.inl rfl, new.1, new.2, fun _ _ => List.lt_irrefl _,
            fun other later _ _ => List.lt_asymm (before other later)⟩
        · obtain ⟨fresh, other⟩ : one.2.key ∉ seen ∧ one.2.key ≠ head.2.key := by
            simpa using fresh
          exact ⟨.inr member, marked, fresh, fun _ same => absurd same.symm other, first⟩
      · rintro ⟨rfl | member, marked, fresh, notHead, first⟩
        · exact .inl rfl
        · have other : one.2.key ≠ head.2.key := fun same =>
            notHead new.1 same.symm (before one member)
          exact .inr ⟨member, marked, by simp [fresh, other], first⟩
    · obtain ⟨chosen, sublist, same, members⟩ := ih sorted seen
      have passed : head.2.marks ≠ [] → head.2.key ∈ seen := by
        simpa only [not_and, not_not] using new
      refine ⟨chosen, sublist.cons _, ?_, fun one => ?_⟩
      · have passed : head.2.found.isMarked = true → head.2.found.key ∈ seen := by
          rwa [Site.found_isMarked, Site.found_key]
        rw [List.map_cons, firsts_of_passed passed, same]
      rw [members, List.mem_cons, List.forall_mem_cons]
      constructor
      · rintro ⟨member, marked, fresh, first⟩
        exact ⟨.inr member, marked, fresh,
          fun marked same => absurd (same ▸ passed marked) fresh, first⟩
      · rintro ⟨rfl | member, marked, fresh, -, first⟩
        · exact absurd (passed marked) fresh
        · exact ⟨member, marked, fresh, first⟩

/-- A scan comes to the first marked declaration of each kind and identity, in the order of places:
to a candidate, or to a diagnostic if it is a trait that carries its marker again. -/
theorem ofUnits_exact (units : List SourceUnit) :
    ∃ chosen : List (Place × Site),
      chosen.Pairwise (·.1 < ·.1) ∧
      (∀ place site, (place, site) ∈ chosen ↔ IsFirst units place site) ∧
      (ofUnits units).candidates =
        ((chosen.map (·.2)).filter (·.IsCandidate)).map Site.candidate ∧
      (ofUnits units).diagnostics =
        ((chosen.map (·.2)).filter (¬ ·.IsCandidate)).map Site.problem := by
  obtain ⟨chosen, sublist, same, members⟩ := firsts_eq (located_sorted units) []
  rw [located_found] at same
  have firsts : ∀ place site, (place, site) ∈ chosen ↔ IsFirst units place site := by
    intro place site
    rw [members, mem_located_iff]
    constructor
    · rintro ⟨stands, marked, -, first⟩
      exact ⟨stands, marked, fun earlier other there =>
        first (earlier, other) (mem_located_iff.mpr there)⟩
    · rintro ⟨stands, marked, first⟩
      exact ⟨stands, marked, List.not_mem_nil, fun other member =>
        first other.1 other.2 (mem_located_iff.mp member)⟩
  have marked : ∀ one ∈ chosen, one.2.marks ≠ [] := fun one member =>
    (firsts one.1 one.2).mp member |>.marked
  have founds : Scan.marked units = (chosen.map (·.2)).map Site.found := by
    rw [Scan.marked, same, List.map_map]
    rfl
  have outcome := filterMap_found (List.forall_mem_map.mpr marked)
  rw [ofUnits_candidates, ofUnits_diagnostics, founds]
  exact ⟨chosen, (located_sorted units).sublist sublist, firsts, outcome⟩

end Endpoint.Scan
