import Endpoint.Proofs.Imports
import Endpoint.Proofs.Symbols

/-!
Aliases of fields. The table of structs knows them by the path as written, and lowering knows those
of variants by what the path stands for. Main statement: the two agree exactly on the attributes
whose path reads alike both ways, and the keys of every struct follow the path as written.
-/

namespace Endpoint

open Source (Attribute Field Ident Item Path Struct)
open Lowering (helper)

/-! ### What helpers stand for -/

namespace Lowering

/-- An attribute is a helper by what its path stands for, or by its name alone if that stands for
nothing. -/
theorem helper_eq_marker_iff {imports : Imports} {held : Attribute} {marker : Marker} :
    helper imports held = .marker marker ↔ marker.isHelper = true ∧
      (imports.marker? held.path = some marker ∨
        imports.resolve held.path = none ∧
          ∃ name, held.path.ident? = some name ∧ name.written = marker.name) := by
  have only (found : Option Marker) :
      helperOnly found = some marker ↔ found = some marker ∧ marker.isHelper = true :=
    Option.filter_eq_some_iff
  unfold helper Imports.marker?
  cases imports.resolve held.path with
  | some resolved =>
    dsimp only
    cases led : Marker.ofPath? resolved with
    | some other =>
      cases helps : other.isHelper <;> simp [led, helps]
      · rintro left rfl
        simp [helps] at left
      · rintro rfl
        exact helps
    | none => cases helperOnly (resolved.getLast?.bind Marker.ofName?) <;> simp [led]
  | none =>
    have named : helperOnly (held.path.ident?.bind fun name => Marker.ofName? name.written) =
        some marker ↔ marker.isHelper = true ∧
          ∃ name, held.path.ident? = some name ∧ name.written = marker.name := by
      simp only [only, Option.bind_eq_some_iff, Marker.ofName?_eq_some_iff, and_comm]
    cases found : helperOnly (held.path.ident?.bind fun name => Marker.ofName? name.written) with
    | some other => simpa [found] using named
    | none => simpa [found] using named

end Lowering

/-! ### The two readings of a path -/

theorem Source.Path.ident?_of_plain {path : Path} {name : String} (leading : path.leading = false)
    (plain : path.isPlain = true) (alone : path.names = [name]) :
    ∃ held, path.ident? = some held ∧ held.written = name := by
  obtain ⟨rooted, segments⟩ := path
  obtain ⟨⟨held, arguments⟩, rfl, called⟩ := List.map_eq_singleton_iff.mp alone
  obtain rfl : rooted = false := leading
  cases arguments with
  | none => exact ⟨held, rfl, called⟩
  | _ => simp [isPlain, Source.Arguments.isEmpty] at plain

namespace Imports

variable {module : Names} {items : List Item} {held : Attribute} {marker : Marker}

/-- The path is that of the marker as written: its name alone, or a path out of the vocabulary. -/
def Writes (marker : Marker) (path : Path) : Prop :=
  path.names = [marker.name] ∨ LeadTo marker path.names

/-- No import makes another thing of the path than what it is as written. -/
def ReadsAlike (module : Names) (items : List Item) (marker : Marker) (path : Path) : Prop :=
  (path.leading = true → path.names ≠ [marker.name]) ∧
    (path.leading = false → ∀ head rest whole, path.names = head :: rest →
      Brings module items head whole → (LeadTo marker (whole ++ rest) ↔ Writes marker path))

instance (marker : Marker) : DecidablePred (Writes marker) :=
  fun _ => inferInstanceAs (Decidable (_ ∨ ∃ home ∈ vocabularyModules, _ = home ++ [marker.name]))

theorem Brings.not_lacks {name : String} {path : Names} (known : Brings module items name path) :
    ¬ Lacks module items name := by
  intro unknown
  have found := alias?_eq_some_iff.mpr known
  rw [alias?_eq_none_iff.mpr unknown] at found
  cases found

theorem Brings.unique {name : String} {path other : Names}
    (known : Brings module items name path) (again : Brings module items name other) :
    path = other :=
  Option.some.inj ((alias?_eq_some_iff.mpr known).symm.trans (alias?_eq_some_iff.mpr again))

theorem brings_or_lacks (module : Names) (items : List Item) (name : String) :
    (∃ path, Brings module items name path) ∨ Lacks module items name := by
  cases known : (ofItems module items).alias? name with
  | some path => exact .inl ⟨path, alias?_eq_some_iff.mp known⟩
  | none => exact .inr (alias?_eq_none_iff.mp known)

theorem standsFor_rooted_iff {path : Path} (leading : path.leading = true) :
    StandsFor module items marker path ↔ LeadTo marker path.names := by
  constructor
  · rintro (⟨-, leads⟩ | ⟨inside, -⟩ | ⟨inside, -⟩ | ⟨inside, -⟩)
    · exact leads
    all_goals rw [leading] at inside; cases inside
  · exact .rooted leading

theorem standsFor_brought_iff {path : Path} (leading : path.leading = false) {head : String}
    {rest whole : Names} (names : path.names = head :: rest)
    (known : Brings module items head whole) :
    StandsFor module items marker path ↔ LeadTo marker (whole ++ rest) := by
  constructor
  · rintro (⟨rooted, -⟩ | ⟨-, _, _, same, unknown, -⟩ | ⟨-, _, _, _, same, again, leads⟩ |
      ⟨-, same, unknown, -⟩)
    · rw [leading] at rooted
      cases rooted
    · cases names.symm.trans same
      exact absurd unknown known.not_lacks
    · cases names.symm.trans same
      rwa [known.unique again]
    · cases names.symm.trans same
      exact absurd unknown known.not_lacks
  · exact .named leading head rest whole names known

end Imports

namespace Lowering

open Imports

variable {module : Names} {items : List Item} {held : Attribute} {marker : Marker}

theorem helper_rooted_iff (helps : marker.isHelper = true) (leading : held.path.leading = true) :
    helper (Imports.ofItems module items) held = .marker marker ↔
      LeadTo marker held.path.names := by
  have resolved : (Imports.ofItems module items).resolve held.path = some held.path.names := by
    simp [resolve, resolveNames, leading]
  simp [helper_eq_marker_iff, helps, resolved, marker?_eq_some_iff, standsFor_rooted_iff leading]

theorem helper_brought_iff (helps : marker.isHelper = true) (leading : held.path.leading = false)
    {head : String} {rest whole : Names} (names : held.path.names = head :: rest)
    (known : Brings module items head whole) :
    helper (Imports.ofItems module items) held = .marker marker ↔ LeadTo marker (whole ++ rest) := by
  have resolved : (Imports.ofItems module items).resolve held.path = some (whole ++ rest) := by
    simp [resolve, resolveNames, leading, names, alias?_eq_some_iff.mpr known]
  simp [helper_eq_marker_iff, helps, resolved, marker?_eq_some_iff,
    standsFor_brought_iff leading names known]

/-- Where nothing is imported under its first name, a helper is known by its path as written. -/
theorem helper_lacking_iff (helps : marker.isHelper = true) (leading : held.path.leading = false)
    (plain : held.path.isPlain = true)
    (unknown : ∀ head rest, held.path.names = head :: rest → Lacks module items head) :
    helper (Imports.ofItems module items) held = .marker marker ↔ Writes marker held.path := by
  rw [helper_eq_marker_iff, and_iff_right helps, marker?_eq_some_iff]
  constructor
  · rintro ((⟨-, leads⟩ | ⟨-, _, _, -, -, leads⟩ | ⟨-, head, rest, whole, names, known, -⟩ |
      ⟨-, alone, -⟩) | ⟨-, name, alone, written⟩)
    · exact .inr leads
    · exact .inr leads
    · exact absurd (unknown head rest names) known.not_lacks
    · exact .inl alone
    · exact .inl (by rw [Source.Path.names_of_ident? alone, written])
  · rintro (alone | leads)
    · have lacks := unknown _ _ alone
      by_cases starred : ∃ home ∈ vocabularyModules, home ∈ stars module items
      · obtain ⟨home, exports, star⟩ := starred
        exact .inl (.starred leading alone lacks home exports star)
      · refine .inr ⟨?_, ?_⟩
        · have none : (Imports.ofItems module items).globs.find?
              (moduleProvides · marker.name) = none := by
            rw [← Option.not_isSome_iff_eq_none, Option.isSome_iff_exists, find?_moduleProvides,
              ofItems_globs]
            exact starred
          simp [resolve, resolveNames, leading, alone, alias?_eq_none_iff.mpr lacks,
            markerName_outside, none]
        · exact Source.Path.ident?_of_plain leading plain alone
    · cases names : held.path.names with
      | nil =>
        rw [names] at leads
        obtain ⟨home, -, split⟩ := leads
        simp at split
      | cons head rest => exact .inl (.written leading head rest names (unknown _ _ names) leads)

/-- The two readings of a path agree exactly if no import makes another thing of it. -/
theorem writes_iff_helper_iff (helps : marker.isHelper = true) (plain : held.path.isPlain = true) :
    (Writes marker held.path ↔ helper (Imports.ofItems module items) held = .marker marker) ↔
      ReadsAlike module items marker held.path := by
  cases leading : held.path.leading with
  | true =>
    rw [helper_rooted_iff helps leading]
    constructor
    · intro same
      refine ⟨fun _ alone => ?_, by simp [leading]⟩
      have leads := same.mp (.inl alone)
      rw [alone] at leads
      exact leads.outside.1 rfl
    · rintro ⟨longer, -⟩
      exact ⟨fun writes => writes.resolve_left (longer leading), .inr⟩
  | false =>
    by_cases known : ∃ head rest whole, held.path.names = head :: rest ∧
        Brings module items head whole
    · obtain ⟨head, rest, whole, names, brings⟩ := known
      rw [helper_brought_iff helps leading names brings]
      constructor
      · intro same
        refine ⟨by simp [leading], ?_⟩
        intro _ _ other _ names' again
        cases names.symm.trans names'
        rwa [brings.unique again, iff_comm] at same
      · rintro ⟨-, alike⟩
        exact (alike leading head rest whole names brings).symm
    · have unknown : ∀ head rest, held.path.names = head :: rest → Lacks module items head := by
        intro head rest names
        refine (brings_or_lacks module items head).resolve_left ?_
        rintro ⟨whole, brings⟩
        exact known ⟨head, rest, whole, names, brings⟩
      refine iff_of_true (helper_lacking_iff helps leading plain unknown).symm
        ⟨by simp [leading], ?_⟩
      intro _ head rest whole names brings
      exact absurd ⟨head, rest, whole, names, brings⟩ known

end Lowering

namespace Symbols

open Imports

/-! ### Keys by what is taken for an alias -/

section Taken

variable (takes : Attribute → Prop) [DecidablePred takes]

/-- The text of an attribute that is taken for an alias. -/
def takenText? (held : Attribute) : Option String :=
  if takes held then held.stringArgument? else none

/-- The symbol of a public field. Its key is the text of the first alias that has one, or else its
own name. -/
def symbolBy? (field : Field) : Option FieldSymbol :=
  if isPublic field.visibility then
    field.name.map fun name =>
      ⟨name, (field.attributes.findSome? (takenText? takes)).getD name.text⟩
  else none

end Taken

/-- Attributes that are taken alike where they have texts give the same symbol. -/
theorem symbolBy?_congr {takes others : Attribute → Prop} [DecidablePred takes]
    [DecidablePred others] {field : Field}
    (alike : isPublic field.visibility = true → ∀ held ∈ field.attributes,
      held.stringArgument? ≠ none → (takes held ↔ others held)) :
    symbolBy? takes field = symbolBy? others field := by
  unfold symbolBy?
  split
  · rename_i shown
    have same : ∀ held ∈ field.attributes, takenText? takes held = takenText? others held := by
      intro held member
      unfold takenText?
      by_cases silent : held.stringArgument? = none
      · simp [silent]
      · simp [alike shown held member silent]
    rw [← List.head?_filterMap, ← List.head?_filterMap, List.filterMap_congr same]
  · rfl

theorem marker?_eq_alias_iff {path : Path} :
    (match path.names with
      | [only] => Marker.ofName? only
      | qualified => Marker.ofPath? qualified) = some Marker.alias ↔ Writes .alias path := by
  rw [Writes, ← ofPath?_eq_some_iff_leadTo]
  split
  · rename_i only alone
    simp [alone, Marker.ofPath?_single, Marker.ofName?_eq_some_iff]
  · rename_i longer
    exact ⟨.inr, fun either => either.resolve_left (longer Marker.alias.name)⟩

/-- The table takes for an alias what is one as written. -/
theorem aliasText?_eq_takenText? :
    aliasText? = takenText? fun held => Writes .alias held.path := by
  funext held
  exact if_congr (beq_iff_eq.trans marker?_eq_alias_iff) rfl rfl

theorem fieldSymbol?_eq_symbolBy? :
    fieldSymbol? = symbolBy? fun held => Writes .alias held.path := by
  funext field
  rw [fieldSymbol?_eq, symbolBy?, aliasText?_eq_takenText?]

/-! ### Structs of a run -/

/-- A struct with named fields, and the module that it stands in. -/
structure StructSite where
  module : Names
  items : List Item
  name : Ident
  fields : List Field

namespace StructSite

def path (site : StructSite) : Names := "crate" :: (site.module ++ [site.name.written])

def imports (site : StructSite) : Imports := Imports.ofItems site.module site.items

/-- The symbols of its public fields, in order. -/
def symbolsBy (site : StructSite) (takes : Attribute → Prop) [DecidablePred takes] :
    List FieldSymbol :=
  site.fields.filterMap (symbolBy? takes)

end StructSite

mutual

/-- The structs with named fields that an item of a module is or holds. -/
def itemSites (module : Names) (items : List Item) : Item → List StructSite
  | .struct item =>
    match item.fields with
    | .named fields _ => [⟨module, items, item.name, fields⟩]
    | _ => []
  | .module _ _ _ name (some inner) => sitesAmong (module ++ [name.written]) inner inner
  | _ => []

def sitesAmong (module : Names) (items : List Item) : List Item → List StructSite
  | [] => []
  | item :: rest => itemSites module items item ++ sitesAmong module items rest

end

/-- The structs of a run, in order. -/
def sites (units : List SourceUnit) : List StructSite :=
  units.flatMap fun unit => sitesAmong unit.module unit.file.items unit.file.items

/-- The entry of a struct in the table. -/
def StructSite.entry (site : StructSite) : Names × List FieldSymbol :=
  (site.path, site.symbolsBy fun held => Writes .alias held.path)

mutual

theorem itemStructs_eq_sites (module : Names) (items : List Item) :
    ∀ item, itemStructs module item = (itemSites module items item).map StructSite.entry
  | .struct item => by
    unfold itemStructs itemSites structSymbols?
    cases item.fields <;>
      simp [StructSite.entry, StructSite.path, StructSite.symbolsBy, fieldSymbol?_eq_symbolBy?]
  | .module _ _ _ _ (some inner) => by
    unfold itemStructs itemSites
    exact structs_eq_sites _ inner inner
  | .module _ _ _ _ none => rfl
  | .constant _ | .externCrate .. | .function _ | .foreign .. | .implementation _
  | .invocation _ | .static .. | .enum _ | .trait _ | .traitAlias .. | .alias _ | .union _
  | .use .. | .verbatim _ => rfl

theorem structs_eq_sites (module : Names) (items : List Item) :
    ∀ rest, structs module rest = (sitesAmong module items rest).map StructSite.entry
  | [] => rfl
  | item :: rest => by
    unfold structs sitesAmong
    rw [itemStructs_eq_sites module items item, structs_eq_sites module items rest,
      List.map_append]

end

theorem ofUnits_eq_sites (units : List SourceUnit) :
    ofUnits units = ((sites units).map StructSite.entry).reverse := by
  have each (unit : SourceUnit) : unitStructs unit =
      (sitesAmong unit.module unit.file.items unit.file.items).map StructSite.entry :=
    structs_eq_sites ..
  rw [ofUnits_eq, sites, List.map_flatMap, List.reverse_flatMap]
  simp only [each, Function.comp_def]

/-- The struct is the last one of the run at the path. -/
def IsLastAt (units : List SourceUnit) (path : Names) (site : StructSite) : Prop :=
  ∃ before behind, sites units = before ++ site :: behind ∧ site.path = path ∧
    ∀ other ∈ behind, other.path ≠ path

theorem get?_ofUnits_eq_some_iff {units : List SourceUnit} {path : Names}
    {symbols : List FieldSymbol} :
    (ofUnits units).get? path = some symbols ↔ ∃ site, IsLastAt units path site ∧
      symbols = site.symbolsBy fun held => Writes .alias held.path := by
  rw [ofUnits_eq_sites, get?, ← List.map_reverse, List.find?_map, Option.map_map,
    Option.map_eq_some_iff]
  constructor
  · rintro ⟨site, found, rfl⟩
    obtain ⟨same, behind, before, split, none⟩ := List.find?_eq_some_iff_append.mp found
    refine ⟨site, ⟨before.reverse, behind.reverse, ?_, beq_iff_eq.mp same, ?_⟩, rfl⟩
    · rw [← List.reverse_reverse (sites units), split]
      simp
    · simpa [StructSite.entry] using none
  · rintro ⟨site, ⟨before, behind, split, same, none⟩, rfl⟩
    refine ⟨site, List.find?_eq_some_iff_append.mpr
      ⟨by simpa [StructSite.entry] using same, behind.reverse, before.reverse, ?_, ?_⟩, rfl⟩
    · rw [split]
      simp
    · simpa [StructSite.entry] using none

/-! ### Where the readings agree -/

/-- Every attribute of a public field that may give it a key reads alike both ways. -/
def StructSite.ReadsAlike (site : StructSite) : Prop :=
  ∀ field ∈ site.fields, isPublic field.visibility = true → ∀ held ∈ field.attributes,
    held.stringArgument? ≠ none →
      held.path.isPlain = true ∧ Imports.ReadsAlike site.module site.items .alias held.path

theorem StructSite.ReadsAlike.symbolsBy_eq {site : StructSite} (alike : site.ReadsAlike) :
    (site.symbolsBy fun held => Writes .alias held.path) =
      site.symbolsBy fun held => helper site.imports held = .marker .alias := by
  refine List.filterMap_congr fun field member => symbolBy?_congr fun shown held inside texted => ?_
  obtain ⟨plain, reads⟩ := alike field member shown held inside texted
  exact (Lowering.writes_iff_helper_iff rfl plain).mpr reads

/-- A field and a variant are renamed by the same attributes exactly where imports make nothing else
of the path than what is written. The keys of every struct of a run go by the path as written, in
the order of its public fields; they are those that the imports of its module ask for if its
attributes read alike. -/
theorem keys_follow_written_paths (units : List SourceUnit) :
    (∀ module items held text, held.path.isPlain = true → held.stringArgument? = some text →
      ((aliasText? held = some text ↔
          helper (Imports.ofItems module items) held = .marker .alias) ↔
        ReadsAlike module items .alias held.path)) ∧
    (∀ path symbols, (ofUnits units).get? path = some symbols ↔
      ∃ site, IsLastAt units path site ∧
        symbols = site.symbolsBy fun held => Writes .alias held.path) ∧
    ∀ site : StructSite, site.ReadsAlike →
      (site.symbolsBy fun held => Writes .alias held.path) =
        site.symbolsBy fun held => helper site.imports held = .marker .alias := by
  refine ⟨?_, fun _ _ => get?_ofUnits_eq_some_iff, fun _ alike => alike.symbolsBy_eq⟩
  intro module items held text plain texted
  rw [← Lowering.writes_iff_helper_iff rfl plain, aliasText?_eq_takenText?, takenText?, texted]
  simp

/-- The import `use crate::name as shown;`. -/
def importing (crate name shown : String) : Item :=
  .use [] .inherited false (.path (.plain crate) (.rename (.plain name) (.plain shown)))

/-- The fields `{ #[name("q")] pub query: String }`. -/
def queryFields (name : String) : List Field :=
  [⟨[Expansion.called name "q"], .all, some (.plain "query"), .path (.ofIdent (.plain "String"))⟩]

/-- The import and `pub struct Filter { #[name("q")] pub query: String }`. -/
def filterUnit (imported : Item) (name : String) : SourceUnit :=
  ⟨"a.rs", [], ⟨[], [imported, .struct ⟨[], .all, .plain "Filter", ⟨[], false, none⟩,
    .named (queryFields name) false⟩]⟩⟩

theorem keys_follow_written_paths_vocabulary :
    (aliasText? (Expansion.called "alias" "q") = some "q" ↔
      helper (Imports.ofItems [] [importing "restgen" "alias" "alias"])
        (Expansion.called "alias" "q") = .marker .alias) ∧
    (ofUnits [filterUnit (importing "restgen" "alias" "alias") "alias"]).get? ["crate", "Filter"] =
      some [⟨.plain "query", "q"⟩] := by
  obtain ⟨same, found, -⟩ :=
    keys_follow_written_paths [filterUnit (importing "restgen" "alias" "alias") "alias"]
  refine ⟨(same _ _ _ _ rfl rfl).mpr ⟨by simp [Expansion.called], ?_⟩, ?_⟩
  · intro _ head rest whole written known
    cases written
    have brought : (Imports.ofItems [] [importing "restgen" "alias" "alias"]).alias? "alias" =
        some ["restgen", "alias"] := rfl
    obtain rfl := Option.some.inj (brought.symm.trans (alias?_eq_some_iff.mpr known))
    exact iff_of_true ⟨["restgen"], by decide, rfl⟩ (.inl rfl)
  · exact (found _ _).mpr ⟨_, ⟨[], [], rfl, rfl, by simp⟩, rfl⟩

/-- An `alias` of another crate renames the key of a field though lowering knows it for a foreign
one, and the vocabulary's under another name does not though lowering knows it for the alias. -/
theorem imported_aliases_misread :
    (helper (Imports.ofItems [] [importing "other" "alias" "alias"])
          (Expansion.called "alias" "q") = .foreign .alias "other::alias" ∧
      (ofUnits [filterUnit (importing "other" "alias" "alias") "alias"]).get? ["crate", "Filter"] =
        some [⟨.plain "query", "q"⟩]) ∧
    helper (Imports.ofItems [] [importing "restgen" "alias" "key"])
        (Expansion.called "key" "q") = .marker .alias ∧
    (Expansion.called "key" "q").stringArgument? = some "q" ∧
    (ofUnits [filterUnit (importing "restgen" "alias" "key") "key"]).get? ["crate", "Filter"] =
      some [⟨.plain "query", "query"⟩] :=
  ⟨⟨by decide, rfl⟩, by decide, rfl, rfl⟩

end Symbols

end Endpoint
