import Endpoint.Proofs.Imports

/-!
Paths that begin with `self` or `super`, in place and imported. Main statement: they lead to what
they name in the crate, exactly as long as no `super` stands behind `self`.
-/

namespace Endpoint

open Source (Item Path UseTree)

namespace Imports

/-! ### Imports as they are written -/

/-- What the items import, in order, with paths as written and whether they begin at the root. -/
def writtenImports (items : List Item) : List (Bool × Import) :=
  items.flatMap fun
    | .use _ _ leading tree => (tree.imports []).map (leading, ·)
    | _ => []

/-- What a written import brings into the module. -/
def brought (module : Names) (written : Bool × Import) : Import :=
  written.2.mapPath (absolute module written.1)

/-- The stars that the items write, in order. -/
def writtenStars (items : List Item) : List (Bool × Names) :=
  (writtenImports items).filterMap fun written => written.2.all?.map (written.1, ·)

/-- The items import the path as written under the name, and nothing else under it after that. -/
def BringsWritten (items : List Item) (leading : Bool) (name : String) (path : Names) : Prop :=
  ∃ before behind, writtenImports items = before ++ (leading, .named name path) :: behind ∧
    ∀ written ∈ behind, ∀ other, written.2 ≠ .named name other

theorem imports_eq_brought (module : Names) (items : List Item) :
    items.flatMap (Item.imports module) = (writtenImports items).map (brought module) := by
  rw [writtenImports, List.map_flatMap]
  congr 1
  funext item
  cases item with
  | use _ _ leading tree => simp [Source.Item.imports, brought]
  | _ => rfl

/-- The modules imported as a whole are those of the written stars, in order. -/
theorem ofItems_globs_written (module : Names) (items : List Item) :
    (ofItems module items).globs =
      (writtenStars items).map fun written => absolute module written.1 written.2 := by
  rw [ofItems_globs, stars, imports_eq_brought, writtenStars, List.filterMap_map,
    List.map_filterMap]
  congr 1
  funext written
  obtain ⟨leading, _ | _⟩ := written <;> rfl

/-- A name stands for the path that its last import leads to. -/
theorem BringsWritten.brings {items : List Item} {leading : Bool} {name : String} {path : Names}
    (last : BringsWritten items leading name path) (module : Names) :
    Brings module items name (absolute module leading path) := by
  obtain ⟨before, behind, split, others⟩ := last
  refine ⟨(before.map (brought module)).filterMap Import.named?,
    (behind.map (brought module)).filterMap Import.named?, ?_, ?_⟩
  · rw [names, imports_eq_brought, split]
    simp [brought, Import.mapPath, Import.named?]
  · rintro ⟨other, whole⟩ member rfl
    obtain ⟨held, inside, named⟩ := List.mem_filterMap.mp member
    obtain ⟨⟨rooted, written⟩, later, rfl⟩ := List.mem_map.mp inside
    cases written with
    | named written path =>
      cases named
      exact others _ later path rfl
    | all => cases named

/-! ### Relative paths -/

/-- A path that begins at the module it is written in: it goes up some modules, with or without a
`self` in front, and on from there. -/
structure Relative where
  fromSelf : Bool
  up : Nat
  rest : Names
  begins : fromSelf = true ∨ 0 < up
  /-- All steps up in front are counted. -/
  ends : rest.head? ≠ some "super"

namespace Relative

/-- The steps up, and what is behind them. -/
def climbs (path : Relative) : Names := List.replicate path.up "super" ++ path.rest

/-- The path as written. -/
def written (path : Relative) : Names :=
  if path.fromSelf then "self" :: path.climbs else path.climbs

/-- The path from the crate that it names in a module. -/
def whole (path : Relative) (module : Names) : Names :=
  "crate" :: (module.take (module.length - path.up) ++ path.rest)

/-- No `super` stands behind `self`. -/
def IsStraight (path : Relative) : Prop := path.fromSelf = true → path.up = 0

/-- The word that it begins with. -/
def first (path : Relative) : String := if path.fromSelf then "self" else "super"

/-- What is written behind that word. -/
def behind (path : Relative) : Names :=
  if path.fromSelf then path.climbs else List.replicate (path.up - 1) "super" ++ path.rest

variable (path : Relative) (module : Names)

theorem written_eq : path.written = path.first :: path.behind := by
  obtain ⟨fromSelf, up, rest, begins, ends⟩ := path
  cases fromSelf with
  | true => rfl
  | false =>
    obtain ⟨more, rfl⟩ := Nat.exists_eq_succ_of_ne_zero
      (Nat.ne_of_gt (begins.resolve_left Bool.false_ne_true))
    rfl

theorem first_relative : ["crate", "self", "super"].contains path.first = true := by
  cases own : path.fromSelf <;> simp [first, own]

/-- A path without `super` in front goes on from the module. -/
theorem climb_rest {rest : Names} (ends : rest.head? ≠ some "super") :
    climb module rest = cratePath module rest := by
  rw [climb]
  rintro more rfl
  exact ends rfl

/-- Each `super` leaves out one module at the end. -/
theorem climb_replicate {rest : Names} (ends : rest.head? ≠ some "super") (up : Nat) :
    climb module (List.replicate up "super" ++ rest) =
      cratePath (module.take (module.length - up)) rest := by
  induction up generalizing module with
  | zero => simp [climb_rest module ends]
  | succ up ih =>
    rw [List.replicate_succ, List.cons_append, climb, ih, List.dropLast_eq_take, List.take_take,
      List.length_take]
    congr 2
    omega

theorem climb_climbs : climb module path.climbs = path.whole module :=
  climb_replicate module path.ends path.up

/-- What is in front of a relative path once it is read: with `self`, no module is left out. -/
theorem anchor_written : anchor module path.written =
    if path.fromSelf then cratePath module path.climbs else path.whole module := by
  cases own : path.fromSelf with
  | true => simp [written, own, anchor]
  | false =>
    have up : 0 < path.up := path.begins.resolve_left (by simp [own])
    obtain ⟨more, same⟩ := Nat.exists_eq_succ_of_ne_zero (Nat.ne_of_gt up)
    have steps : path.climbs = "super" :: (List.replicate more "super" ++ path.rest) := by
      rw [climbs, same, List.replicate_succ, List.cons_append]
    simp only [written, own, Bool.false_eq_true, if_false]
    rw [← climb_climbs, steps, anchor]

/-- A relative path is read as what it names exactly if it is straight. -/
theorem anchor_written_iff : anchor module path.written = path.whole module ↔ path.IsStraight := by
  rw [anchor_written, IsStraight]
  cases path.fromSelf with
  | false => simp
  | true =>
    simp only [if_true, forall_const, cratePath, whole, climbs]
    constructor
    · intro same
      have lengths := congrArg List.length same
      simp only [List.length_cons, List.length_append, List.length_replicate,
        List.length_take] at lengths
      omega
    · intro flat
      simp [flat]

end Relative

/-- Whether `self` or `super` is among the names. -/
def Moves (path : Names) : Prop := "self" ∈ path ∨ "super" ∈ path

/-- What a relative path names moves nowhere, if neither the module nor its rest does. -/
theorem Relative.whole_still {path : Relative} {module : Names} (still : ¬Moves module)
    (rest : ¬Moves path.rest) : ¬Moves (path.whole module) := by
  unfold Moves at still rest ⊢
  have front : ∀ name, name ∈ module.take (module.length - path.up) → name ∈ module :=
    fun _ => List.mem_of_mem_take
  simp only [Relative.whole, List.mem_cons, List.mem_append]
  grind

/-- The words `self` and `super` are left exactly if the path is not straight. -/
theorem Relative.anchor_still_iff {path : Relative} {module : Names} (still : ¬Moves module)
    (rest : ¬Moves path.rest) : ¬Moves (anchor module path.written) ↔ path.IsStraight := by
  constructor
  · intro none fromSelf
    by_contra climbing
    refine none (.inr ?_)
    rw [anchor_written, if_pos fromSelf, cratePath, climbs]
    simp [climbing]
  · intro straight
    rw [(anchor_written_iff path module).mpr straight]
    exact whole_still still rest

/-- The path leads to what it names among the items of the module. -/
inductive Relative.Leads (module : Names) (items : List Item) (path : Relative) : Prop
  /-- Nothing is imported under its first word. -/
  | plain (unknown : Lacks module items path.first) (straight : path.IsStraight)
  /-- Its first word is imported, which no compiler takes, for what leads there. -/
  | named (full : Names) (known : Brings module items path.first full)
      (same : full ++ path.behind = path.whole module)

/-- What comes of a relative path, wherever it is written in a module. -/
structure Relative.Anchored (module : Names) (items : List Item) (path : Relative) : Prop where
  inPlace : ∀ held : Path, held.leading = false → held.names = path.written →
    ((ofItems module items).resolve held = some (path.whole module) ↔ path.Leads module items)
  imported : ∀ name, BringsWritten items false name path.written →
    ∀ (held : Path) (more : Names), held.leading = false → held.names = name :: more →
      ((ofItems module items).resolve held = some (path.whole module ++ more) ↔ path.IsStraight)
  starred : ∀ index : Nat, (writtenStars items)[index]? = some (false, path.written) →
    ((ofItems module items).globs[index]? = some (path.whole module) ↔ path.IsStraight)
  still : ¬Moves module → ¬Moves path.rest → ¬Moves (path.whole module) ∧
    ∀ held : Path, held.leading = false → held.names = path.written →
      Lacks module items path.first →
        ∃ resolved, (ofItems module items).resolve held = some resolved ∧
          (¬Moves resolved ↔ path.IsStraight)

section

variable {module : Names} {items : List Item} {held : Path} {name : String} {rest : Names}

theorem resolve_known (inside : held.leading = false) (written : held.names = name :: rest)
    {full : Names} (known : Brings module items name full) :
    (ofItems module items).resolve held = some (full ++ rest) := by
  simp [resolve, resolveNames, inside, written, alias?_eq_some_iff.mpr known]

theorem resolve_relative (inside : held.leading = false) {path : Relative}
    (written : held.names = path.written) (unknown : Lacks module items path.first) :
    (ofItems module items).resolve held = some (anchor module path.written) := by
  rw [resolve, inside, written, path.written_eq, resolveNames]
  simp only [Bool.false_eq_true, if_false, alias?_eq_none_iff.mpr unknown, path.first_relative,
    if_true, ofItems_module]

end

/-- A relative path leads to what it names, in place, under a name or as a star in any tree of
imports, exactly if no `super` stands behind `self`; only then no `self` or `super` is left. -/
theorem relative_anchored (module : Names) (items : List Item) (path : Relative) :
    path.Anchored module items where
  inPlace := by
    intro held inside written
    constructor
    · intro found
      cases known : (ofItems module items).alias? path.first with
      | none =>
        have unknown := alias?_eq_none_iff.mp known
        rw [resolve_relative inside written unknown] at found
        exact .plain unknown ((path.anchor_written_iff module).mp (Option.some.inj found))
      | some full =>
        have brings := alias?_eq_some_iff.mp known
        rw [resolve_known inside (written.trans path.written_eq) brings] at found
        exact .named full brings (Option.some.inj found)
    · rintro (⟨unknown, straight⟩ | ⟨full, known, same⟩)
      · rw [resolve_relative inside written unknown, (path.anchor_written_iff module).mpr straight]
      · rw [resolve_known inside (written.trans path.written_eq) known, same]
  imported := by
    intro name last held more inside written
    rw [resolve_known inside written (last.brings module), Option.some_inj,
      List.append_cancel_right_eq]
    exact path.anchor_written_iff module
  starred := by
    intro index star
    rw [ofItems_globs_written, List.getElem?_map, star, Option.map_some, Option.some_inj]
    exact path.anchor_written_iff module
  still := by
    intro still rest
    refine ⟨Relative.whole_still still rest, ?_⟩
    intro held inside written unknown
    exact ⟨_, resolve_relative inside written unknown, Relative.anchor_still_iff still rest⟩

/-- The path `self::super::models::Repo`. -/
def Relative.repo : Relative := ⟨true, 1, ["models", "Repo"], .inl rfl, by decide⟩

/-- In the module `api::github` it names `crate::api::models::Repo`, but it does not lead there, in
place or where `use self::super::models::Repo;` imports it. -/
theorem super_behind_self_stays :
    Relative.repo.whole ["api", "github"] = ["crate", "api", "models", "Repo"] ∧
      (ofItems ["api", "github"] []).resolve
          ⟨false, Relative.repo.written.map (⟨.plain ·, .none⟩)⟩ =
        some ["crate", "api", "github", "super", "models", "Repo"] ∧
      (ofItems ["api", "github"] [.use [] .inherited false (.path (.plain "self")
          (.path (.plain "super") (.path (.plain "models") (.name (.plain "Repo")))))]).resolve
          ⟨false, [⟨.plain "Repo", .none⟩]⟩ =
        some ["crate", "api", "github", "super", "models", "Repo"] := by
  decide +kernel

end Imports

end Endpoint
