import Mathlib.Data.List.Basic
import ErrorCatalog.Catalog.Names
import ErrorCatalog.Proofs.Catalog.Operation
import ErrorCatalog.Proofs.Transform.Agreement

/-!
# The order of registrations

Registrations may be made in any order, as long as the cases of each scope keep
theirs: the same ones succeed, and transformations do not tell the results
apart. A case may thus come before the parsers it refers to, and scopes may come
into existence in any order.

- `Catalog.placeAll_eq_ok_iff`: items can be placed when their labels are
  different and free, in whatever order;
- `Catalog.agreesOn_enterAll`: what is seen of the scopes afterwards is the order
  of the cases in each, and nothing else of the order of the items;
- `Catalog.registerAll_perm`: the law for registrations.
-/

namespace ErrorCatalog

/-- An item on its way to a scope. -/
structure Placement where
  scope : String
  item : Item

namespace Placement

/-- The place that an item takes: no two items can have the same one. -/
def slot (placement : Placement) : String × Label := (placement.scope, placement.item.label)

/-- The item, if it goes to a scope. -/
def into? (name : String) (placement : Placement) : Option Item :=
  if placement.scope = name then some placement.item else none

/-- A parser takes the slot of its name. -/
theorem slot_eq_parserNamed {name : String} {placement : Placement} {parser : ValueParser}
    (found : (placement.into? name).bind Item.parser? = some parser) :
    placement.slot = (name, .parserNamed parser.name) := by
  obtain ⟨scope, item⟩ := placement
  rw [into?] at found
  split at found
  · next same =>
      cases item with
      | ofCase compiled => cases found
      | ofParser own =>
          cases found
          exact Prod.ext same rfl
  · cases found

end Placement

namespace Scope

/-- An appended item takes its own label only. -/
theorem holds_append (scope : Scope) (item : Item) (label : Label) :
    (scope.append item).holds label = (decide (item.label = label) || scope.holds label) := by
  cases item with
  | ofCase compiled =>
      cases label with
      | caseNamed name =>
          by_cases same : compiled.name = name <;>
            simp [append, holds, hasCase, Register.contains, Register.find?_insert, Item.label,
              same]
      | parserNamed name => simp [append, holds, hasParser, Item.label]
  | ofParser parser =>
      cases label with
      | caseNamed name => simp [append, holds, hasCase, Item.label]
      | parserNamed name =>
          by_cases same : parser.name = name <;>
            simp [append, holds, hasParser, Register.contains, Register.find?_insert, Item.label,
              same]

/-- The scope with some items entered in turn. -/
def extend (scope : Scope) (items : List Item) : Scope := items.foldl append scope

theorem name_extend (scope : Scope) (items : List Item) :
    (scope.extend items).name = scope.name := by
  induction items generalizing scope with
  | nil => rfl
  | cons item rest ih => exact (ih (scope.append item)).trans (scope.name_append item)

/-- The cases after some items are entered depend on the cases among them. -/
theorem cases_extend (scope : Scope) (items : List Item) :
    (scope.extend items).cases =
      (items.filterMap Item.case?).foldl (fun cases value => cases.insert value.name value)
        scope.cases := by
  induction items generalizing scope with
  | nil => rfl
  | cons item rest ih =>
      cases item with
      | ofCase compiled => exact ih (scope.append (.ofCase compiled))
      | ofParser parser => exact ih (scope.append (.ofParser parser))

/-- Appended parsers of other names leave what a name leads to. -/
theorem findParser?_extend_of_ne (scope : Scope) {items : List Item} {name : String}
    (apart : ∀ parser ∈ items.filterMap Item.parser?, parser.name ≠ name) :
    (scope.extend items).findParser? name = scope.findParser? name := by
  induction items generalizing scope with
  | nil => rfl
  | cons item rest ih =>
      cases item with
      | ofCase compiled => exact ih (scope.append (.ofCase compiled)) apart
      | ofParser parser =>
          refine (ih (scope.append (.ofParser parser))
            fun other member => apart other (List.mem_cons_of_mem _ member)).trans ?_
          have own : parser.name ≠ name := apart parser List.mem_cons_self
          rw [findParser?, append, Register.find?_insert, if_neg own, findParser?]

/-- An appended parser is found if no other one has its name. -/
theorem findParser?_extend_of_mem (scope : Scope) {items : List Item} {parser : ValueParser}
    (distinct : ((items.filterMap Item.parser?).map ValueParser.name).Nodup)
    (member : parser ∈ items.filterMap Item.parser?) :
    (scope.extend items).findParser? parser.name = some parser := by
  induction items generalizing scope with
  | nil => cases member
  | cons item rest ih =>
      cases item with
      | ofCase compiled => exact ih (scope.append (.ofCase compiled)) distinct member
      | ofParser first =>
          obtain ⟨absent, others⟩ := List.nodup_cons.mp distinct
          rcases List.mem_cons.mp member with same | later
          · subst same
            have entered :
                (scope.append (.ofParser parser)).findParser? parser.name = some parser := by
              rw [findParser?, append, Register.find?_insert, if_pos rfl]
            have kept : ∀ other ∈ rest.filterMap Item.parser?, other.name ≠ parser.name := by
              intro other listed equal
              exact absent (List.mem_map.mpr ⟨other, listed, equal⟩)
            exact (findParser?_extend_of_ne (scope.append (.ofParser parser)) kept).trans entered
          · exact ih (scope.append (.ofParser first)) others later

/-- Parsers of different names are found alike in whatever order they are entered. -/
theorem findParser?_extend_perm (scope : Scope) {first second : List Item}
    (order : first.Perm second)
    (distinct : ((first.filterMap Item.parser?).map ValueParser.name).Nodup) :
    (scope.extend first).findParser? = (scope.extend second).findParser? := by
  have parsers := order.filterMap Item.parser?
  funext name
  by_cases entered : ∃ parser ∈ first.filterMap Item.parser?, parser.name = name
  · obtain ⟨parser, member, rfl⟩ := entered
    rw [scope.findParser?_extend_of_mem distinct member, scope.findParser?_extend_of_mem
      ((parsers.map ValueParser.name).nodup_iff.mp distinct) (parsers.mem_iff.mp member)]
  · have apart : ∀ parser ∈ first.filterMap Item.parser?, parser.name ≠ name :=
      fun parser member same => entered ⟨parser, member, same⟩
    rw [scope.findParser?_extend_of_ne apart, scope.findParser?_extend_of_ne
      fun parser member => apart parser (parsers.mem_iff.mpr member)]

/-- A scope looks alike after the same items in different orders, if the cases come in one order
and no two parsers have one name. -/
theorem view_extend_perm (scope : Scope) {first second : List Item} (order : first.Perm second)
    (cases : first.filterMap Item.case? = second.filterMap Item.case?)
    (distinct : ((first.filterMap Item.parser?).map ValueParser.name).Nodup) :
    (scope.extend first).view = (scope.extend second).view := by
  rw [view, view, name_extend, name_extend, cases_extend, cases_extend, cases,
    scope.findParser?_extend_perm order distinct]

end Scope

namespace Catalog

/-- Whether the place of an item is taken. -/
def taken (catalog : Catalog) (slot : String × Label) : Bool :=
  (catalog.scopeOrNew slot.1).holds slot.2

/-- The catalog with an item entered into its scope. -/
def enter (catalog : Catalog) (placement : Placement) : Catalog :=
  catalog.putScope placement.scope
    ((catalog.scopeOrNew placement.scope).append placement.item)

/-- The catalog with items entered in turn. -/
def enterAll (catalog : Catalog) (placements : List Placement) : Catalog :=
  placements.foldl enter catalog

/-- Place items in turn, up to the first failure. -/
def placeAll (catalog : Catalog) (placements : List Placement) : Change Unit :=
  catalog.changeAll (fun catalog placement => catalog.place placement.scope placement.item)
    placements

theorem placeAll_cons (catalog : Catalog) (placement : Placement) (rest : List Placement) :
    catalog.placeAll (placement :: rest) =
      (catalog.place placement.scope placement.item).andThen fun next => next.placeAll rest := rfl

/-- The items take different places, none of which is taken yet. -/
structure Fresh (catalog : Catalog) (placements : List Placement) : Prop where
  distinct : (placements.map Placement.slot).Nodup
  free : ∀ placement ∈ placements, catalog.taken placement.slot = false

/-- An item goes to the end of its scope and leaves the others. -/
theorem scopeOrNew_enter (catalog : Catalog) (placement : Placement) (name : String) :
    (catalog.enter placement).scopeOrNew name =
      if placement.scope = name then (catalog.scopeOrNew name).append placement.item
      else catalog.scopeOrNew name := by
  rw [enter, scopeOrNew, findScope?_putScope]
  split
  · next same => rw [same, Option.getD_some]
  · rw [scopeOrNew]

/-- An item takes its own slot only. -/
theorem taken_enter (catalog : Catalog) (placement : Placement) (slot : String × Label) :
    (catalog.enter placement).taken slot =
      (decide (placement.slot = slot) || catalog.taken slot) := by
  obtain ⟨name, label⟩ := slot
  rw [taken, scopeOrNew_enter]
  by_cases same : placement.scope = name
  · simp [same, Scope.holds_append, taken, Placement.slot]
  · simp [same, taken, Placement.slot]

/-- Items are fresh if the first one's slot is free and the others are fresh after it. -/
theorem fresh_cons_iff (catalog : Catalog) (placement : Placement) (rest : List Placement) :
    catalog.Fresh (placement :: rest) ↔
      catalog.taken placement.slot = false ∧ (catalog.enter placement).Fresh rest := by
  constructor
  · intro fresh
    obtain ⟨absent, others⟩ := List.nodup_cons.mp fresh.distinct
    refine ⟨fresh.free placement List.mem_cons_self, others, ?_⟩
    intro other member
    have apart : placement.slot ≠ other.slot := by
      intro same
      exact absent (List.mem_map.mpr ⟨other, member, same.symm⟩)
    rw [taken_enter, decide_eq_false apart, Bool.false_or]
    exact fresh.free other (List.mem_cons_of_mem _ member)
  · rintro ⟨free, fresh⟩
    have later : ∀ other ∈ rest,
        placement.slot ≠ other.slot ∧ catalog.taken other.slot = false := by
      intro other member
      have both := fresh.free other member
      rwa [taken_enter, Bool.or_eq_false_iff, decide_eq_false_iff_not] at both
    constructor
    · refine List.nodup_cons.mpr ⟨?_, fresh.distinct⟩
      intro member
      obtain ⟨other, listed, same⟩ := List.mem_map.mp member
      exact (later other listed).1 same.symm
    · intro other member
      rcases List.mem_cons.mp member with same | listed
      · exact same ▸ free
      · exact (later other listed).2

/-- Items can be placed exactly when their places are different and free; they are then all
entered. -/
theorem placeAll_eq_ok_iff (catalog after : Catalog) (placements : List Placement) :
    catalog.placeAll placements = (.ok (), after) ↔
      catalog.Fresh placements ∧ after = catalog.enterAll placements := by
  induction placements generalizing catalog with
  | nil =>
      have fresh : catalog.Fresh [] := ⟨List.nodup_nil, fun _ member => nomatch member⟩
      constructor
      · intro placed
        exact ⟨fresh, (congrArg Prod.snd placed).symm⟩
      · rintro ⟨-, rfl⟩
        rfl
  | cons placement rest ih =>
      -- The first item takes its place, so the others have to be fresh for the next catalog.
      rw [placeAll_cons, fresh_cons_iff]
      cases free : (catalog.scopeOrNew placement.scope).holds placement.item.label with
      | true =>
          have used : catalog.taken placement.slot = true := free
          simp [place_of_holds free, used, Change.andThen]
      | false =>
          have unused : catalog.taken placement.slot = false := free
          rw [place_of_not_holds free, unused]
          exact (ih (catalog.enter placement)).trans
            ⟨fun both => ⟨⟨rfl, both.1⟩, both.2⟩, fun both => ⟨both.1.2, both.2⟩⟩

/-- Whether items are fresh does not depend on their order. -/
theorem Fresh.perm {catalog : Catalog} {first second : List Placement}
    (fresh : catalog.Fresh first) (order : first.Perm second) : catalog.Fresh second where
  distinct := (order.map Placement.slot).nodup_iff.mp fresh.distinct
  free placement member := fresh.free placement (order.mem_iff.mpr member)

/-! ## The catalog afterwards -/

theorem settings_enterAll (catalog : Catalog) (placements : List Placement) :
    (catalog.enterAll placements).settings = catalog.settings := by
  induction placements generalizing catalog with
  | nil => rfl
  | cons placement rest ih => exact (ih (catalog.enter placement)).trans (settings_putScope _ _ _)

/-- Each scope is extended by the items that go there. -/
theorem scopeOrNew_enterAll (catalog : Catalog) (placements : List Placement) (name : String) :
    (catalog.enterAll placements).scopeOrNew name =
      (catalog.scopeOrNew name).extend (placements.filterMap (Placement.into? name)) := by
  induction placements generalizing catalog with
  | nil => rfl
  | cons placement rest ih =>
      refine (ih (catalog.enter placement)).trans ?_
      rw [scopeOrNew_enter, List.filterMap_cons, Placement.into?]
      split
      · rfl
      · rfl

theorem hasScope_enter (catalog : Catalog) (placement : Placement) (name : String) :
    (catalog.enter placement).hasScope name =
      (placement.scope == name || catalog.hasScope name) := by
  rw [hasScope, enter, findScope?_putScope]
  by_cases same : placement.scope = name
  · simp [same]
  · simp [same, hasScope]

/-- The scopes are the earlier ones and those of the items. -/
theorem hasScope_enterAll (catalog : Catalog) (placements : List Placement) (name : String) :
    (catalog.enterAll placements).hasScope name =
      (catalog.hasScope name || placements.any fun placement => placement.scope == name) := by
  induction placements generalizing catalog with
  | nil => exact (Bool.or_false _).symm
  | cons placement rest ih =>
      refine (ih (catalog.enter placement)).trans ?_
      rw [hasScope_enter, List.any_cons, ← Bool.or_assoc, Bool.or_comm (placement.scope == name)]

/-- What is seen of a scope is seen of the one that is used. -/
theorem map_view_findScope? (catalog : Catalog) (name : String) :
    (catalog.findScope? name).map Scope.view =
      if catalog.hasScope name then some (catalog.scopeOrNew name).view else none := by
  rw [findScope?_eq_scopeOrNew, apply_ite (Option.map Scope.view)]
  rfl

/-- The parsers that go to one scope have different names. -/
theorem Fresh.nodup_parsers {catalog : Catalog} {placements : List Placement}
    (fresh : catalog.Fresh placements) (name : String) :
    (((placements.filterMap (Placement.into? name)).filterMap Item.parser?).map
      ValueParser.name).Nodup := by
  have distinct := fresh.distinct
  rw [List.Nodup, List.pairwise_map] at distinct
  rw [List.filterMap_filterMap, List.Nodup, List.pairwise_map]
  refine distinct.filterMap _ ?_
  intro left right apart first leftParser second rightParser same
  rw [Placement.slot_eq_parserNamed leftParser, Placement.slot_eq_parserNamed rightParser,
    same] at apart
  exact apart rfl

/-- Items in different orders leave catalogs that look alike, if the cases of each scope keep their
order. -/
theorem agreesOn_enterAll {catalog : Catalog} {first second : List Placement}
    (fresh : catalog.Fresh first) (order : first.Perm second)
    (cases : ∀ name, (first.filterMap (Placement.into? name)).filterMap Item.case? =
      (second.filterMap (Placement.into? name)).filterMap Item.case?) (names : List String) :
    AgreesOn names (catalog.enterAll first) (catalog.enterAll second) := by
  have views : ∀ name, ((catalog.enterAll first).scopeOrNew name).view =
      ((catalog.enterAll second).scopeOrNew name).view := by
    intro name
    rw [scopeOrNew_enterAll, scopeOrNew_enterAll]
    exact Scope.view_extend_perm _ (order.filterMap _) (cases name) (fresh.nodup_parsers name)
  constructor
  · rw [settings_enterAll, settings_enterAll]
  · exact views globalName
  · intro name _
    have present : (catalog.enterAll first).hasScope name =
        (catalog.enterAll second).hasScope name := by
      rw [hasScope_enterAll, hasScope_enterAll, order.any_eq]
    rw [map_view_findScope?, map_view_findScope?, present, views]

end Catalog

/-! ## Registrations -/

namespace Registration

/-- A registration under a name that is given with it. -/
def Named : Registration → Prop
  | ofParser _ _ _ => True
  | ofCase _ _ => True
  | ofPassthrough passthrough _ => passthrough.name.isSome = true

/-- Whether a registration is one of a case into a scope. -/
def isCaseInto (scope : String) (registration : Registration) : Bool :=
  match registration with
  | ofParser _ _ _ => false
  | ofCase _ _ => registration.target == scope
  | ofPassthrough _ _ => registration.target == scope

/-- A registration with a name makes the same item in every catalog. -/
theorem build_of_named {registration : Registration} (named : registration.Named)
    (left right : Catalog) : registration.build left = registration.build right := by
  cases registration with
  | ofParser name source scope => rfl
  | ofCase definition scope => rfl
  | ofPassthrough passthrough scope =>
      obtain ⟨name, given⟩ := Option.isSome_iff_exists.mp named
      simp only [build, Catalog.passthroughDefinition, given, Option.getD_some]

/-- The item of a registration and the scope that it goes to. -/
def placement? (catalog : Catalog) (registration : Registration) : Option Placement :=
  match registration.build catalog with
  | .ok item => some ⟨registration.target, item⟩
  | .error _ => none

/-- A registration that is not one of a case into a scope brings no case there. -/
theorem case?_eq_none {scope : String} {registration : Registration}
    (other : registration.isCaseInto scope = false) (catalog : Catalog) :
    ((registration.placement? catalog).bind (Placement.into? scope)).bind Item.case? = none := by
  cases built : registration.build catalog with
  | error error => rw [placement?, built]; rfl
  | ok item =>
      rw [placement?, built, Option.bind_some, Placement.into?]
      split
      · next same =>
          cases registration with
          | ofParser name source target =>
              obtain ⟨parser, -, rfl⟩ := exists_of_map_eq_ok built
              rfl
          | ofCase definition target =>
              rw [isCaseInto, beq_eq_false_iff_ne] at other
              exact absurd same other
          | ofPassthrough passthrough target =>
              rw [isCaseInto, beq_eq_false_iff_ne] at other
              exact absurd same other
      · rfl

end Registration

namespace Catalog

/-- Register items in turn, up to the first failure. -/
def registerAll (catalog : Catalog) (registrations : List Registration) : Change Unit :=
  catalog.changeAll register registrations

theorem registerAll_cons (catalog : Catalog) (registration : Registration)
    (rest : List Registration) :
    catalog.registerAll (registration :: rest) =
      (catalog.register registration).andThen fun next => next.registerAll rest := rfl

/-- Registrations that succeed make an item each. -/
theorem exists_build_of_registerAll {catalog after : Catalog} {registrations : List Registration}
    (named : ∀ registration ∈ registrations, registration.Named)
    (succeeds : catalog.registerAll registrations = (.ok (), after)) (base : Catalog) :
    ∀ registration ∈ registrations, ∃ item, registration.build base = .ok item := by
  induction registrations generalizing catalog with
  | nil =>
      intro registration member
      cases member
  | cons first rest ih =>
      obtain ⟨next, registered, others⟩ := Change.exists_of_andThen_eq_ok succeeds
      intro registration member
      rcases List.mem_cons.mp member with same | later
      · subst same
        cases built : registration.build catalog with
        | error error =>
            rw [register_eq, built] at registered
            cases registered
        | ok item =>
            have same := Registration.build_of_named (named registration member) base catalog
            exact ⟨item, same.trans built⟩
      · exact ih (fun other listed => named other (List.mem_cons_of_mem _ listed)) others
          registration later

/-- Registrations under given names place the items that they build. -/
theorem registerAll_eq_placeAll (catalog base : Catalog) {registrations : List Registration}
    (named : ∀ registration ∈ registrations, registration.Named)
    (built : ∀ registration ∈ registrations, ∃ item, registration.build base = .ok item) :
    catalog.registerAll registrations =
      catalog.placeAll (registrations.filterMap (Registration.placement? base)) := by
  induction registrations generalizing catalog with
  | nil => rfl
  | cons first rest ih =>
      obtain ⟨item, own⟩ := built first List.mem_cons_self
      have here : first.build catalog = .ok item :=
        (Registration.build_of_named (named first List.mem_cons_self) catalog base).trans own
      have placement : first.placement? base = some ⟨first.target, item⟩ := by
        rw [Registration.placement?, own]
      have later := fun next : Catalog =>
        ih next (fun other listed => named other (List.mem_cons_of_mem _ listed))
          fun other listed => built other (List.mem_cons_of_mem _ listed)
      rw [registerAll_cons, register_eq, here, List.filterMap_cons_some placement, placeAll_cons]
      exact congrArg (catalog.place first.target item).andThen (funext later)

/-- The cases placed into a scope come from the registrations of cases into it. -/
theorem filterMap_cases_eq (base : Catalog) (scope : String) (registrations : List Registration) :
    ((registrations.filterMap (Registration.placement? base)).filterMap
      (Placement.into? scope)).filterMap Item.case? =
      (registrations.filter (·.isCaseInto scope)).filterMap fun registration =>
        ((registration.placement? base).bind (Placement.into? scope)).bind Item.case? := by
  rw [List.filterMap_filterMap, List.filterMap_filterMap, List.filterMap_filter]
  refine List.filterMap_congr fun registration _ => ?_
  rw [← Option.bind_assoc]
  split
  · rfl
  · next other => exact Registration.case?_eq_none (Bool.eq_false_iff.mpr other) base

/-- **The order of registrations.** Let registrations of parsers, of cases, and of conditions
under given names succeed in one order. They succeed in every other order in which the cases of
each scope come as before, and then every input has the same outcome for every selection, a
report or an error. -/
theorem registerAll_perm (catalog after : Catalog) (registrations reordered : List Registration)
    (named : ∀ registration ∈ registrations, registration.Named)
    (succeeds : catalog.registerAll registrations = (.ok (), after))
    (order : registrations.Perm reordered)
    (cases : ∀ scope, reordered.filter (·.isCaseInto scope) =
      registrations.filter (·.isCaseInto scope)) :
    ∃ final, catalog.registerAll reordered = (.ok (), final) ∧
      ∀ input selection, final.transform input selection = after.transform input selection := by
  have built := exists_build_of_registerAll named succeeds catalog
  rw [registerAll_eq_placeAll catalog catalog named built, placeAll_eq_ok_iff] at succeeds
  obtain ⟨fresh, rfl⟩ := succeeds
  have placements := order.filterMap (Registration.placement? catalog)
  refine ⟨catalog.enterAll (reordered.filterMap (Registration.placement? catalog)), ?_, ?_⟩
  · rw [registerAll_eq_placeAll catalog catalog
      (fun registration member => named registration (order.mem_iff.mpr member))
      (fun registration member => built registration (order.mem_iff.mpr member)),
      placeAll_eq_ok_iff]
    exact ⟨fresh.perm placements, rfl⟩
  · intro input selection
    refine (transform_congr (agreesOn_enterAll fresh placements ?_ selection.scopes) input).symm
    intro scope
    rw [filterMap_cases_eq, filterMap_cases_eq, cases scope]

/-- A parser for a scope. -/
def referred : Registration := .ofParser "p" (.function fun value => .array [value]) (some "a")

/-- A case for the same scope, which refers to the parser by name. -/
def referring : Registration :=
  .ofCase
    { name := "c"
      condition := .pattern ⟨"(x)", [none], .group 1 (.literal ['x']), List.nodup_nil⟩
      message := some (.fixed "m")
      parse := some (.positional [.reference "p"]) }
    (some "a")

/-- A case that is registered for this scope as well, but names another one. -/
def relocated : Registration :=
  .ofCase { name := "c", condition := .literal "y", keepsMessage := true, scope := some "b" }
    (some "a")

/-- A condition for messages that are kept, for the global scope. -/
def unaddressed : Registration := .ofPassthrough { name := some "c", condition := .literal "x" } none

/-- Registrations of which each case goes to another scope. -/
def scattered : List Registration := [referred, referring, relocated, unaddressed]

/-- No scope is given two cases, so turning the list around keeps their order in each. -/
theorem filter_isCaseInto_reverse_scattered (scope : String) :
    scattered.reverse.filter (·.isCaseInto scope) = scattered.filter (·.isCaseInto scope) := by
  by_cases a : scope = "a"
  · subst a
    rfl
  · by_cases b : scope = "b"
    · subst b
      rfl
    · by_cases global : scope = globalName
      · subst global
        rfl
      · have first : referring.isCaseInto scope = false := beq_false_of_ne (Ne.symm a)
        have second : relocated.isCaseInto scope = false := beq_false_of_ne (Ne.symm b)
        have third : unaddressed.isCaseInto scope = false := beq_false_of_ne (Ne.symm global)
        have parser : referred.isCaseInto scope = false := rfl
        simp [scattered, first, second, third, parser]

/-- The registrations may be made in reverse: the case that names its scope before the one that was
registered for another, and this one before the parser that it refers to. Messages are then
transformed as before, each by the case of the scope that is asked for. -/
theorem registerAll_perm_referring :
    ∃ final, (new {} .hexadecimal).registerAll scattered.reverse = (.ok (), final) ∧
      (∀ input selection, final.transform input selection =
        ((new {} .hexadecimal).registerAll scattered).2.transform input selection) ∧
      final.transform (.message "xy") { scopes := ["a", "b"] } =
        .ok ⟨"m", .positional [.array [.string "x"]], []⟩ ∧
      final.transform (.message "xy") { scopes := ["b", "a"] } =
        .ok ⟨"xy", .positional [], [("original", .bool true)]⟩ := by
  have named : ∀ registration ∈ scattered, registration.Named := by
    intro registration member
    simp only [scattered, List.mem_cons, List.not_mem_nil, or_false] at member
    rcases member with rfl | rfl | rfl | rfl
    · exact trivial
    · exact trivial
    · exact trivial
    · exact rfl
  obtain ⟨final, registered, same⟩ := registerAll_perm (new {} .hexadecimal) _ scattered
    scattered.reverse named (Prod.ext rfl rfl) (List.reverse_perm scattered).symm
    filter_isCaseInto_reverse_scattered
  refine ⟨final, registered, same, ?_, ?_⟩
  · rw [same]
    rfl
  · rw [same]
    rfl

end Catalog

end ErrorCatalog
