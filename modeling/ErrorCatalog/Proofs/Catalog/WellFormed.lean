import ErrorCatalog.Catalog.Names
import ErrorCatalog.Proofs.Catalog.Event

/-!
# Well-formed catalogs

In a well-formed catalog everything stands under its own name and no name
stands twice, the global scope is not among the others, cases are named, and no
parser is an empty table.

- `Scope.Built.wellFormed`: a scope that can be built is well-formed;
- `Catalog.WellFormed.apply`: an event keeps a catalog well-formed;
- `Catalog.wellFormed_run`: a run from a new catalog ends in a well-formed one;
- `Catalog.Reachable` says of a catalog that such a run ends in it.
-/

namespace ErrorCatalog

/-- The parsers of a scope, those in its cases included. -/
def Scope.held (scope : Scope) : List ValueParser :=
  scope.parsers.values ++ scope.cases.values.flatMap Case.held

/-- In a well-formed scope cases and parsers stand under their own names, no name twice, cases are
named and no parser is an empty table. -/
structure Scope.WellFormed (scope : Scope) : Prop where
  cases : scope.cases.KeyedBy Case.name
  parsers : scope.parsers.KeyedBy ValueParser.name
  named : ∀ compiled ∈ scope.cases.values, compiled.name ≠ ""
  filled : ∀ parser ∈ scope.held, parser.Filled

namespace Scope

/-- A scope holds its own parsers and those of its cases. -/
theorem mem_held_iff {scope : Scope} {parser : ValueParser} :
    parser ∈ scope.held ↔
      parser ∈ scope.parsers.values ∨ ∃ compiled ∈ scope.cases.values, parser ∈ compiled.held := by
  rw [held, List.mem_append, List.mem_flatMap]

theorem wellFormed_new (name : String) : (new name).WellFormed where
  cases := .empty
  parsers := .empty
  named _ member := nomatch member
  filled _ member := nomatch member

namespace WellFormed

variable {scope : Scope}

/-- A scope stays well-formed when an item is entered under its name. -/
theorem append (wellFormed : scope.WellFormed) {item : Item} (built : item.Built) :
    (scope.append item).WellFormed := by
  cases item with
  | ofCase compiled =>
      constructor
      · exact wellFormed.cases.insert rfl
      · exact wellFormed.parsers
      · intro other member
        rcases Register.mem_values_of_mem_insert member with same | earlier
        · exact same ▸ Case.Built.name_ne_empty built
        · exact wellFormed.named other earlier
      · intro parser member
        rcases mem_held_iff.mp member with own | ⟨other, listed, inside⟩
        · exact wellFormed.filled parser (mem_held_iff.mpr (Or.inl own))
        · rcases Register.mem_values_of_mem_insert listed with same | earlier
          · exact Case.Built.filled built parser (same ▸ inside)
          · exact wellFormed.filled parser (mem_held_iff.mpr (Or.inr ⟨other, earlier, inside⟩))
  | ofParser added =>
      constructor
      · exact wellFormed.cases
      · exact wellFormed.parsers.insert rfl
      · exact wellFormed.named
      · intro parser member
        rcases mem_held_iff.mp member with own | inside
        · rcases Register.mem_values_of_mem_insert own with same | earlier
          · exact same ▸ ValueParser.Built.filled built
          · exact wellFormed.filled parser (mem_held_iff.mpr (Or.inl earlier))
        · exact wellFormed.filled parser (mem_held_iff.mpr (Or.inr inside))

/-- A well-formed scope stays so when something is removed. -/
theorem without (wellFormed : scope.WellFormed) (label : Label) :
    (scope.without label).WellFormed := by
  cases label with
  | caseNamed name =>
      constructor
      · exact wellFormed.cases.erase name
      · exact wellFormed.parsers
      · intro compiled member
        exact wellFormed.named compiled (Register.mem_values_of_mem_erase member)
      · intro parser member
        rcases mem_held_iff.mp member with own | ⟨other, listed, inside⟩
        · exact wellFormed.filled parser (mem_held_iff.mpr (Or.inl own))
        · exact wellFormed.filled parser
            (mem_held_iff.mpr (Or.inr ⟨other, Register.mem_values_of_mem_erase listed, inside⟩))
  | parserNamed name =>
      constructor
      · exact wellFormed.cases
      · exact wellFormed.parsers.erase name
      · exact wellFormed.named
      · intro parser member
        rcases mem_held_iff.mp member with own | inside
        · exact wellFormed.filled parser
            (mem_held_iff.mpr (Or.inl (Register.mem_values_of_mem_erase own)))
        · exact wellFormed.filled parser (mem_held_iff.mpr (Or.inr inside))

end WellFormed

/-- Adding succeeds with a free label only, and appends. -/
theorem eq_append_of_add {scope next : Scope} {item : Item} (accepted : scope.add item = .ok next) :
    scope.holds item.label = false ∧ next = scope.append item := by
  cases taken : scope.holds item.label with
  | true =>
      rw [add_of_holds taken] at accepted
      cases accepted
  | false =>
      rw [add_of_not_holds taken] at accepted
      cases accepted
      exact ⟨rfl, rfl⟩

/-- Removing succeeds with a taken label only. -/
theorem eq_without_of_remove {scope next : Scope} {label : Label} {item : Item}
    (accepted : scope.remove label = .ok (item, next)) :
    scope.holds label = true ∧ next = scope.without label := by
  cases present : scope.holds label with
  | true =>
      obtain ⟨found, removed⟩ := remove_of_holds present
      rw [removed] at accepted
      cases accepted
      exact ⟨rfl, rfl⟩
  | false =>
      rw [remove_of_not_holds present] at accepted
      cases accepted

/-- A scope that can be built is well-formed. -/
theorem Built.wellFormed {scope : Scope} (built : scope.Built) : scope.WellFormed := by
  induction built with
  | new name => exact wellFormed_new name
  | add earlier own accepted ih =>
      rw [(eq_append_of_add accepted).2]
      exact ih.append own
  | remove earlier accepted ih =>
      rw [(eq_without_of_remove accepted).2]
      exact ih.without _

end Scope

/-- In a well-formed catalog the scopes stand under their own names, no name twice, the global
one is not among the others, and each of them is well-formed. -/
structure Catalog.WellFormed (catalog : Catalog) : Prop where
  scopes : catalog.scopes.KeyedBy Scope.name
  apart : globalName ∉ catalog.scopes.names
  global : catalog.global.name = globalName
  each : ∀ name scope, catalog.findScope? name = some scope → scope.WellFormed

namespace Catalog

theorem wellFormed_new (settings : Settings) (proposals : NameSource) :
    (new settings proposals).WellFormed where
  scopes := .empty
  apart member := nomatch member
  global := rfl
  each name scope found := by
    rw [findScope?] at found
    split at found
    · cases found
      exact Scope.wellFormed_new globalName
    · cases found

namespace WellFormed

variable {catalog : Catalog}

/-- A scope is found under its own name. -/
theorem name_of_findScope? (wellFormed : catalog.WellFormed) {name : String} {scope : Scope}
    (found : catalog.findScope? name = some scope) : scope.name = name := by
  rw [findScope?] at found
  split at found
  · next same =>
      cases found
      exact wellFormed.global.trans same.symm
  · exact wellFormed.scopes.key_of_find? found

/-- The scope that is used for a name has it. -/
theorem name_scopeOrNew (wellFormed : catalog.WellFormed) (name : String) :
    (catalog.scopeOrNew name).name = name := by
  cases found : catalog.findScope? name with
  | some scope => exact scopeOrNew_of_found found ▸ wellFormed.name_of_findScope? found
  | none => rw [scopeOrNew, found, Option.getD_none, Scope.new]

/-- The scope that is used for a name is well-formed. -/
theorem scopeOrNew (wellFormed : catalog.WellFormed) (name : String) :
    (catalog.scopeOrNew name).WellFormed := by
  cases found : catalog.findScope? name with
  | some scope => exact scopeOrNew_of_found found ▸ wellFormed.each name scope found
  | none =>
      rw [Catalog.scopeOrNew, found]
      exact Scope.wellFormed_new name

/-- A well-formed scope is put under its own name. -/
theorem putScope (wellFormed : catalog.WellFormed) {name : String} {scope : Scope}
    (own : scope.name = name) (inner : scope.WellFormed) :
    (catalog.putScope name scope).WellFormed := by
  have each : ∀ query found, (catalog.putScope name scope).findScope? query = some found →
      found.WellFormed := by
    intro query other found
    rw [findScope?_putScope] at found
    split at found
    · cases found
      exact inner
    · exact wellFormed.each query other found
  by_cases same : name = globalName
  · refine ⟨?_, ?_, ?_, each⟩ <;> rw [Catalog.putScope, if_pos same]
    · exact wellFormed.scopes
    · exact wellFormed.apart
    · exact own.trans same
  · refine ⟨?_, ?_, ?_, each⟩ <;> rw [Catalog.putScope, if_neg same]
    · exact wellFormed.scopes.insert own.symm
    · intro member
      rw [Register.names_insert] at member
      split at member
      · exact wellFormed.apart member
      · rcases List.mem_append.mp member with earlier | last
        · exact wellFormed.apart earlier
        · exact same (List.mem_singleton.mp last).symm
    · exact wellFormed.global

/-- A catalog stays well-formed when a scope is removed. -/
theorem withoutScope (wellFormed : catalog.WellFormed) (name : String) :
    (catalog.withoutScope name).WellFormed where
  scopes := wellFormed.scopes.erase name
  apart member := by
    rw [Catalog.withoutScope, Register.names_erase name wellFormed.scopes.distinct] at member
    exact wellFormed.apart (List.mem_filter.mp member).1
  global := wellFormed.global
  each query scope found := by
    by_cases same : query = name
    · subst same
      rw [findScope?] at found
      split at found
      · cases found
        exact wellFormed.each globalName catalog.global rfl
      · rw [Catalog.withoutScope,
          Register.find?_erase_self query wellFormed.scopes.distinct] at found
        cases found
    · rw [findScope?_withoutScope_of_ne catalog same] at found
      exact wellFormed.each query scope found

/-- An event that brings in built things keeps a catalog well-formed. -/
theorem apply (wellFormed : catalog.WellFormed) {event : Event} (built : event.Built) :
    (catalog.apply event).WellFormed := by
  cases event with
  | created scope =>
      exact (wellFormed.withoutScope scope.name).putScope rfl (Scope.Built.wellFormed built)
  | removed name => exact wellFormed.withoutScope name
  | added name item =>
      exact wellFormed.putScope ((Scope.name_append _ item).trans (wellFormed.name_scopeOrNew name))
        ((wellFormed.scopeOrNew name).append built)
  | dropped name label =>
      exact wellFormed.putScope
        ((Scope.name_without _ label).trans (wellFormed.name_scopeOrNew name))
        ((wellFormed.scopeOrNew name).without label)

end WellFormed

/-- So does a run of such events. -/
theorem Evolves.wellFormed {catalog after : Catalog} {events : List Event}
    (evolves : Evolves catalog events after) (wellFormed : catalog.WellFormed)
    (built : ∀ event ∈ events, event.Built) : after.WellFormed := by
  induction evolves with
  | nil catalog => exact wellFormed
  | cons admitted rest ih =>
      exact ih (wellFormed.apply (built _ List.mem_cons_self))
        fun event member => built event (List.mem_cons_of_mem _ member)

/-- A catalog that a run from a new one leads to. -/
def Reachable (catalog : Catalog) : Prop :=
  ∃ settings proposals operations, (∀ operation ∈ operations, Operation.Built operation) ∧
    (new settings proposals).run operations = catalog

/-- The catalog after one registration can be built. -/
theorem reachable_register (settings : Settings) (proposals : NameSource)
    {registration : Registration} (built : registration.Built) :
    ((new settings proposals).run [.single (.register registration)]).Reachable := by
  refine ⟨settings, proposals, _, ?_, rfl⟩
  intro operation member
  cases List.mem_singleton.mp member
  exact built

/-- Every catalog that can be built is well-formed. -/
theorem Reachable.wellFormed {catalog : Catalog} (reachable : catalog.Reachable) :
    catalog.WellFormed := by
  obtain ⟨settings, proposals, operations, built, rfl⟩ := reachable
  exact (evolves_run (new settings proposals) operations).wellFormed
    (wellFormed_new settings proposals) (built_of_mem_journal built)

/-- **Runs keep catalogs well-formed.** Whatever operations are executed from a new catalog,
successful and failing ones, everything stands under its own name, no name stands twice, cases
are named, and no parser is an empty table. The global name always leads to the global scope,
any other one to a scope of this name or to none. -/
theorem wellFormed_run (settings : Settings) (proposals : NameSource)
    (operations : List Operation) (built : ∀ operation ∈ operations, operation.Built) :
    ((new settings proposals).run operations).WellFormed ∧
    ((new settings proposals).run operations).findScope? globalName =
      some ((new settings proposals).run operations).global ∧
    ∀ name scope, ((new settings proposals).run operations).findScope? name = some scope →
      scope.name = name := by
  have wellFormed : ((new settings proposals).run operations).WellFormed :=
    (evolves_run (new settings proposals) operations).wellFormed
      (wellFormed_new settings proposals) (built_of_mem_journal built)
  exact ⟨wellFormed, rfl, fun _ _ found => wellFormed.name_of_findScope? found⟩

/-- A parser that is registered under a name which is not its own, then a scope that would take
the place of the global one, and a table without entries. -/
def misnamings : List Operation :=
  [.single (.register (.ofParser "a" (.parser (ValueParser.ofFunction "b" id)) (some "c"))),
    .single (.insertScope (Scope.new globalName) true),
    .single (.register (.ofParser "d" (.table Register.empty) none))]

/-- The parser stands under its own name, and the other two operations change nothing. -/
theorem wellFormed_run_misnamings :
    ((new {} .hexadecimal).run misnamings).WellFormed ∧
    ((new {} .hexadecimal).run misnamings).scopeNames = ["global", "c"] ∧
    (((new {} .hexadecimal).run misnamings).findScope? "c").map (·.parsers.names) = some ["b"] ∧
    ((new {} .hexadecimal).run misnamings).global.parsers.names = [] := by
  refine ⟨(wellFormed_run {} .hexadecimal misnamings ?_).1, by decide, by decide, by decide⟩
  intro operation member
  simp only [misnamings, List.mem_cons, List.not_mem_nil, or_false] at member
  rcases member with rfl | rfl | rfl
  · exact ValueParser.Built.function "b" id
  · exact Scope.Built.new globalName
  · exact trivial

end Catalog

end ErrorCatalog
