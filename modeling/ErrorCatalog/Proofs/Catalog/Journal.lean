import Mathlib.Data.List.Basic
import ErrorCatalog.Proofs.Catalog.WellFormed

/-!
# Catalogs and their journals

What a catalog holds can be told from the journal of its run alone, without
following any catalog: a scope holds what was registered into it since it was
last created and not dropped later, in this order, and the scopes stand in the
order in which they were last created.

- `survivors` is what events gave and no later one took away;
- `Catalog.Records.apply`: an event changes catalog and journal alike;
- `Catalog.records_run`: the content of a catalog is the one in its journal.
-/

namespace ErrorCatalog

/-- What was given by one of some events and taken away by none of those after it, in the order
in which it was given. -/
def survivors {ε β : Type} (gives : ε → List β) (takes : ε → β → Bool) : List ε → List β
  | [] => []
  | event :: later =>
      (gives event).filter (fun given => !later.any fun other => takes other given) ++
        survivors gives takes later

/-- One more event takes away first and then gives. -/
theorem survivors_concat {ε β : Type} (gives : ε → List β) (takes : ε → β → Bool)
    (events : List ε) (last : ε) :
    survivors gives takes (events ++ [last]) =
      (survivors gives takes events).filter (fun given => !takes last given) ++ gives last := by
  induction events with
  | nil => simp [survivors]
  | cons event later ih =>
      -- What the first event gave has to survive the last one too.
      rw [List.cons_append, survivors, survivors, ih, List.filter_append, List.filter_filter,
        List.append_assoc]
      congr 1
      apply List.filter_congr
      intro given _
      rw [List.any_append, List.any_cons, List.any_nil, Bool.or_false, Bool.not_or, Bool.and_comm]

namespace Scope

/-- The items of a scope. -/
def items (scope : Scope) : List Item :=
  scope.cases.values.map .ofCase ++ scope.parsers.values.map .ofParser

/-- A scope holds some items: its cases and its parsers are those among them, in their order. -/
structure Lists (scope : Scope) (items : List Item) : Prop where
  cases : scope.cases.values = items.filterMap Item.case?
  parsers : scope.parsers.values = items.filterMap Item.parser?

theorem lists_new (name : String) : (new name).Lists [] := ⟨rfl, rfl⟩

/-- A scope lists its own items. -/
theorem lists_items (scope : Scope) : scope.Lists scope.items where
  cases := by simp [items, List.filterMap_map, Function.comp_def, Item.case?]
  parsers := by simp [items, List.filterMap_map, Function.comp_def, Item.parser?]

namespace Lists

variable {scope : Scope} {items : List Item}

/-- An item under a free label comes last. -/
theorem append (lists : scope.Lists items) {item : Item}
    (free : scope.holds item.label = false) : (scope.append item).Lists (items ++ [item]) := by
  cases item with
  | ofCase compiled =>
      constructor
      · rw [List.filterMap_append, ← lists.cases]
        exact Register.values_insert_of_notMem compiled (case_notMem_names free)
      · rw [List.filterMap_append, ← lists.parsers]
        exact (List.append_nil _).symm
  | ofParser parser =>
      constructor
      · rw [List.filterMap_append, ← lists.cases]
        exact (List.append_nil _).symm
      · rw [List.filterMap_append, ← lists.parsers]
        exact Register.values_insert_of_notMem parser (parser_notMem_names free)

/-- Without the item of a label, the others keep their order. -/
theorem without (lists : scope.Lists items) (wellFormed : scope.WellFormed) (label : Label) :
    (scope.without label).Lists (items.filter fun item => !(item.label == label)) := by
  cases label with
  | caseNamed name =>
      constructor
      · refine (wellFormed.cases.values_erase name).trans ?_
        rw [lists.cases, List.filter_filterMap, List.filterMap_filter]
        refine List.filterMap_congr fun item _ => ?_
        cases item with
        | ofCase compiled =>
            by_cases same : compiled.name = name <;> simp [same, Item.case?, Item.label]
        | ofParser parser => rfl
      · refine lists.parsers.trans ?_
        rw [List.filterMap_filter]
        refine List.filterMap_congr fun item _ => ?_
        cases item <;> simp [Item.parser?, Item.label]
  | parserNamed name =>
      constructor
      · refine lists.cases.trans ?_
        rw [List.filterMap_filter]
        refine List.filterMap_congr fun item _ => ?_
        cases item <;> simp [Item.case?, Item.label]
      · refine (wellFormed.parsers.values_erase name).trans ?_
        rw [lists.parsers, List.filter_filterMap, List.filterMap_filter]
        refine List.filterMap_congr fun item _ => ?_
        cases item with
        | ofCase compiled => rfl
        | ofParser parser =>
            by_cases same : parser.name = name <;> simp [same, Item.parser?, Item.label]

end Lists

end Scope

namespace Event

/-- The items that an event registers into a scope; a new scope starts with its own content. -/
def registers (name : String) : Event → List Item
  | created scope => if scope.name = name then scope.items else []
  | removed _ => []
  | added scope item => if scope = name then [item] else []
  | dropped _ _ => []

/-- Whether an item that was registered into a scope earlier is gone by an event. -/
def ends (name : String) (event : Event) (item : Item) : Bool :=
  match event with
  | created scope => scope.name == name
  | removed scope => scope == name
  | added _ _ => false
  | dropped scope label => scope == name && item.label == label

/-- The name of the scope that an event creates. -/
def opens : Event → List String
  | created scope => [scope.name]
  | _ => []

/-- Whether a scope that was created earlier is gone by an event. -/
def closes (event : Event) (name : String) : Bool :=
  match event with
  | created scope => name == scope.name
  | removed scope => name == scope
  | _ => false

end Event

/-- The items that a scope holds after some events, in the order of their registration. -/
def itemsIn (name : String) (journal : List Event) : List Item :=
  survivors (Event.registers name) (Event.ends name) journal

/-- The scopes that exist after some events, in the order of their last creation; the global
one is never created. -/
def standing (journal : List Event) : List String :=
  survivors Event.opens Event.closes journal

/-- The last event of a journal ends some items of a scope and registers others. -/
theorem itemsIn_concat (name : String) (journal : List Event) (event : Event) :
    itemsIn name (journal ++ [event]) =
      (itemsIn name journal).filter (fun item => !event.ends name item) ++ event.registers name :=
  survivors_concat (Event.registers name) (Event.ends name) journal event

/-- The last event of a journal closes some scopes and opens others. -/
theorem standing_concat (journal : List Event) (event : Event) :
    standing (journal ++ [event]) =
      (standing journal).filter (fun name => !event.closes name) ++ event.opens :=
  survivors_concat Event.opens Event.closes journal event

/-- A created scope has its own items, whatever stood there before. -/
theorem itemsIn_concat_created (journal : List Event) (scope : Scope) :
    itemsIn scope.name (journal ++ [.created scope]) = scope.items := by
  simp [itemsIn_concat, Event.ends, Event.registers]

/-- A removed scope has no items. -/
theorem itemsIn_concat_removed (journal : List Event) (name : String) :
    itemsIn name (journal ++ [.removed name]) = [] := by
  simp [itemsIn_concat, Event.ends, Event.registers]

/-- An added item goes to the end. -/
theorem itemsIn_concat_added (journal : List Event) (name : String) (item : Item) :
    itemsIn name (journal ++ [.added name item]) = itemsIn name journal ++ [item] := by
  simp [itemsIn_concat, Event.ends, Event.registers]

/-- A dropped label ends the item that stands under it. -/
theorem itemsIn_concat_dropped (journal : List Event) (name : String) (label : Label) :
    itemsIn name (journal ++ [.dropped name label]) =
      (itemsIn name journal).filter fun item => !(item.label == label) := by
  simp [itemsIn_concat, Event.ends, Event.registers]

/-- An event neither registers nor ends anything in the scopes that it does not concern. -/
theorem itemsIn_concat_of_ne {name : String} {event : Event} (apart : event.subject ≠ name)
    (journal : List Event) : itemsIn name (journal ++ [event]) = itemsIn name journal := by
  have kept : ∀ item, event.ends name item = false := by
    intro item
    cases event <;> simp_all [Event.ends, Event.subject]
  have nothing : event.registers name = [] := by
    cases event <;> simp_all [Event.registers, Event.subject]
  simp [itemsIn_concat, kept, nothing]

namespace Catalog

/-- The content of a catalog is the one in a journal. -/
structure Records (catalog : Catalog) (journal : List Event) : Prop where
  scopes : catalog.scopes.names = standing journal
  items : ∀ name, (catalog.scopeOrNew name).Lists (itemsIn name journal)

/-- A new catalog has nothing on record. -/
theorem records_new (settings : Settings) (proposals : NameSource) :
    (new settings proposals).Records [] := by
  constructor
  · rfl
  · intro name
    rw [scopeOrNew, findScope?]
    split
    · exact Scope.lists_new globalName
    · exact Scope.lists_new name

/-- A removed scope is not found. -/
theorem findScope?_withoutScope_self {catalog : Catalog} (wellFormed : catalog.WellFormed)
    {name : String} (other : name ≠ globalName) :
    (catalog.withoutScope name).findScope? name = none := by
  rw [findScope?, if_neg other]
  exact Register.find?_erase_self name wellFormed.scopes.distinct

/-- Removing a scope keeps the names of the others in their order. -/
theorem names_withoutScope {catalog : Catalog} (wellFormed : catalog.WellFormed) (name : String) :
    (catalog.withoutScope name).scopes.names = catalog.scopes.names.filter (· != name) :=
  Register.names_erase name wellFormed.scopes.distinct

/-- A scope under a new name comes last. -/
theorem names_putScope_of_absent {catalog : Catalog} {name : String} (scope : Scope)
    (absent : catalog.findScope? name = none) :
    (catalog.putScope name scope).scopes.names = catalog.scopes.names ++ [name] := by
  have other := ne_globalName_of_absent absent
  rw [findScope?, if_neg other, Register.find?_eq_none_iff] at absent
  rw [putScope, if_neg other, Register.names_insert, if_neg absent]

theorem names_putScope_of_found {catalog : Catalog} {name : String} {own : Scope} (scope : Scope)
    (found : catalog.findScope? name = some own) :
    (catalog.putScope name scope).scopes.names = catalog.scopes.names := by
  rw [putScope]
  split
  · rfl
  · next other =>
      have member : name ∈ catalog.scopes.names := by
        rw [← Register.contains_eq_true_iff, Register.contains, ← Option.isSome_some (a := own),
          ← found, findScope?, if_neg other]
      rw [Register.names_insert, if_pos member]

namespace Records

variable {catalog : Catalog} {journal : List Event}

/-- Only the creation and the removal of scopes change which ones there are. -/
theorem scopes_apply (records : catalog.Records journal) (wellFormed : catalog.WellFormed)
    {event : Event} (admitted : catalog.Admits event) :
    (catalog.apply event).scopes.names = standing (journal ++ [event]) := by
  rw [standing_concat, ← records.scopes]
  cases event with
  | created scope =>
      have absent := findScope?_withoutScope_self wellFormed admitted
      rw [Catalog.apply, names_putScope_of_absent scope absent, names_withoutScope wellFormed]
      rfl
  | removed name =>
      rw [Catalog.apply, names_withoutScope wellFormed]
      exact (List.append_nil _).symm
  | added name item =>
      obtain ⟨scope, found, -⟩ := admitted
      rw [Catalog.apply, names_putScope_of_found _ found]
      exact (List.filter_true _).symm.trans (List.append_nil _).symm
  | dropped name label =>
      obtain ⟨scope, found, -⟩ := admitted
      rw [Catalog.apply, names_putScope_of_found _ found]
      exact (List.filter_true _).symm.trans (List.append_nil _).symm

/-- The scope that an event concerns changes as its items do. -/
theorem items_apply (records : catalog.Records journal) (wellFormed : catalog.WellFormed)
    {event : Event} (admitted : catalog.Admits event) :
    ((catalog.apply event).scopeOrNew event.subject).Lists
      (itemsIn event.subject (journal ++ [event])) := by
  cases event with
  | created scope =>
      have found : (catalog.apply (.created scope)).findScope? scope.name = some scope :=
        findScope?_putScope_self _ scope.name scope
      rw [Event.subject, itemsIn_concat_created, scopeOrNew_of_found found]
      exact scope.lists_items
  | removed name =>
      have absent : (catalog.apply (.removed name)).findScope? name = none :=
        findScope?_withoutScope_self wellFormed admitted
      rw [Event.subject, itemsIn_concat_removed, scopeOrNew_of_absent absent]
      exact Scope.lists_new name
  | added name item =>
      obtain ⟨scope, found, free⟩ := admitted
      have before := records.items name
      have after : (catalog.apply (.added name item)).findScope? name =
          some ((catalog.scopeOrNew name).append item) :=
        findScope?_putScope_self catalog name _
      rw [scopeOrNew_of_found found] at before
      rw [Event.subject, itemsIn_concat_added, scopeOrNew_of_found after,
        scopeOrNew_of_found found]
      exact before.append free
  | dropped name label =>
      have after : (catalog.apply (.dropped name label)).findScope? name =
          some ((catalog.scopeOrNew name).without label) :=
        findScope?_putScope_self catalog name _
      rw [Event.subject, itemsIn_concat_dropped, scopeOrNew_of_found after]
      exact (records.items name).without (wellFormed.scopeOrNew name) label

/-- An event changes catalog and journal alike. -/
theorem apply (records : catalog.Records journal) (wellFormed : catalog.WellFormed) {event : Event}
    (admitted : catalog.Admits event) : (catalog.apply event).Records (journal ++ [event]) := by
  constructor
  · exact records.scopes_apply wellFormed admitted
  · intro name
    by_cases same : event.subject = name
    · exact same ▸ records.items_apply wellFormed admitted
    · rw [itemsIn_concat_of_ne same, scopeOrNew, findScope?_apply_of_ne catalog same]
      exact records.items name

end Records

/-- Events change catalog and journal alike. -/
theorem Evolves.records {catalog after : Catalog} {events : List Event}
    (evolves : Evolves catalog events after) {journal : List Event}
    (records : catalog.Records journal) (wellFormed : catalog.WellFormed)
    (built : ∀ event ∈ events, event.Built) : after.Records (journal ++ events) := by
  induction evolves generalizing journal with
  | nil catalog => exact (List.append_nil journal).symm ▸ records
  | cons admitted rest ih =>
      -- The next step needs a well-formed catalog: dropping a name is a filter only if it stands
      -- once.
      rw [List.append_cons]
      exact ih (records.apply wellFormed admitted)
        (wellFormed.apply (built _ List.mem_cons_self))
        fun event member => built event (List.mem_cons_of_mem _ member)

/-- **Nothing is lost, repeated or reordered.** Whatever operations are executed from a new
catalog, successful and failing ones, each scope holds the cases and the parsers that were
registered into it since its last creation and not dropped later, each under its own name and
in the order of registration. The scopes stand in the order of their last creation, after the
global one. Operations on other scopes change nothing in a scope. -/
theorem records_run (settings : Settings) (proposals : NameSource)
    (operations : List Operation) (built : ∀ operation ∈ operations, operation.Built) :
    ((new settings proposals).run operations).scopeNames =
      globalName :: standing ((new settings proposals).journal operations) ∧
    (∀ name scope, ((new settings proposals).run operations).findScope? name = some scope →
      scope.cases.entries =
        ((itemsIn name ((new settings proposals).journal operations)).filterMap Item.case?).map
          (fun compiled => (compiled.name, compiled)) ∧
      scope.parsers.entries =
        ((itemsIn name ((new settings proposals).journal operations)).filterMap Item.parser?).map
          (fun parser => (parser.name, parser))) ∧
    (∀ name others, (∀ operation ∈ others, operation.Avoids name) →
      (((new settings proposals).run operations).run others).findScope? name =
        ((new settings proposals).run operations).findScope? name) := by
  have start := wellFormed_new settings proposals
  have sound : ∀ event ∈ (new settings proposals).journal operations, event.Built :=
    built_of_mem_journal built
  have evolves := evolves_run (new settings proposals) operations
  have wellFormed := evolves.wellFormed start sound
  have records := evolves.records (records_new settings proposals) start sound
  rw [List.nil_append] at records
  refine ⟨congrArg (globalName :: ·) records.scopes, ?_, ?_⟩
  · intro name scope found
    have inner := wellFormed.each name scope found
    have lists := records.items name
    rw [scopeOrNew_of_found found] at lists
    rw [← lists.cases, ← lists.parsers]
    exact ⟨inner.cases.entries_eq, inner.parsers.entries_eq⟩
  · intro name others avoids
    exact findScope?_run_of_avoids _ avoids

/-- A parser that passes values on. -/
def passing (name : String) : ValueParser := ValueParser.ofFunction name id

/-- Two scopes share a parser. In the one it is dropped and registered again, after a second
attempt to drop it has failed; the other, older one is overwritten. -/
def rebuilding : List Operation :=
  [.single (.register (.ofParser "p" (.parser (passing "p")) (some "b"))),
    .single (.register (.ofParser "p" (.parser (passing "p")) (some "a"))),
    .single (.removeFrom "a" (.parserNamed "p")),
    .single (.removeFrom "a" (.parserNamed "p")),
    .single (.addTo "a" (.ofParser (passing "q"))),
    .single (.addTo "a" (.ofParser (passing "p"))),
    .addScope "b" [] true]

/-- The older scope now comes last and is empty, the shared parser is the last one of the other. -/
theorem records_run_rebuilding :
    ((new {} .hexadecimal).run rebuilding).scopeNames =
      globalName :: standing ((new {} .hexadecimal).journal rebuilding) ∧
    standing ((new {} .hexadecimal).journal rebuilding) = ["a", "b"] ∧
    (itemsIn "a" ((new {} .hexadecimal).journal rebuilding)).map Item.label =
      [.parserNamed "q", .parserNamed "p"] ∧
    (itemsIn "b" ((new {} .hexadecimal).journal rebuilding)).map Item.label = [] := by
  refine ⟨(records_run {} .hexadecimal rebuilding ?_).1, by decide, by decide, by decide⟩
  intro operation member
  simp only [rebuilding, List.mem_cons, List.not_mem_nil, or_false] at member
  rcases member with rfl | rfl | rfl | rfl | rfl | rfl | rfl
  · exact ValueParser.Built.function "p" id
  · exact ValueParser.Built.function "p" id
  · exact trivial
  · exact trivial
  · exact ValueParser.Built.function "q" id
  · exact ValueParser.Built.function "p" id
  · exact fun _ listed => nomatch listed

end Catalog

end ErrorCatalog
