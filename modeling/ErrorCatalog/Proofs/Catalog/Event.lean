import ErrorCatalog.Proofs.Catalog.Built

/-!
# Events

What an operation does to a catalog is a list of events: scopes are created or
removed, items are added or dropped. A call that fails causes none.

- `Catalog.Evolves` is a sequence of events, each admissible when it happens;
- `Catalog.evolves_perform`: a single call is the sequence of its events;
- `Catalog.evolves_run`: so is a whole run, whose events make up its journal;
- `Catalog.findScope?_run_of_avoids`: operations have no effect on a scope that
  none of their calls is addressed to.
-/

namespace ErrorCatalog

/-- What happens to a catalog. A scope is created with some content, and an older one of its name
is then gone; after a removal no scope of the name is left. -/
inductive Event where
  | created (scope : Scope)
  | removed (name : String)
  | added (scope : String) (item : Item)
  | dropped (scope : String) (label : Label)

/-- The name of the scope that an event concerns. -/
def Event.subject : Event → String
  | created scope => scope.name
  | removed name => name
  | added scope _ => scope
  | dropped scope _ => scope

/-- An event that brings in nothing but what can be built. -/
def Event.Built : Event → Prop
  | created scope => scope.Built
  | removed _ => True
  | added _ item => item.Built
  | dropped _ _ => True

namespace Catalog

/-- The catalog after an event. -/
def apply (catalog : Catalog) : Event → Catalog
  | .created scope => (catalog.withoutScope scope.name).putScope scope.name scope
  | .removed name => catalog.withoutScope name
  | .added name item => catalog.putScope name ((catalog.scopeOrNew name).append item)
  | .dropped name label => catalog.putScope name ((catalog.scopeOrNew name).without label)

/-- When an event can happen: the global scope stays, items come to existing scopes under free
labels, and only existing ones are dropped. -/
def Admits (catalog : Catalog) : Event → Prop
  | .created scope => scope.name ≠ globalName
  | .removed name => name ≠ globalName
  | .added name item =>
      ∃ scope, catalog.findScope? name = some scope ∧ scope.holds item.label = false
  | .dropped name label =>
      ∃ scope, catalog.findScope? name = some scope ∧ scope.holds label = true

/-- A catalog becomes another one by events that can happen in turn. -/
inductive Evolves : Catalog → List Event → Catalog → Prop where
  | nil (catalog : Catalog) : Evolves catalog [] catalog
  | cons {catalog after : Catalog} {event : Event} {later : List Event}
      (admitted : catalog.Admits event) (rest : Evolves (catalog.apply event) later after) :
      Evolves catalog (event :: later) after

namespace Evolves

theorem single {catalog : Catalog} {event : Event} (admitted : catalog.Admits event) :
    Evolves catalog [event] (catalog.apply event) :=
  .cons admitted (.nil _)

/-- Runs are put together. -/
theorem append {catalog middle after : Catalog} {first second : List Event}
    (left : Evolves catalog first middle) (right : Evolves middle second after) :
    Evolves catalog (first ++ second) after := by
  induction left with
  | nil catalog => exact right
  | cons admitted rest ih => exact .cons admitted (ih right)

end Evolves

/-! ## The events of calls -/

/-- The event of opening a scope, unless it exists. -/
def opening (catalog : Catalog) (name : String) : List Event :=
  if catalog.hasScope name then [] else [.created (Scope.new name)]

/-- The events of a call that succeeds. -/
def effects (catalog : Catalog) : Call → List Event
  | .register registration =>
      match registration.build catalog with
      | .ok item => catalog.opening registration.target ++ [.added registration.target item]
      | .error _ => []
  | .insertScope scope _ => [.created scope]
  | .removeScope name => [.removed name]
  | .openScope name => catalog.opening name
  | .addTo name item => [.added name item]
  | .removeFrom name label => [.dropped name label]

/-- The events of a call; one that fails has none. -/
def events (catalog : Catalog) (call : Call) : List Event :=
  match (catalog.perform call).1 with
  | .ok _ => catalog.effects call
  | .error _ => []

theorem hasScope_eq_false_iff (catalog : Catalog) (name : String) :
    catalog.hasScope name = false ↔ catalog.findScope? name = none := by
  rw [hasScope, Option.isSome_eq_false_iff, Option.isNone_iff_eq_none]

/-- The global scope is always found. -/
theorem ne_globalName_of_absent {catalog : Catalog} {name : String}
    (absent : catalog.findScope? name = none) : name ≠ globalName := by
  rintro rfl
  cases absent

/-- A scope that is created on demand is found afterwards. -/
theorem findScope?_scopeOrCreate (catalog : Catalog) (name : String) :
    (catalog.scopeOrCreate name).2.findScope? name = some (catalog.scopeOrNew name) := by
  cases found : catalog.findScope? name with
  | some scope => rw [scopeOrCreate_of_found found, scopeOrNew_of_found found, found]
  | none =>
      rw [scopeOrCreate_of_absent found, findScope?_putScope_self, scopeOrNew, found,
        Option.getD_none]

/-- A scope that is put need not be created before. -/
theorem putScope_scopeOrCreate (catalog : Catalog) (name : String) (scope : Scope) :
    (catalog.scopeOrCreate name).2.putScope name scope = catalog.putScope name scope := by
  cases found : catalog.findScope? name with
  | some own => rw [scopeOrCreate_of_found found]
  | none => rw [scopeOrCreate_of_absent found, putScope_putScope]

/-- Opening a scope creates an empty one unless it exists. -/
theorem evolves_opening (catalog : Catalog) (name : String) :
    Evolves catalog (catalog.opening name) (catalog.scopeOrCreate name).2 := by
  cases found : catalog.findScope? name with
  | some scope =>
      rw [opening, hasScope, found, scopeOrCreate_of_found found]
      exact .nil catalog
  | none =>
      rw [opening, hasScope, found, scopeOrCreate_of_absent found]
      have created : catalog.apply (.created (Scope.new name)) =
          catalog.putScope name (Scope.new name) :=
        congrArg (fun before : Catalog => before.putScope name (Scope.new name))
          (withoutScope_of_absent found)
      exact created ▸ Evolves.single (ne_globalName_of_absent found)

/-- Placing an item under a free label opens its scope and adds it. -/
theorem evolves_place {catalog : Catalog} {name : String} {item : Item}
    (free : (catalog.scopeOrNew name).holds item.label = false) :
    Evolves catalog (catalog.opening name ++ [.added name item])
      (catalog.putScope name ((catalog.scopeOrNew name).append item)) := by
  have opened := findScope?_scopeOrCreate catalog name
  have admitted : (catalog.scopeOrCreate name).2.Admits (.added name item) := ⟨_, opened, free⟩
  have applied : (catalog.scopeOrCreate name).2.apply (.added name item) =
      catalog.putScope name ((catalog.scopeOrNew name).append item) := by
    rw [apply, scopeOrNew_of_found opened, putScope_scopeOrCreate]
  exact (evolves_opening catalog name).append (applied ▸ .single admitted)

/-- A scope is added if it is not the global one, and new or may be overwritten. -/
theorem insertScope_eq (catalog : Catalog) (scope : Scope) (overwrite : Bool) :
    catalog.insertScope scope overwrite =
      if catalog.hasScope scope.name ∧ overwrite = false then
        (.error (.scopeExists scope.name), catalog)
      else if scope.name = globalName then (.error .globalScopeRemoval, catalog)
      else (.ok (), catalog.apply (.created scope)) := by
  cases existing : catalog.hasScope scope.name with
  | false =>
      have absent := (hasScope_eq_false_iff catalog scope.name).mp existing
      simp [insertScope, existing, ne_globalName_of_absent absent, apply,
        withoutScope_of_absent absent]
  | true =>
      cases overwrite with
      | false => simp [insertScope, existing]
      | true =>
          by_cases global : scope.name = globalName
          · have found : catalog.hasScope globalName = true := rfl
            simp [insertScope, removeScope, global, found]
          · simp [insertScope, existing, removeScope, global, apply, withoutScope]

/-- Changing a scope that is missing fails. -/
theorem updateScope_of_absent {α : Type} {catalog : Catalog} {name : String}
    (change : Scope → Except Error (α × Scope)) (absent : catalog.findScope? name = none) :
    catalog.updateScope name change = (.error (.scopeNotFound name), catalog) := by
  rw [updateScope, getScope, absent]

/-- A change that fails leaves the catalog. -/
theorem updateScope_of_error {α : Type} {catalog : Catalog} {name : String} {scope : Scope}
    {change : Scope → Except Error (α × Scope)} {error : Error}
    (found : catalog.findScope? name = some scope) (failed : change scope = .error error) :
    catalog.updateScope name change = (.error error, catalog) := by
  simp only [updateScope, getScope, found, failed]

/-- A change that succeeds puts the changed scope. -/
theorem updateScope_of_ok {α : Type} {catalog : Catalog} {name : String} {scope next : Scope}
    {change : Scope → Except Error (α × Scope)} {result : α}
    (found : catalog.findScope? name = some scope) (changed : change scope = .ok (result, next)) :
    catalog.updateScope name change = (.ok result, catalog.putScope name next) := by
  simp only [updateScope, getScope, found, changed]

/-- Registering does what its events say. -/
theorem evolves_register (catalog : Catalog) (registration : Registration) :
    Evolves catalog (catalog.events (.register registration))
      (catalog.register registration).2 := by
  rw [events, effects, perform, register_eq]
  cases built : registration.build catalog with
  | error error => exact .nil catalog
  | ok item =>
      cases taken : (catalog.scopeOrNew registration.target).holds item.label with
      | true =>
          simp only [place_of_holds taken]
          exact .nil catalog
      | false =>
          simp only [place_of_not_holds taken]
          exact evolves_place taken

/-- Inserting a scope does what its events say. -/
theorem evolves_insertScope (catalog : Catalog) (scope : Scope) (overwrite : Bool) :
    Evolves catalog (catalog.events (.insertScope scope overwrite))
      (catalog.insertScope scope overwrite).2 := by
  rw [events, effects, perform, insertScope_eq]
  by_cases taken : catalog.hasScope scope.name ∧ overwrite = false
  · rw [if_pos taken]
    exact .nil catalog
  · rw [if_neg taken]
    by_cases global : scope.name = globalName
    · rw [if_pos global]
      exact .nil catalog
    · rw [if_neg global]
      exact .single global

/-- Removing a scope does what its events say. -/
theorem evolves_removeScope (catalog : Catalog) (name : String) :
    Evolves catalog (catalog.events (.removeScope name)) (catalog.removeScope name).2 := by
  rw [events, effects, perform, removeScope]
  by_cases global : name = globalName
  · rw [if_pos global]
    exact .nil catalog
  · rw [if_neg global]
    exact .single global

/-- Adding to a scope does what its events say. -/
theorem evolves_addTo (catalog : Catalog) (name : String) (item : Item) :
    Evolves catalog (catalog.events (.addTo name item)) (catalog.perform (.addTo name item)).2 := by
  rw [events, effects, perform]
  cases found : catalog.findScope? name with
  | none =>
      rw [updateScope_of_absent _ found]
      exact .nil catalog
  | some scope =>
      cases taken : scope.holds item.label with
      | true =>
          have failed : (scope.add item).map (fun next => ((), next)) =
              .error (scope.duplicate item.label) :=
            congrArg (Except.map _) (Scope.add_of_holds taken)
          rw [updateScope_of_error found failed]
          exact .nil catalog
      | false =>
          have changed : (scope.add item).map (fun next => ((), next)) =
              .ok ((), scope.append item) :=
            congrArg (Except.map _) (Scope.add_of_not_holds taken)
          have admitted : catalog.Admits (.added name item) := ⟨scope, found, taken⟩
          have step := Evolves.single admitted
          rw [apply, scopeOrNew_of_found found] at step
          rw [updateScope_of_ok found changed]
          exact step

/-- Removing from a scope does what its events say. -/
theorem evolves_removeFrom (catalog : Catalog) (name : String) (label : Label) :
    Evolves catalog (catalog.events (.removeFrom name label))
      (catalog.perform (.removeFrom name label)).2 := by
  rw [events, effects, perform]
  cases found : catalog.findScope? name with
  | none =>
      rw [updateScope_of_absent _ found]
      exact .nil catalog
  | some scope =>
      cases present : scope.holds label with
      | false =>
          rw [updateScope_of_error found (Scope.remove_of_not_holds present)]
          exact .nil catalog
      | true =>
          obtain ⟨item, removed⟩ := Scope.remove_of_holds present
          have admitted : catalog.Admits (.dropped name label) := ⟨scope, found, present⟩
          have step := Evolves.single admitted
          rw [apply, scopeOrNew_of_found found] at step
          rw [updateScope_of_ok found removed]
          exact step

/-- A single call is the sequence of its events. -/
theorem evolves_perform (catalog : Catalog) (call : Call) :
    Evolves catalog (catalog.events call) (catalog.perform call).2 := by
  cases call with
  | register registration => exact evolves_register catalog registration
  | insertScope scope overwrite => exact evolves_insertScope catalog scope overwrite
  | removeScope name => exact evolves_removeScope catalog name
  | openScope name => exact evolves_opening catalog name
  | addTo name item => exact evolves_addTo catalog name item
  | removeFrom name label => exact evolves_removeFrom catalog name label

/-! ## The events of runs -/

/-- The events of calls that are carried out in order, up to the first failure. -/
def eventsOfCalls (catalog : Catalog) : List (Except Error Call) → List Event
  | [] => []
  | .error _ :: _ => []
  | .ok call :: rest =>
      catalog.events call ++
        match (catalog.perform call).1 with
        | .ok _ => (catalog.perform call).2.eventsOfCalls rest
        | .error _ => []

/-- The events of operations that are executed in order. -/
def journal (catalog : Catalog) : List Operation → List Event
  | [] => []
  | operation :: rest =>
      catalog.eventsOfCalls operation.calls ++ (catalog.execute operation).2.journal rest

/-- Calls in turn do what their events say, also when one of them fails. -/
theorem evolves_performAll (catalog : Catalog) (attempts : List (Except Error Call)) :
    Evolves catalog (catalog.eventsOfCalls attempts) (catalog.performAll attempts).2 := by
  induction attempts generalizing catalog with
  | nil => exact .nil catalog
  | cons attempt rest ih =>
      cases attempt with
      | error error => exact .nil catalog
      | ok call =>
          have step := evolves_perform catalog call
          rw [eventsOfCalls, performAll]
          rcases performed : catalog.perform call with ⟨result, next⟩
          rw [performed] at step
          cases result with
          | error error => exact (List.append_nil (catalog.events call)).symm ▸ step
          | ok result => exact step.append (ih next)

/-- A run is the sequence of the events in its journal. -/
theorem evolves_run (catalog : Catalog) (operations : List Operation) :
    Evolves catalog (catalog.journal operations) (catalog.run operations) := by
  induction operations generalizing catalog with
  | nil => exact .nil catalog
  | cons operation rest ih =>
      have step := evolves_performAll catalog operation.calls
      rw [← execute_eq_performAll] at step
      exact step.append (ih (catalog.execute operation).2)

/-! ## What events bring in and concern -/

/-- Opening a scope creates it empty, if anything. -/
theorem eq_of_mem_opening {catalog : Catalog} {name : String} {event : Event}
    (member : event ∈ catalog.opening name) : event = .created (Scope.new name) := by
  rw [opening] at member
  split at member
  · cases member
  · exact List.mem_singleton.mp member

/-- The effects of a call concern the scope that it is addressed to, and bring in nothing but
what can be built if the call does not. -/
theorem of_mem_effects {catalog : Catalog} {call : Call} {event : Event}
    (member : event ∈ catalog.effects call) :
    event.subject = call.target ∧ (call.Built → event.Built) := by
  cases call with
  | register registration =>
      rw [effects] at member
      cases result : registration.build catalog with
      | error error =>
          rw [result] at member
          cases member
      | ok item =>
          rw [result] at member
          rcases List.mem_append.mp member with first | last
          · rw [eq_of_mem_opening first]
            exact ⟨rfl, fun _ => Scope.Built.new registration.target⟩
          · rw [List.mem_singleton.mp last]
            exact ⟨rfl, fun built => Registration.Built.item built result⟩
  | insertScope scope overwrite =>
      rw [List.mem_singleton.mp member]
      exact ⟨rfl, fun built => built⟩
  | removeScope name =>
      rw [List.mem_singleton.mp member]
      exact ⟨rfl, fun _ => trivial⟩
  | openScope name =>
      rw [eq_of_mem_opening member]
      exact ⟨rfl, fun _ => Scope.Built.new name⟩
  | addTo name item =>
      rw [List.mem_singleton.mp member]
      exact ⟨rfl, fun built => built⟩
  | removeFrom name label =>
      rw [List.mem_singleton.mp member]
      exact ⟨rfl, fun _ => trivial⟩

/-- What a call does is among what it can do. -/
theorem mem_effects_of_mem_events {catalog : Catalog} {call : Call} {event : Event}
    (member : event ∈ catalog.events call) : event ∈ catalog.effects call := by
  rw [events] at member
  split at member
  · exact member
  · cases member

/-- An event of calls in turn is one of a single call. -/
theorem exists_of_mem_eventsOfCalls {catalog : Catalog} {attempts : List (Except Error Call)}
    {event : Event} (member : event ∈ catalog.eventsOfCalls attempts) :
    ∃ (before : Catalog) (call : Call), .ok call ∈ attempts ∧ event ∈ before.events call := by
  induction attempts generalizing catalog with
  | nil => cases member
  | cons attempt rest ih =>
      cases attempt with
      | error error => cases member
      | ok call =>
          rw [eventsOfCalls, List.mem_append] at member
          rcases member with first | later
          · exact ⟨catalog, call, List.mem_cons_self, first⟩
          · split at later
            · obtain ⟨before, other, listed, inside⟩ := ih later
              exact ⟨before, other, List.mem_cons_of_mem _ listed, inside⟩
            · cases later

/-- An event of a run is an event of a call of one of its operations. -/
theorem exists_of_mem_journal {catalog : Catalog} {operations : List Operation}
    {event : Event} (member : event ∈ catalog.journal operations) :
    ∃ operation ∈ operations, ∃ (before : Catalog) (call : Call),
      .ok call ∈ operation.calls ∧ event ∈ before.events call := by
  induction operations generalizing catalog with
  | nil => cases member
  | cons operation rest ih =>
      rcases List.mem_append.mp member with first | later
      · exact ⟨operation, List.mem_cons_self, exists_of_mem_eventsOfCalls first⟩
      · obtain ⟨other, listed, inside⟩ := ih later
        exact ⟨other, List.mem_cons_of_mem _ listed, inside⟩

/-- Built operations bring in built things only. -/
theorem built_of_mem_journal {catalog : Catalog} {operations : List Operation}
    (built : ∀ operation ∈ operations, operation.Built) :
    ∀ event ∈ catalog.journal operations, event.Built := by
  intro event member
  obtain ⟨operation, listed, before, call, inside, caused⟩ := exists_of_mem_journal member
  exact (of_mem_effects (mem_effects_of_mem_events caused)).2 ((built operation listed).call inside)

/-- An event has no effect on the scopes that it does not concern. -/
theorem findScope?_apply_of_ne (catalog : Catalog) {event : Event} {name : String}
    (apart : event.subject ≠ name) :
    (catalog.apply event).findScope? name = catalog.findScope? name := by
  cases event with
  | created scope =>
      have own : scope.name ≠ name := apart
      rw [apply, findScope?_putScope_of_ne _ scope own]
      exact findScope?_withoutScope_of_ne catalog own.symm
  | removed scope => exact findScope?_withoutScope_of_ne catalog apart.symm
  | added scope item => exact findScope?_putScope_of_ne catalog _ apart
  | dropped scope label => exact findScope?_putScope_of_ne catalog _ apart

/-- Events about other scopes leave a scope. -/
theorem Evolves.findScope?_eq {catalog after : Catalog} {events : List Event} {name : String}
    (evolves : Evolves catalog events after) (apart : ∀ event ∈ events, event.subject ≠ name) :
    after.findScope? name = catalog.findScope? name := by
  induction evolves with
  | nil catalog => rfl
  | cons admitted rest ih =>
      rw [ih fun event member => apart event (List.mem_cons_of_mem _ member)]
      exact findScope?_apply_of_ne _ (apart _ List.mem_cons_self)

theorem settings_apply (catalog : Catalog) (event : Event) :
    (catalog.apply event).settings = catalog.settings := by
  cases event with
  | created scope => exact settings_putScope (catalog.withoutScope scope.name) _ _
  | removed name => rfl
  | added name item => exact settings_putScope catalog _ _
  | dropped name label => exact settings_putScope catalog _ _

/-- A run leaves the settings. -/
theorem Evolves.settings_eq {catalog after : Catalog} {events : List Event}
    (evolves : Evolves catalog events after) : after.settings = catalog.settings := by
  induction evolves with
  | nil catalog => rfl
  | cons admitted rest ih => exact ih.trans (settings_apply _ _)

/-- No call of an operation is addressed to a scope. -/
def Operation.Avoids (operation : Operation) (name : String) : Prop :=
  ∀ call, .ok call ∈ operation.calls → call.target ≠ name

/-- Operations have no effect on a scope that none of their calls is addressed to. -/
theorem findScope?_run_of_avoids (catalog : Catalog) {operations : List Operation}
    {name : String} (avoids : ∀ operation ∈ operations, operation.Avoids name) :
    (catalog.run operations).findScope? name = catalog.findScope? name := by
  refine (evolves_run catalog operations).findScope?_eq ?_
  intro event member
  obtain ⟨operation, listed, before, call, inside, caused⟩ := exists_of_mem_journal member
  rw [(of_mem_effects (mem_effects_of_mem_events caused)).1]
  exact avoids operation listed call inside

end Catalog

end ErrorCatalog
