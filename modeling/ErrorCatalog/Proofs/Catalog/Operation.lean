import ErrorCatalog.Rules
import ErrorCatalog.Proofs.Catalog.Item
import ErrorCatalog.Proofs.Results

/-!
# Operations on catalogs

Everything that can change a catalog, as data: single calls (`Call`), and
operations (`Operation`) that also include the ones which register many items.
A run executes operations one after the other, whether they succeed or not.

- `Catalog.register_eq`: a registration builds its item first and then places
  it, and only the name of an unnamed item depends on the catalog;
- `Catalog.execute_eq_performAll`: an operation is a list of single calls, some
  of which could not even be made, carried out up to the first failure.
-/

namespace ErrorCatalog

/-- The registration of one item. -/
inductive Registration where
  | ofParser (name : String) (source : ParserSource) (scope : Option String)
  | ofCase (definition : CaseDefinition) (scope : Option String)
  | ofPassthrough (passthrough : Passthrough) (scope : Option String)

/-- The scope that a definition goes to when it is registered for a scope. -/
def CaseDefinition.goesTo (definition : CaseDefinition) (call : String) : String :=
  definition.scope.getD call

namespace Registration

/-- The name of the scope that the item goes to: the one that it names itself comes before the one
that it is registered for, and the global scope is the last resort. -/
def target : Registration → String
  | ofParser _ _ scope => scope.getD Catalog.globalName
  | ofCase definition scope => definition.goesTo (scope.getD Catalog.globalName)
  | ofPassthrough passthrough scope => passthrough.scope.getD (scope.getD Catalog.globalName)

/-- Build the item. -/
def build (catalog : Catalog) : Registration → Except Error Item
  | ofParser name source _ => (ValueParser.ofSource? name source).map .ofParser
  | ofCase definition _ => (Case.compile definition).map .ofCase
  | ofPassthrough passthrough scope =>
      (Case.compile (catalog.passthroughDefinition passthrough scope)).map .ofCase

end Registration

/-- A single call on a catalog, or on one of its scopes: a prebuilt scope is inserted, a scope is
opened if it does not exist yet, items are added to and removed from scopes that exist. -/
inductive Call where
  | register (registration : Registration)
  | insertScope (scope : Scope) (overwrite : Bool)
  | removeScope (name : String)
  | openScope (name : String)
  | addTo (scope : String) (item : Item)
  | removeFrom (scope : String) (label : Label)

/-- The name of the scope that a call is addressed to. -/
def Call.target : Call → String
  | register registration => registration.target
  | insertScope scope _ => scope.name
  | removeScope name => name
  | openScope name => name
  | addTo scope _ => scope
  | removeFrom scope _ => scope

/-- An operation on a catalog. -/
inductive Catalog.Operation where
  | single (call : Call)
  | addCases (definitions : List CaseDefinition) (scope : Option String)
  | addPassthroughs (passthroughs : List Passthrough) (scope : Option String)
  | addScope (name : String) (definitions : List CaseDefinition) (overwrite : Bool)
  | loadRules (document : Nat) (rules : RuleSet)

namespace Catalog

/-- The change without its result. -/
def Change.forget {α : Type} (change : Change α) : Change Unit :=
  (change.1.map fun _ => (), change.2)

/-- Register an item. -/
def register (catalog : Catalog) : Registration → Change Unit
  | .ofParser name source scope => catalog.addParser name source scope
  | .ofCase definition scope => catalog.addCase definition scope
  | .ofPassthrough passthrough scope => catalog.addPassthrough passthrough scope

/-- Carry out a single call. -/
def perform (catalog : Catalog) : Call → Change Unit
  | .register registration => catalog.register registration
  | .insertScope scope overwrite => catalog.insertScope scope overwrite
  | .removeScope name => (catalog.removeScope name).forget
  | .openScope name => (.ok (), (catalog.scopeOrCreate name).2)
  | .addTo name item =>
      catalog.updateScope name fun scope => (scope.add item).map fun scope => ((), scope)
  | .removeFrom name label => (catalog.updateScope name fun scope => scope.remove label).forget

/-- Execute an operation. -/
def execute (catalog : Catalog) : Operation → Change Unit
  | .single call => catalog.perform call
  | .addCases definitions scope => catalog.addCases definitions scope
  | .addPassthroughs passthroughs scope => catalog.addPassthroughs passthroughs scope
  | .addScope name definitions overwrite => catalog.addScope name definitions overwrite
  | .loadRules document rules => catalog.loadRules document rules

/-- The catalog after operations that are executed in order; a failing one does not stop the
run. -/
def run (catalog : Catalog) (operations : List Operation) : Catalog :=
  operations.foldl (fun catalog operation => (catalog.execute operation).2) catalog

/-- Carry out calls in order, up to the first failure. A call that cannot be made fails with
its own error. -/
def performAll (catalog : Catalog) : List (Except Error Call) → Change Unit
  | [] => (.ok (), catalog)
  | .error error :: _ => (.error error, catalog)
  | .ok call :: rest => (catalog.perform call).andThen fun catalog => catalog.performAll rest

/-- The scope that is looked for is the one of the definition, else that of the call, else the
global one. -/
theorem targetName_eq (own call : Option String) :
    targetName own call = own.getD (call.getD globalName) := by
  cases own <;> rfl

/-- A registration builds its item, which then goes to its scope. -/
theorem register_eq (catalog : Catalog) (registration : Registration) :
    catalog.register registration =
      match registration.build catalog with
      | .ok item => catalog.place registration.target item
      | .error error => (.error error, catalog) := by
  cases registration with
  | ofParser name source scope =>
      rw [register, addParser, Registration.build]
      cases ValueParser.ofSource? name source <;> rfl
  | ofCase definition scope =>
      rw [register, addCase, Registration.build, targetName_eq]
      cases Case.compile definition <;> rfl
  | ofPassthrough passthrough scope =>
      have target : targetName (catalog.passthroughDefinition passthrough scope).scope none =
          passthrough.scope.getD (scope.getD globalName) := targetName_eq passthrough.scope scope
      rw [register, addPassthrough, addCase, Registration.build, target]
      cases Case.compile (catalog.passthroughDefinition passthrough scope) <;> rfl

end Catalog

/-! ## Operations as lists of calls -/

/-- The calls for the rules of one scope. -/
def RuleSection.calls (document : Nat) (place : List Nat) (scope : String)
    (rules : RuleSection) : List (Except Error Call) :=
  (rules.parsers.entries.map fun entry =>
      .ok (.register (.ofParser entry.1 (.table entry.2) (some scope)))) ++
    (rules.cases.zipIdx.map fun entry =>
      (entry.1.definition? ⟨document, place ++ [0, entry.2]⟩).map fun definition =>
        .register (.ofCase definition (some scope))) ++
    rules.passthroughs.zipIdx.map fun entry =>
      (entry.1.passthrough? ⟨document, place ++ [1, entry.2]⟩).map fun passthrough =>
        .register (.ofPassthrough passthrough (some scope))

/-- The calls for a rule file. -/
def RuleSet.calls (document : Nat) (rules : RuleSet) : List (Except Error Call) :=
  rules.global.calls document [0] Catalog.globalName ++
    rules.scopes.entries.zipIdx.flatMap fun entry =>
      .ok (.openScope entry.1.1) :: entry.1.2.calls document [entry.2 + 1] entry.1.1

/-- The single calls of an operation; entries of a rule file may fail before any call. -/
def Catalog.Operation.calls : Catalog.Operation → List (Except Error Call)
  | single call => [.ok call]
  | addCases definitions scope =>
      definitions.map fun definition => .ok (.register (.ofCase definition scope))
  | addPassthroughs passthroughs scope =>
      passthroughs.map fun passthrough => .ok (.register (.ofPassthrough passthrough scope))
  | addScope name definitions overwrite =>
      .ok (.insertScope (Scope.new name) overwrite) ::
        definitions.map fun definition => .ok (.register (.ofCase definition (some name)))
  | loadRules document rules => rules.calls document

namespace Catalog

theorem Change.andThen_ok (change : Change Unit) :
    change.andThen (fun catalog => (.ok (), catalog)) = change := by
  obtain ⟨result, catalog⟩ := change
  cases result <;> rfl

/-- Changes in turn are grouped in either way. -/
theorem Change.andThen_assoc (change : Change Unit) (first second : Catalog → Change Unit) :
    (change.andThen first).andThen second =
      change.andThen fun catalog => (first catalog).andThen second := by
  obtain ⟨result, catalog⟩ := change
  cases result <;> rfl

/-- Changes that succeed in turn succeed one by one. -/
theorem Change.exists_of_andThen_eq_ok {first : Change Unit} {next : Catalog → Change Unit}
    {after : Catalog} (succeeds : first.andThen next = (.ok (), after)) :
    ∃ middle, first = (.ok (), middle) ∧ next middle = (.ok (), after) := by
  obtain ⟨result, middle⟩ := first
  cases result with
  | error error => cases succeeds
  | ok _ => exact ⟨middle, rfl, succeeds⟩

/-- Attempts are made in two parts, the second one if the first one succeeds. -/
theorem performAll_append (catalog : Catalog) (first second : List (Except Error Call)) :
    catalog.performAll (first ++ second) =
      (catalog.performAll first).andThen fun catalog => catalog.performAll second := by
  induction first generalizing catalog with
  | nil => rfl
  | cons attempt rest ih =>
      cases attempt with
      | error error => rfl
      | ok call =>
          rw [List.cons_append, performAll, performAll, Change.andThen_assoc]
          exact congrArg (catalog.perform call).andThen (funext fun next => ih next)

theorem performAll_singleton (catalog : Catalog) (call : Call) :
    catalog.performAll [.ok call] = catalog.perform call :=
  Change.andThen_ok (catalog.perform call)

/-- Changes that are lists of calls are one such list when they are applied in turn. -/
theorem changeAll_eq_performAll {α : Type} {change : Catalog → α → Change Unit}
    {calls : α → List (Except Error Call)}
    (single : ∀ catalog item, change catalog item = catalog.performAll (calls item))
    (catalog : Catalog) (items : List α) :
    changeAll change catalog items = catalog.performAll (items.flatMap calls) := by
  induction items generalizing catalog with
  | nil => rfl
  | cons item rest ih =>
      have step : changeAll change catalog (item :: rest) =
          (change catalog item).andThen fun next => changeAll change next rest := rfl
      rw [step, single, List.flatMap_cons, performAll_append]
      exact congrArg (catalog.performAll (calls item)).andThen (funext fun next => ih next)

/-- Changes for each item are attempts in turn if each one is a single attempt. -/
theorem changeAll_eq_performAll_map {α : Type} {change : Catalog → α → Change Unit}
    {attempt : α → Except Error Call}
    (single : ∀ catalog item, change catalog item = catalog.performAll [attempt item])
    (catalog : Catalog) (items : List α) :
    changeAll change catalog items = catalog.performAll (items.map attempt) := by
  rw [changeAll_eq_performAll single, List.map_eq_flatMap]

/-- The rules of one scope are registered by their calls. -/
theorem loadSection_eq_performAll (document : Nat) (place : List Nat) (scope : String)
    (catalog : Catalog) (rules : RuleSection) :
    loadSection document place scope catalog rules =
      catalog.performAll (rules.calls document place scope) := by
  have tables : ∀ (catalog : Catalog) (entry : String × LookupTable),
      loadTable scope catalog entry =
        catalog.performAll [.ok (.register (.ofParser entry.1 (.table entry.2) (some scope)))] :=
    fun catalog entry => (performAll_singleton catalog
      (.register (.ofParser entry.1 (.table entry.2) (some scope)))).symm
  have cases : ∀ (catalog : Catalog) (entry : RuleCase × Nat),
      loadCase scope document place catalog entry =
        catalog.performAll [(entry.1.definition? ⟨document, place ++ [0, entry.2]⟩).map
          fun definition => .register (.ofCase definition (some scope))] := by
    intro catalog entry
    rw [loadCase]
    cases entry.1.definition? ⟨document, place ++ [0, entry.2]⟩ with
    | error error => rfl
    | ok definition =>
        exact (performAll_singleton catalog (.register (.ofCase definition (some scope)))).symm
  have passthroughs : ∀ (catalog : Catalog) (entry : RulePassthrough × Nat),
      loadPassthrough scope document place catalog entry =
        catalog.performAll [(entry.1.passthrough? ⟨document, place ++ [1, entry.2]⟩).map
          fun passthrough => .register (.ofPassthrough passthrough (some scope))] := by
    intro catalog entry
    rw [loadPassthrough]
    cases entry.1.passthrough? ⟨document, place ++ [1, entry.2]⟩ with
    | error error => rfl
    | ok passthrough =>
        exact (performAll_singleton catalog
          (.register (.ofPassthrough passthrough (some scope)))).symm
  simp only [loadSection, RuleSection.calls, performAll_append, changeAll_eq_performAll_map tables,
    changeAll_eq_performAll_map cases, changeAll_eq_performAll_map passthroughs]

/-- An operation carries out its calls up to the first failure. -/
theorem execute_eq_performAll (catalog : Catalog) (operation : Operation) :
    catalog.execute operation = catalog.performAll operation.calls := by
  have definitions : ∀ (scope : Option String) (catalog : Catalog) (definition : CaseDefinition),
      catalog.addCase definition scope =
        catalog.performAll [.ok (.register (.ofCase definition scope))] :=
    fun scope catalog definition =>
      (performAll_singleton catalog (.register (.ofCase definition scope))).symm
  cases operation with
  | single call => exact (performAll_singleton catalog call).symm
  | addCases cases scope => exact changeAll_eq_performAll_map (definitions scope) catalog cases
  | addPassthroughs passthroughs scope =>
      exact changeAll_eq_performAll_map
        (fun catalog passthrough =>
          (performAll_singleton catalog (.register (.ofPassthrough passthrough scope))).symm)
        catalog passthroughs
  | addScope name cases overwrite =>
      have inserted : catalog.addScope name cases overwrite =
          (catalog.insertScope (Scope.new name) overwrite).andThen fun next =>
            next.addCases cases (some name) := rfl
      rw [execute, inserted, Operation.calls, performAll, perform]
      exact congrArg (catalog.insertScope (Scope.new name) overwrite).andThen
        (funext fun next => changeAll_eq_performAll_map (definitions (some name)) next cases)
  | loadRules document rules =>
      have scopes : ∀ (catalog : Catalog) (entry : (String × RuleSection) × Nat),
          loadScope document catalog entry =
            catalog.performAll (.ok (.openScope entry.1.1) ::
              entry.1.2.calls document [entry.2 + 1] entry.1.1) :=
        fun catalog entry => loadSection_eq_performAll document [entry.2 + 1] entry.1.1 _ entry.1.2
      rw [execute, Catalog.loadRules, Operation.calls, RuleSet.calls, performAll_append,
        loadSection_eq_performAll]
      exact congrArg (catalog.performAll _).andThen
        (funext fun next => changeAll_eq_performAll scopes next rules.scopes.entries.zipIdx)

end Catalog

end ErrorCatalog
