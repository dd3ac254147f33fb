import ErrorCatalog.Proofs.Catalog.Journal
import ErrorCatalog.Proofs.Catalog.Loading
import ErrorCatalog.Proofs.Catalog.RegistrationOrder

/-!
# Scopes that are added with their cases

A scope is added in two steps. The old scope of its name is dropped, if there is
one, and a new one comes last (`Catalog.renewed`). Then cases are registered one
by one, most of them into the new scope; but a definition that names a scope goes
there, and this scope may be new as well.

- `Catalog.Gains`: what a registration of cases makes of a catalog, preserved by
  each single one (`Catalog.Gains.cons`);
- `Catalog.Renews`: the same for a scope that is added, read off the catalog
  before it;
- `Catalog.addScope_renews`: when a scope is refused, and what is left when a
  definition fails.
-/

namespace ErrorCatalog

namespace Scope

/-- The scope with some cases after its own ones. -/
def gaining (scope : Scope) (cases : List Case) : Scope :=
  { scope with
    cases := ⟨scope.cases.entries ++ cases.map fun compiled => (compiled.name, compiled)⟩ }

@[simp] theorem gaining_nil (scope : Scope) : scope.gaining [] = scope := by
  simp [gaining]

/-- Cases are gained in two parts. -/
theorem gaining_gaining (scope : Scope) (first second : List Case) :
    (scope.gaining first).gaining second = scope.gaining (first ++ second) := by
  simp [gaining]

/-- A case under a new name is gained. -/
theorem append_eq_gaining {scope : Scope} {compiled : Case}
    (free : scope.holds (.caseNamed compiled.name) = false) :
    scope.append (.ofCase compiled) = scope.gaining [compiled] := by
  have entries := Register.entries_insert_of_notMem compiled (case_notMem_names free)
  have cases : scope.cases.insert compiled.name compiled =
      ⟨scope.cases.entries ++ [(compiled.name, compiled)]⟩ := congrArg Register.mk entries
  rw [append, cases]
  rfl

end Scope

namespace Catalog

/-- The cases that definitions bring into a scope when they are registered for another one, or for
this one. -/
def addressed (call name : String) (definitions : List CaseDefinition) : List Case :=
  (definitions.filter fun definition => definition.goesTo call == name).filterMap fun definition =>
    (Case.compile definition).toOption

/-- The cases for a scope are read off the definitions in order. -/
theorem addressed_cons {definition : CaseDefinition} {compiled : Case}
    (compiles : Case.compile definition = .ok compiled) (call name : String)
    (rest : List CaseDefinition) :
    addressed call name (definition :: rest) =
      if definition.goesTo call = name then compiled :: addressed call name rest
      else addressed call name rest := by
  by_cases here : definition.goesTo call = name <;>
    simp [addressed, here, compiles, Except.toOption]

/-! ## Registering cases -/

/-- What the registration of cases makes of a catalog: all definitions compile, each scope gains the
cases that go there, and scopes that did not exist come last, in the order in which they are
needed. -/
structure Gains (before : Catalog) (call : String) (definitions : List CaseDefinition)
    (after : Catalog) : Prop where
  compiles : ∀ definition ∈ definitions, ∃ compiled, Case.compile definition = .ok compiled
  content : ∀ name, after.scopeOrNew name =
    (before.scopeOrNew name).gaining (addressed call name definitions)
  present : ∀ name, after.hasScope name =
    (before.hasScope name || definitions.any fun definition => definition.goesTo call == name)
  names : after.scopes.names = before.scopes.names ++
    ((definitions.map (·.goesTo call)).filter fun name => !before.hasScope name).eraseDups
  settings : after.settings = before.settings
  proposals : after.proposals = before.proposals

/-- A scope that is opened for an item comes last. -/
theorem names_enter (catalog : Catalog) (placement : Placement) :
    (catalog.enter placement).scopes.names =
      if catalog.hasScope placement.scope then catalog.scopes.names
      else catalog.scopes.names ++ [placement.scope] := by
  rw [enter]
  cases found : catalog.findScope? placement.scope with
  | some scope => rw [names_putScope_of_found _ found, hasScope, found]; rfl
  | none => rw [names_putScope_of_absent _ found, hasScope, found]; rfl

theorem proposals_enter (catalog : Catalog) (placement : Placement) :
    (catalog.enter placement).proposals = catalog.proposals := by
  unfold enter putScope
  split <;> rfl

/-- A definition that is registered compiles, and its case enters the scope that it goes to. -/
theorem enter_of_addCase {catalog next : Catalog} {definition : CaseDefinition} {call : String}
    (registered : catalog.addCase definition (some call) = (.ok (), next)) :
    ∃ compiled, Case.compile definition = .ok compiled ∧
      (catalog.scopeOrNew (definition.goesTo call)).holds (.caseNamed compiled.name) = false ∧
      next = catalog.enter ⟨definition.goesTo call, .ofCase compiled⟩ := by
  have target : targetName definition.scope (some call) = definition.goesTo call :=
    targetName_eq definition.scope (some call)
  rw [addCase, target] at registered
  cases compiles : Case.compile definition with
  | error error =>
      rw [compiles] at registered
      cases registered
  | ok compiled =>
      rw [compiles] at registered
      have placed : catalog.place (definition.goesTo call) (.ofCase compiled) = (.ok (), next) :=
        registered
      cases free : (catalog.scopeOrNew (definition.goesTo call)).holds
          (.caseNamed compiled.name) with
      | true =>
          rw [place_of_holds free] at placed
          cases placed
      | false =>
          rw [place_of_not_holds free] at placed
          exact ⟨compiled, rfl, free, (congrArg Prod.snd placed).symm⟩

namespace Gains

variable {before next after : Catalog} {call : String} {definition : CaseDefinition}
  {rest : List CaseDefinition}

theorem nil (catalog : Catalog) (call : String) : catalog.Gains call [] catalog where
  compiles _ member := nomatch member
  content name := (Scope.gaining_nil _).symm
  present name := (Bool.or_false _).symm
  names := by simp
  settings := rfl
  proposals := rfl

/-- A case that is registered before others comes before them. -/
theorem cons (registered : before.addCase definition (some call) = (.ok (), next))
    (later : next.Gains call rest after) : before.Gains call (definition :: rest) after := by
  obtain ⟨compiled, compiles, free, rfl⟩ := enter_of_addCase registered
  have present : ∀ name,
      (before.enter ⟨definition.goesTo call, .ofCase compiled⟩).hasScope name =
        (definition.goesTo call == name || before.hasScope name) :=
    fun name => before.hasScope_enter _ name
  constructor
  · intro other member
    rcases List.mem_cons.mp member with rfl | listed
    · exact ⟨compiled, compiles⟩
    · exact later.compiles other listed
  · intro name
    rw [later.content, scopeOrNew_enter, addressed_cons compiles]
    split
    · next here =>
        subst here
        rw [Scope.append_eq_gaining free, Scope.gaining_gaining]
        rfl
    · rfl
  · intro name
    rw [later.present, present, List.any_cons, ← Bool.or_assoc,
      Bool.or_comm (definition.goesTo call == name)]
  · rw [later.names, names_enter, List.map_cons, List.filter_cons]
    cases known : before.hasScope (definition.goesTo call) with
    | true =>
        -- The scope was there before, so no more names are known now.
        have same : ∀ name,
            (before.enter ⟨definition.goesTo call, .ofCase compiled⟩).hasScope name =
              before.hasScope name := by
          intro name
          rw [present]
          by_cases here : definition.goesTo call = name
          · simp [← here, known]
          · simp [here]
        simp [same]
    | false =>
        -- The scope is opened now, and its name does not count as new again.
        have fewer : ∀ name,
            (!(before.enter ⟨definition.goesTo call, .ofCase compiled⟩).hasScope name) =
              (!(name == definition.goesTo call) && !before.hasScope name) := by
          intro name
          rw [present, Bool.not_or, Bool.beq_comm]
        simp [fewer, List.eraseDups_cons, List.filter_filter]
  · rw [later.settings]
    exact settings_putScope _ _ _
  · rw [later.proposals, proposals_enter]

end Gains

/-- Cases that are registered in turn bring each scope what goes there. -/
theorem gains_of_addCases {before after : Catalog} {call : String}
    {definitions : List CaseDefinition}
    (succeeds : before.addCases definitions (some call) = (.ok (), after)) :
    before.Gains call definitions after := by
  induction definitions generalizing before with
  | nil =>
      cases succeeds
      exact .nil _ call
  | cons definition rest ih =>
      have steps : (before.addCase definition (some call)).andThen
          (fun next => next.addCases rest (some call)) = (.ok (), after) := succeeds
      obtain ⟨next, registered, others⟩ := Change.exists_of_andThen_eq_ok steps
      exact .cons registered (ih others)

/-- Registration fails at one of the definitions, and what the earlier ones have made is left. -/
theorem addCases_eq_error_iff (catalog after : Catalog) (definitions : List CaseDefinition)
    (call : Option String) (error : Error) :
    catalog.addCases definitions call = (.error error, after) ↔
      ∃ earlier failing later, definitions = earlier ++ failing :: later ∧
        catalog.addCases earlier call = (.ok (), after) ∧
        after.addCase failing call = (.error error, after) := by
  have calls := fun before (listed : List CaseDefinition) =>
    execute_eq_performAll before (.addCases listed call)
  have single := fun (definition : CaseDefinition) =>
    after.performAll_singleton (.register (.ofCase definition call))
  simp only [execute, Operation.calls] at calls
  rw [calls, performAll_eq_error_iff]
  constructor
  · rintro ⟨earlier, failing, later, listed, made, stops⟩
    obtain ⟨first, others, rfl, rfl, remaining⟩ := List.map_eq_append_iff.mp listed
    obtain ⟨definition, rest, rfl, rfl, rfl⟩ := List.map_eq_cons_iff.mp remaining
    exact ⟨first, definition, rest, rfl, (calls _ _).trans made, (single _).symm.trans stops⟩
  · rintro ⟨earlier, failing, later, rfl, made, stops⟩
    refine ⟨_, _, _, List.map_append.trans (congrArg _ List.map_cons), ?_, ?_⟩
    · exact (calls _ _).symm.trans made
    · exact (single _).trans stops

/-! ## Scopes in place of old ones -/

/-- The catalog with a new scope as the last one, in place of any old scope of its name. -/
def renewed (catalog : Catalog) (name : String) : Catalog :=
  { catalog with
    scopes := ⟨catalog.scopes.entries.filter (fun entry => entry.1 != name) ++
      [(name, Scope.new name)]⟩ }

section Renewed

variable {catalog : Catalog} {name : String}

/-- An old scope is removed before the new one is put at the end. -/
theorem renewed_eq (wellFormed : catalog.WellFormed) (other : name ≠ globalName) :
    catalog.renewed name = (catalog.withoutScope name).putScope name (Scope.new name) := by
  have dropped : (catalog.withoutScope name).findScope? name = none :=
    findScope?_withoutScope_self wellFormed other
  have absent : name ∉ (catalog.scopes.erase name).names := by
    rw [findScope?, if_neg other] at dropped
    exact (Register.find?_eq_none_iff _ _).mp dropped
  have scopes := congrArg Register.mk
    (Register.entries_insert_of_notMem (Scope.new name) absent)
  have erased := Register.eraseEntry_eq_filter name wellFormed.scopes.distinct
  rw [putScope, if_neg other, withoutScope, renewed, ← erased]
  exact congrArg (fun scopes => { catalog with scopes := scopes }) scopes.symm

/-- A renewed scope is empty, and the others are as before. -/
theorem findScope?_renewed (wellFormed : catalog.WellFormed) (other : name ≠ globalName)
    (query : String) :
    (catalog.renewed name).findScope? query =
      if name = query then some (Scope.new name) else catalog.findScope? query := by
  rw [renewed_eq wellFormed other, findScope?_putScope]
  split
  · rfl
  · next apart => exact findScope?_withoutScope_of_ne catalog (Ne.symm apart)

/-- A renewed scope exists. -/
theorem hasScope_renewed (wellFormed : catalog.WellFormed) (other : name ≠ globalName)
    (query : String) :
    (catalog.renewed name).hasScope query = (name == query || catalog.hasScope query) := by
  rw [hasScope, findScope?_renewed wellFormed other]
  by_cases same : name = query
  · simp [same]
  · simp [same, hasScope]

/-- A renewed scope comes last. -/
theorem names_renewed (catalog : Catalog) (name : String) :
    (catalog.renewed name).scopes.names =
      catalog.scopes.names.filter (fun own => own != name) ++ [name] := by
  rw [renewed, Register.names, List.map_append, Register.names, List.filter_map]
  rfl

end Renewed

/-- What a scope that is added with definitions makes of a catalog. The scope holds the cases that
stay there and nothing else; the others keep what they have and gain the cases that go there, at
the end; scopes that did not exist hold just these, and there are no more of them than needed. The
old scope has lost its place: the new one stands behind all the others that were there, and only
scopes that did not exist come after it. -/
structure Renews (catalog : Catalog) (name : String) (definitions : List CaseDefinition)
    (after : Catalog) : Prop where
  compiles : ∀ definition ∈ definitions, ∃ compiled, Case.compile definition = .ok compiled
  own : after.findScope? name =
    some {
      name := name
      cases := ⟨(addressed name name definitions).map fun compiled => (compiled.name, compiled)⟩
      parsers := Register.empty }
  kept : ∀ other old, other ≠ name → catalog.findScope? other = some old →
    after.findScope? other = some {
      name := old.name
      cases := ⟨old.cases.entries ++
        (addressed name other definitions).map fun compiled => (compiled.name, compiled)⟩
      parsers := old.parsers }
  opened : ∀ other, other ≠ name → catalog.findScope? other = none →
    after.findScope? other =
      if definitions.any fun definition => definition.goesTo name == other then
        some {
          name := other
          cases := ⟨(addressed name other definitions).map fun compiled =>
            (compiled.name, compiled)⟩
          parsers := Register.empty }
      else none
  order : after.scopeNames = catalog.scopeNames.filter (fun other => other != name) ++ [name] ++
    ((definitions.map (·.goesTo name)).filter fun other =>
      other != name && !catalog.hasScope other).eraseDups
  settings : after.settings = catalog.settings
  proposals : after.proposals = catalog.proposals

/-- What a catalog gains after a renewal is what `Renews` says. -/
theorem Gains.renews {catalog after : Catalog} {name : String} {definitions : List CaseDefinition}
    (gains : (catalog.renewed name).Gains name definitions after)
    (wellFormed : catalog.WellFormed) (other : name ≠ globalName) :
    catalog.Renews name definitions after := by
  have found := findScope?_renewed wellFormed other
  have known := hasScope_renewed wellFormed other
  constructor
  · exact gains.compiles
  · have fresh : (catalog.renewed name).scopeOrNew name = Scope.new name := by
      rw [scopeOrNew, found, if_pos rfl, Option.getD_some]
    rw [findScope?_eq_scopeOrNew, gains.present, gains.content, known, fresh]
    simp [Scope.gaining, Scope.new, Register.empty]
  · intro query old apart before
    have same : (catalog.renewed name).findScope? query = some old := by
      rw [found, if_neg (Ne.symm apart), before]
    rw [findScope?_eq_scopeOrNew, gains.present, gains.content, scopeOrNew_of_found same, hasScope, same]
    rfl
  · intro query apart absent
    have same : (catalog.renewed name).findScope? query = none := by
      rw [found, if_neg (Ne.symm apart), absent]
    rw [findScope?_eq_scopeOrNew, gains.present, gains.content, scopeOrNew_of_absent same, hasScope, same]
    rfl
  · have global : (globalName != name) = true := bne_iff_ne.mpr (Ne.symm other)
    have fewer : ∀ query, (!(catalog.renewed name).hasScope query) =
        (query != name && !catalog.hasScope query) := by
      intro query
      rw [known, Bool.not_or, Bool.beq_comm]
      rfl
    simp only [scopeNames, gains.names, names_renewed, fewer, List.filter_cons, global, if_true,
      List.cons_append]
  · exact gains.settings
  · exact gains.proposals

section AddScope

variable {catalog : Catalog} {name : String} {overwrite : Bool}

/-- The global scope, and one that exists and may not be overwritten, are refused at once. -/
theorem addScope_of_refused (definitions : List CaseDefinition)
    (refused : name = globalName ∨ catalog.hasScope name = true ∧ overwrite = false) :
    catalog.addScope name definitions overwrite =
      (.error (if overwrite then .globalScopeRemoval else .scopeExists name), catalog) := by
  have inserted := insertScope_eq catalog (Scope.new name) overwrite
  have named : (Scope.new name).name = name := rfl
  rw [named] at inserted
  have global : catalog.hasScope globalName = true := rfl
  cases overwrite with
  | false =>
      have present : catalog.hasScope name = true := by
        rcases refused with rfl | ⟨present, -⟩
        · exact global
        · exact present
      rw [if_pos ⟨present, rfl⟩] at inserted
      rw [addScope, inserted]
      rfl
  | true =>
      have same : name = globalName := by
        rcases refused with same | ⟨-, impossible⟩
        · exact same
        · cases impossible
      rw [if_neg (fun both => nomatch both.2), if_pos same] at inserted
      rw [addScope, inserted]
      rfl

/-- Any other scope is renewed, and the cases are added to it. -/
theorem addScope_of_accepted (wellFormed : catalog.WellFormed) (definitions : List CaseDefinition)
    (other : name ≠ globalName) (replaceable : catalog.hasScope name = true → overwrite = true) :
    catalog.addScope name definitions overwrite =
      (catalog.renewed name).addCases definitions (some name) := by
  have inserted := insertScope_eq catalog (Scope.new name) overwrite
  have named : (Scope.new name).name = name := rfl
  have allowed : ¬ (catalog.hasScope name = true ∧ overwrite = false) := by
    rintro ⟨present, forbidden⟩
    exact Bool.false_ne_true (forbidden.symm.trans (replaceable present))
  rw [named, if_neg allowed, if_neg other] at inserted
  rw [addScope, inserted, renewed_eq wellFormed other]
  rfl

end AddScope

/-- **Adding a scope with cases.** For the name of the global scope, or of a scope that exists and
may not be overwritten, a scope is refused and nothing changes. Otherwise the scope is renewed, and
the definitions are registered in turn, for this scope. If all of them succeed, it holds the cases
that stay there and no parsers, and the other scopes gain the cases that go there. If one fails, the
error is its own, and the catalog is what the definitions before it have made of it, without the
old scope. -/
theorem addScope_renews (catalog : Catalog) (reachable : catalog.Reachable) (name : String)
    (definitions : List CaseDefinition) (overwrite : Bool) :
    (name = globalName ∨ catalog.hasScope name = true ∧ overwrite = false →
      catalog.addScope name definitions overwrite =
        (.error (if overwrite then .globalScopeRemoval else .scopeExists name), catalog)) ∧
    (name ≠ globalName → (catalog.hasScope name = true → overwrite = true) →
      catalog.addScope name definitions overwrite =
        (catalog.renewed name).addCases definitions (some name) ∧
      (∀ after, catalog.addScope name definitions overwrite = (.ok (), after) →
        catalog.Renews name definitions after) ∧
      ∀ error after, catalog.addScope name definitions overwrite = (.error error, after) ↔
        ∃ earlier failing later, definitions = earlier ++ failing :: later ∧
          catalog.addScope name earlier overwrite = (.ok (), after) ∧
          catalog.Renews name earlier after ∧
          after.addCase failing (some name) = (.error error, after)) := by
  refine ⟨addScope_of_refused definitions, ?_⟩
  intro other replaceable
  have wellFormed := reachable.wellFormed
  have accepted := fun listed => addScope_of_accepted wellFormed listed other replaceable
  have renews : ∀ listed after, catalog.addScope name listed overwrite = (.ok (), after) →
      catalog.Renews name listed after := by
    intro listed after succeeds
    rw [accepted] at succeeds
    exact (gains_of_addCases succeeds).renews wellFormed other
  refine ⟨accepted definitions, renews definitions, ?_⟩
  intro error after
  rw [accepted, addCases_eq_error_iff]
  constructor
  · rintro ⟨earlier, failing, later, listed, made, failed⟩
    have succeeds := (accepted earlier).trans made
    exact ⟨earlier, failing, later, listed, succeeds, renews earlier after succeeds, failed⟩
  · rintro ⟨earlier, failing, later, listed, succeeds, -, failed⟩
    exact ⟨earlier, failing, later, listed, (accepted earlier).symm.trans succeeds, failed⟩

/-- A case that keeps messages, in a scope of its own if one is given. -/
def keeper (name : String) (scope : Option String) : CaseDefinition where
  name := name
  condition := .literal name
  keepsMessage := true
  scope := scope

/-- A catalog with a scope that has a parser, and another scope behind it. -/
def shelved : Catalog :=
  (new {} .hexadecimal).run
    [.single (.register (.ofParser "p" (.function id) (some "a"))),
      .addCases [keeper "old" none, keeper "old" (some "b")] (some "a")]

/-- The catalog with a shelf can be built. -/
theorem shelved_reachable : shelved.Reachable := by
  refine ⟨_, _, _, ?_, rfl⟩
  intro operation member
  simp only [List.mem_cons, List.not_mem_nil, or_false] at member
  rcases member with rfl | rfl
  · exact trivial
  · intro definition listed
    simp only [List.mem_cons, List.not_mem_nil, or_false] at listed
    rcases listed with rfl | rfl <;> exact ⟨nofun, nofun⟩

/-- Definitions of which the last one but one fails: its name is taken in the scope behind. -/
def straying : List CaseDefinition :=
  [keeper "new" none, keeper "far" (some "c"), keeper "next" (some "b"), keeper "old" (some "b"),
    keeper "last" none]

/-- The scope moves to the end and loses its parser, and a scope is opened behind it. The definition
after the failing one is not reached. -/
theorem addScope_renews_shelved :
    shelved.scopeNames = ["global", "a", "b"] ∧
    shelved.addScope "a" straying false = (.error (.scopeExists "a"), shelved) ∧
    (∃ after, shelved.addScope "a" (straying.take 3) true = (.ok (), after) ∧
      shelved.Renews "a" (straying.take 3) after ∧
      after.scopeNames = ["global", "b", "a", "c"] ∧
      (after.findScope? "b").map (·.cases.names) = some ["old", "next"]) ∧
    ∃ after, shelved.addScope "a" straying true = (.error (.duplicateCase "old" "b"), after) ∧
      ∃ earlier failing later, straying = earlier ++ failing :: later ∧
        shelved.Renews "a" earlier after ∧
        after.addCase failing (some "a") = (.error (.duplicateCase "old" "b"), after) := by
  have refused := (addScope_renews shelved shelved_reachable "a" straying false).1
  have succeeds := ((addScope_renews shelved shelved_reachable "a" (straying.take 3) true).2
    (by decide) fun _ => rfl).2.1
  have fails := ((addScope_renews shelved shelved_reachable "a" straying true).2
    (by decide) fun _ => rfl).2.2
  refine ⟨by decide, refused (Or.inr ⟨rfl, rfl⟩), ⟨_, rfl, succeeds _ rfl, rfl, rfl⟩, _, rfl, ?_⟩
  obtain ⟨earlier, failing, later, listed, -, renews, failed⟩ := (fails _ _).mp rfl
  exact ⟨earlier, failing, later, listed, renews, failed⟩

end Catalog

end ErrorCatalog
