import ErrorCatalog.Catalog.Transform

/-!
# What a selection selects

The candidates and the visible scopes of a selection, read off the catalog
without the checks that `Catalog.plan` makes on the way.

- `Catalog.namedCases_eq` and `Catalog.requestedScopes_eq` say which missing
  name is reported, and what is found when none is missing;
- `Catalog.Resolves` says that a selection names nothing that is missing, and
  `Catalog.plan_eq_ok_iff` that exactly such selections have a plan;
- `Catalog.plan_of_resolves` gives this plan: its candidates and its visible
  scopes follow two different rules.
-/

namespace ErrorCatalog

namespace Catalog

/-- The existing scopes among some names, in order. -/
def existingScopes (catalog : Catalog) (names : List String) : List Scope :=
  names.filterMap catalog.findScope?

/-- The global cases that a selection names, in its order. They count only while the global
scope is not asked for as a whole. -/
def namedGlobalCases (catalog : Catalog) (selection : Selection) : List Case :=
  if selection.cases ≠ [] ∧ globalName ∉ selection.scopes then
    selection.cases.filterMap catalog.global.findCase?
  else []

/-- The names of the scopes whose cases are candidates: the global scope is added at the end
exactly when the selection names neither it nor any case. -/
def candidateScopeNames (selection : Selection) : List String :=
  if selection.cases = [] ∧ globalName ∉ selection.scopes then selection.scopes ++ [globalName]
  else selection.scopes

/-- The cases that a selection offers a message to, in order. -/
def candidates (catalog : Catalog) (selection : Selection) : List Case :=
  catalog.namedGlobalCases selection ++
    (catalog.existingScopes (candidateScopeNames selection)).flatMap fun scope =>
      scope.cases.values

/-- The scopes whose parsers the candidates may use, in order; the global scope is the last one
unless it is asked for. -/
def visibleScopes (catalog : Catalog) (selection : Selection) : List Scope :=
  catalog.existingScopes selection.scopes ++
    if globalName ∈ selection.scopes then [] else [catalog.global]

/-- A selection names nothing that is missing. -/
structure Resolves (catalog : Catalog) (selection : Selection) : Prop where
  cases : selection.cases ≠ [] → globalName ∉ selection.scopes →
    ∀ name ∈ selection.cases, catalog.global.hasCase name = true
  scopes : catalog.settings.createMissingScopes = false →
    ∀ name ∈ selection.scopes, catalog.hasScope name = true

@[simp] theorem findScope?_globalName (catalog : Catalog) :
    catalog.findScope? globalName = some catalog.global := rfl

@[simp] theorem hasScope_globalName (catalog : Catalog) : catalog.hasScope globalName = true := rfl

/-- The global scope is asked for by its name. -/
theorem asksForGlobal_eq_true_iff (selection : Selection) :
    asksForGlobal selection = true ↔ globalName ∈ selection.scopes :=
  List.contains_iff_mem

/-- Whether a requested name is an error: no scope has it, and it does not count as empty. -/
def isMissing (catalog : Catalog) (name : String) : Bool :=
  !catalog.settings.createMissingScopes && !catalog.hasScope name

theorem existingScopes_append (catalog : Catalog) (first second : List String) :
    catalog.existingScopes (first ++ second) =
      catalog.existingScopes first ++ catalog.existingScopes second :=
  List.filterMap_append

/-- The first name without a case is reported; else each name gives its case. -/
theorem namedCases_eq (scope : Scope) (names : List String) :
    namedCases scope names =
      match names.find? fun name => !scope.hasCase name with
      | some missing => .error (.caseNotFound missing scope.name)
      | none => .ok (names.filterMap scope.findCase?) := by
  induction names with
  | nil => rfl
  | cons name rest ih =>
      rw [namedCases, Scope.getCase, ih]
      cases found : scope.findCase? name with
      | none =>
          have absent : scope.hasCase name = false := congrArg Option.isSome found
          rw [List.find?_cons_of_pos (by rw [absent]; rfl)]
          rfl
      | some value =>
          have present : scope.hasCase name = true := congrArg Option.isSome found
          rw [List.find?_cons_of_neg (by simp [present]), List.filterMap_cons_some found]
          cases rest.find? fun name => !scope.hasCase name <;> rfl

/-- A scope that must exist and does not is refused. -/
theorem requestedScope_of_isMissing {catalog : Catalog} {name : String}
    (missing : catalog.isMissing name = true) :
    catalog.requestedScope name = .error (.scopeNotFound name) := by
  simp only [isMissing, hasScope, Bool.and_eq_true, Bool.not_eq_true', Option.isSome_eq_false_iff,
    Option.isNone_iff_eq_none] at missing
  simp only [requestedScope, missing.1, missing.2, Bool.false_eq_true, ↓reduceIte]

/-- Any other scope is looked up, and may be absent. -/
theorem requestedScope_of_not_isMissing {catalog : Catalog} {name : String}
    (present : catalog.isMissing name = false) :
    catalog.requestedScope name = .ok (catalog.findScope? name) := by
  rw [requestedScope]
  cases found : catalog.findScope? name with
  | some scope => rfl
  | none =>
      have lenient : catalog.settings.createMissingScopes = true := by
        simpa [isMissing, hasScope, found] using present
      simp only [lenient, ↓reduceIte]

/-- The first missing scope is reported; else each name gives its scope, if there is one. -/
theorem requestedScopes_eq (catalog : Catalog) (names : List String) :
    catalog.requestedScopes names =
      match names.find? catalog.isMissing with
      | some missing => .error (.scopeNotFound missing)
      | none => .ok (catalog.existingScopes names) := by
  induction names with
  | nil => rfl
  | cons name rest ih =>
      rw [requestedScopes, ih]
      cases missing : catalog.isMissing name with
      | true =>
          rw [List.find?_cons_of_pos missing, requestedScope_of_isMissing missing]
          rfl
      | false =>
          have split : catalog.existingScopes (name :: rest) =
              (catalog.findScope? name).toList ++ catalog.existingScopes rest := by
            rw [existingScopes, List.filterMap_cons]
            cases catalog.findScope? name <;> rfl
          rw [List.find?_cons_of_neg (by simp [missing]), requestedScope_of_not_isMissing missing,
            split]
          cases rest.find? catalog.isMissing <;> rfl

/-- The names that are searched are those of the candidates' scopes. -/
theorem searchedNames_eq (selection : Selection) :
    searchedNames selection = candidateScopeNames selection := by
  rw [searchedNames, candidateScopeNames, asksForGlobal]
  simp only [List.isEmpty_iff, Bool.and_eq_true, Bool.not_eq_true', List.contains_eq_mem,
    decide_eq_false_iff_not]

/-- The global cases that count are looked up, and the first one that is missing is reported. -/
theorem explicitCases_eq (catalog : Catalog) (selection : Selection) :
    catalog.explicitCases selection =
      if globalName ∈ selection.scopes then .ok []
      else
        match selection.cases.find? fun name => !catalog.global.hasCase name with
        | some missing => .error (.caseNotFound missing catalog.global.name)
        | none => .ok (selection.cases.filterMap catalog.global.findCase?) := by
  rw [explicitCases, namedCases_eq]
  by_cases asked : globalName ∈ selection.scopes
  · rw [if_pos asked, if_pos ((asksForGlobal_eq_true_iff selection).mpr asked)]
  · rw [if_neg asked, if_neg (fun contained =>
      asked ((asksForGlobal_eq_true_iff selection).mp contained))]

/-- The global scope is never missing, so that adding it reports nothing new. -/
theorem find?_isMissing_candidateScopeNames (catalog : Catalog) (selection : Selection) :
    (candidateScopeNames selection).find? catalog.isMissing =
      selection.scopes.find? catalog.isMissing := by
  rw [candidateScopeNames]
  split
  · have present : catalog.isMissing globalName = false := by
      rw [isMissing, hasScope_globalName, Bool.not_true, Bool.and_false]
    rw [List.find?_append, List.find?_cons_of_neg (by simp [present]), List.find?_nil,
      Option.or_none]
  · rfl

/-- The searched scopes, with the global one last unless it is among them, are the visible
scopes. -/
theorem visibleScopes_eq (catalog : Catalog) (selection : Selection) :
    (if (searchedNames selection).contains globalName then
        catalog.existingScopes (searchedNames selection)
      else catalog.existingScopes (searchedNames selection) ++ [catalog.global]) =
      catalog.visibleScopes selection := by
  rw [searchedNames_eq, candidateScopeNames, visibleScopes]
  by_cases asked : globalName ∈ selection.scopes
  · simp [asked]
  · by_cases unnamed : selection.cases = []
    · simp [asked, unnamed, existingScopes]
    · simp [asked, unnamed]

/-- The plan of a selection: the first missing case is reported, then the first missing scope. -/
theorem plan_eq (catalog : Catalog) (selection : Selection) :
    catalog.plan selection =
      match catalog.explicitCases selection, selection.scopes.find? catalog.isMissing with
      | .error error, _ => .error error
      | .ok _, some missing => .error (.scopeNotFound missing)
      | .ok explicit, none =>
          .ok ⟨explicit ++ (catalog.existingScopes (candidateScopeNames selection)).flatMap
            fun scope => scope.cases.values, catalog.visibleScopes selection⟩ := by
  rw [plan, requestedScopes_eq, ← visibleScopes_eq, searchedNames_eq,
    find?_isMissing_candidateScopeNames]
  cases catalog.explicitCases selection with
  | error error => rfl
  | ok explicit => cases selection.scopes.find? catalog.isMissing <;> rfl

/-- Where a selection resolves, all cases that it names are found. -/
theorem Resolves.explicitCases_eq {catalog : Catalog} {selection : Selection}
    (resolves : catalog.Resolves selection) :
    catalog.explicitCases selection = .ok (catalog.namedGlobalCases selection) := by
  rw [Catalog.explicitCases_eq, namedGlobalCases]
  by_cases asked : globalName ∈ selection.scopes
  · simp [asked]
  · by_cases unnamed : selection.cases = []
    · simp [asked, unnamed]
    · have present : selection.cases.find? (fun name => !catalog.global.hasCase name) = none := by
        rw [List.find?_eq_none]
        intro name member
        simp [resolves.cases unnamed asked name member]
      rw [if_neg asked, present, if_pos ⟨unnamed, asked⟩]

/-- Where a selection resolves, no scope is missing. -/
theorem Resolves.find?_isMissing {catalog : Catalog} {selection : Selection}
    (resolves : catalog.Resolves selection) :
    selection.scopes.find? catalog.isMissing = none := by
  rw [List.find?_eq_none]
  intro name member missing
  simp only [isMissing, Bool.and_eq_true, Bool.not_eq_true'] at missing
  exact Bool.false_ne_true (missing.2.symm.trans (resolves.scopes missing.1 name member))

/-- A selection that resolves is planned with its candidates and visible scopes. -/
theorem plan_of_resolves {catalog : Catalog} {selection : Selection}
    (resolves : catalog.Resolves selection) :
    catalog.plan selection =
      .ok ⟨catalog.candidates selection, catalog.visibleScopes selection⟩ := by
  rw [plan_eq, resolves.explicitCases_eq, resolves.find?_isMissing]
  rfl

/-- Exactly the selections that resolve have a plan. -/
theorem plan_eq_ok_iff (catalog : Catalog) (selection : Selection) :
    (∃ plan, catalog.plan selection = .ok plan) ↔ catalog.Resolves selection := by
  constructor
  · rintro ⟨plan, planned⟩
    rw [plan_eq] at planned
    cases named : catalog.explicitCases selection with
    | error error => simp [named] at planned
    | ok explicit =>
        have present : selection.scopes.find? catalog.isMissing = none := by
          cases first : selection.scopes.find? catalog.isMissing with
          | none => rfl
          | some missing => simp [named, first] at planned
        constructor
        · intro _ unasked name member
          rw [Catalog.explicitCases_eq, if_neg unasked] at named
          cases first : selection.cases.find? fun name => !catalog.global.hasCase name with
          | none => simpa using List.find?_eq_none.mp first name member
          | some missing => simp [first] at named
        · intro strict name member
          simpa [isMissing, strict] using List.find?_eq_none.mp present name member
  · intro resolves
    exact ⟨_, plan_of_resolves resolves⟩

end Catalog

end ErrorCatalog
