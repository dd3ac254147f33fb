import Mathlib.Data.List.Basic
import Mathlib.Data.List.Find
import ErrorCatalog.Proofs.Transform.Outcome

/-!
# What a transformation sees

A transformation searches its scopes name by name, for a case that decides and
for the parsers that this case refers to. Of a scope it sees only the cases and
the parsers that are found in it; in which order parsers were registered does
not matter, and other scopes than the selected ones and the global one are not
seen at all.

- `Catalog.deciding?_eq` and `Catalog.resolve?_visibleScopes` are the two
  searches;
- `Case.parse_stays` and `Case.parse_congr`: a case sees visible scopes only as a
  way to find parsers for its steps;
- `Catalog.Alike.transform_eq`: outcomes are the same when nothing is missing or
  the same name is, and the two searches have the same results;
- `Catalog.Indistinguishable.transform_eq`: catalogs that cannot be told apart
  by a selection have the same outcomes for it.
-/

namespace ErrorCatalog

/-- What can be seen of a scope. -/
structure Scope.View where
  name : String
  cases : Register Case
  parser? : String → Option ValueParser

/-- The view of a scope. -/
def Scope.view (scope : Scope) : Scope.View := ⟨scope.name, scope.cases, scope.findParser?⟩

/-- An outcome stays as it is, unless it is an error of some kind. -/
def Stays {α : Type} (mended : Error → Prop) (before after : Except Error α) : Prop :=
  after = before ∨ ∃ error, mended error ∧ before = .error error

namespace Stays

variable {α β : Type} {mended : Error → Prop}

theorem refl (outcome : Except Error α) : Stays mended outcome outcome := Or.inl rfl

/-- Computations in turn stay as they are if each of them does. -/
theorem bind {before after : Except Error α} {earlier later : α → Except Error β}
    (first : Stays mended before after)
    (rest : ∀ value, Stays mended (earlier value) (later value)) :
    Stays mended (before >>= earlier) (after >>= later) := by
  rcases first with rfl | ⟨error, lost, rfl⟩
  · cases after with
    | error error => exact Or.inl rfl
    | ok value => exact rest value
  · exact Or.inr ⟨error, lost, rfl⟩

/-- An outcome stays the same unless it is an error that may be mended. -/
theorem eq_of_not_mended {before after : Except Error α} (stays : Stays mended before after)
    (lasting : ∀ error, mended error → before ≠ .error error) : after = before := by
  rcases stays with same | ⟨error, lost, failed⟩
  · exact same
  · exact absurd failed (lasting error lost)

end Stays

namespace Case

section Steady

variable (compiled : Case) {left right : List Scope} {mended : Error → Prop}
  (steady : ∀ steps value,
    Stays mended (compiled.runSteps left steps value) (compiled.runSteps right steps value))

include steady

/-- Positional values stay if the look-up of parsers does. -/
theorem positionalValues_stays (steps : List (List Step)) (index : Nat) (texts : List String) :
    Stays mended (compiled.positionalValues left steps index texts)
      (compiled.positionalValues right steps index texts) := by
  induction texts generalizing index with
  | nil => exact .refl _
  | cons text rest ih =>
      rw [positionalValues, positionalValues]
      refine (steady _ _).bind fun value => ?_
      exact (ih (index + 1)).bind fun values => .refl _

/-- Named values stay if the look-up of parsers does. -/
theorem namedValues_stays (steps : Register (List Step)) (texts : List (String × String)) :
    Stays mended (compiled.namedValues left steps texts)
      (compiled.namedValues right steps texts) := by
  induction texts with
  | nil => exact .refl _
  | cons entry rest ih =>
      obtain ⟨name, text⟩ := entry
      rw [namedValues, namedValues]
      refine (steady _ _).bind fun value => ?_
      exact ih.bind fun values => .refl _

/-- Parameters stay if the look-up of parsers does. -/
theorem params_stays (extraction : Extraction) :
    Stays mended (compiled.params left extraction) (compiled.params right extraction) := by
  cases extraction with
  | mixed => exact .refl _
  | positional texts =>
      cases texts with
      | nil => exact .refl _
      | cons text rest =>
          simp only [params]
          cases compiled.plan with
          | positional steps =>
              exact (compiled.positionalValues_stays steady steps 0 _).bind fun values => .refl _
          | named steps => exact .refl _
  | named texts =>
      rw [params, params]
      cases compiled.plan with
      | positional steps => exact .refl _
      | named steps =>
          exact (compiled.namedValues_stays steady steps _).bind fun values => .refl _

/-- A case makes the same of a message if its steps make the same of values: it does not use the
visible scopes in any other way. -/
theorem parse_stays (message : String) (context : Option Fields) :
    Stays mended (compiled.parse message left context)
      (compiled.parse message right context) := by
  rw [parse, parse]
  cases compiled.output with
  | kept => exact .refl _
  | template template =>
      cases compiled.condition.extract? message with
      | none => exact .refl _
      | some extraction =>
          exact (compiled.params_stays steady extraction).bind fun params => .refl _

end Steady

/-- A case sees the visible scopes only as a way to find parsers. -/
theorem parse_congr (compiled : Case) {left right : List Scope}
    (same : Scope.resolve? left = Scope.resolve? right) (message : String)
    (context : Option Fields) :
    compiled.parse message left context = compiled.parse message right context := by
  have steady : ∀ steps value, Stays (fun _ => False) (compiled.runSteps left steps value)
      (compiled.runSteps right steps value) := by
    intro steps value
    rw [runSteps, runSteps, same]
    exact .refl _
  have stays := compiled.parse_stays steady message context
  exact (stays.eq_of_not_mended fun _ impossible => impossible.elim).symm

end Case

namespace Catalog

/-- The message and the context of an input depend on the settings only. -/
theorem normalise_congr {left right : Catalog} (same : left.settings = right.settings)
    (input : Input) : left.normalise input = right.normalise input := by
  have context : left.searchContext = right.searchContext := by
    funext fields
    rw [searchContext, searchContext, same]
  cases input with
  | message text => rfl
  | object fields => rw [normalise, normalise, context]

/-! ## The two searches -/

/-- Searching the existing scopes among some names is searching name by name. -/
theorem findSome?_existingScopes {β : Type} (catalog : Catalog) (names : List String)
    (look : Scope → Option β) :
    (catalog.existingScopes names).findSome? look =
      names.findSome? fun name => (catalog.findScope? name).bind look := by
  rw [existingScopes, ← List.head?_filterMap, ← List.head?_filterMap, List.filterMap_filterMap]

/-- Candidates come from requested scopes and the global one. -/
theorem mem_of_mem_candidateScopeNames {selection : Selection} {name : String}
    (member : name ∈ candidateScopeNames selection) : name ∈ selection.scopes ++ [globalName] := by
  rw [candidateScopeNames] at member
  split at member
  · exact member
  · exact List.mem_append_left _ member

/-- The deciding case is searched among the named global cases, and then scope by scope. -/
theorem deciding?_eq (catalog : Catalog) (selection : Selection) (message : String) :
    catalog.deciding? selection message =
      ((catalog.namedGlobalCases selection).find? (·.condition.isMatch message)).or
        ((candidateScopeNames selection).findSome? fun name =>
          (catalog.findScope? name).bind (·.cases.values.find? (·.condition.isMatch message))) := by
  rw [deciding?, candidates, List.find?_append, List.find?_flatMap, findSome?_existingScopes]

/-- A parser is searched in the selected scopes and then in the global one, where a second visit
finds nothing new. -/
theorem resolve?_visibleScopes (catalog : Catalog) (selection : Selection) (query : String) :
    Scope.resolve? (catalog.visibleScopes selection) query =
      (selection.scopes ++ [globalName]).findSome? fun name =>
        (catalog.findScope? name).bind (·.findParser? query) := by
  rw [Scope.resolve?, visibleScopes, List.findSome?_append, List.findSome?_append,
    findSome?_existingScopes]
  by_cases asked : globalName ∈ selection.scopes
  · rw [if_pos asked, List.findSome?_nil]
    cases found : selection.scopes.findSome? fun name =>
        (catalog.findScope? name).bind (·.findParser? query) with
    | some parser => rfl
    | none =>
        have absent := List.findSome?_eq_none_iff.mp found globalName asked
        rw [Option.none_or, Option.none_or, List.findSome?_cons, absent, List.findSome?_nil]
  · rw [if_neg asked, List.findSome?_singleton, List.findSome?_singleton]
    rfl

/-! ## Equal outcomes -/

/-- Two catalogs, each with a selection, are alike in all that an outcome depends on: the same name
is missing, if any is, the same case decides, and the same parsers are found. -/
structure Alike (left right : Catalog) (first second : Selection) : Prop where
  settings : left.settings = right.settings
  name : left.global.name = right.global.name
  missingCase : left.missingCase? first = right.missingCase? second
  missingScope : left.missingScope? first = right.missingScope? second
  deciding : ∀ message, left.deciding? first message = right.deciding? second message
  parsers : ∀ query, Scope.resolve? (left.visibleScopes first) query =
    Scope.resolve? (right.visibleScopes second) query
  fallback : first.fallback = second.fallback

/-- Catalogs that look alike to two selections make the same of every input. -/
theorem Alike.transform_eq {left right : Catalog} {first second : Selection}
    (alike : Alike left right first second) (input : Input) :
    left.transform input first = right.transform input second := by
  have parsed : ∀ (decisive : Case) (message : String) (context : Option Fields),
      decisive.parse message (left.visibleScopes first) context =
        decisive.parse message (right.visibleScopes second) context :=
    fun decisive message context => decisive.parse_congr (funext alike.parsers) message context
  simp only [transform_phases, normalise_congr alike.settings, alike.missingCase,
    alike.missingScope, alike.name, alike.deciding, alike.fallback, parsed]

/-- Two catalogs cannot be told apart by a selection: the settings are the same, the global scopes
look alike, and under each selected name there is a scope in both of them or in none, with the same
cases in the same order and the same parsers to be found. -/
structure Indistinguishable (selection : Selection) (left right : Catalog) : Prop where
  settings : left.settings = right.settings
  global : left.global.view = right.global.view
  cases : ∀ name ∈ selection.scopes,
    (left.findScope? name).map (·.cases.values) = (right.findScope? name).map (·.cases.values)
  parsers : ∀ name ∈ selection.scopes, ∀ query,
    (left.findScope? name).bind (·.findParser? query) =
      (right.findScope? name).bind (·.findParser? query)

/-- Look-ups that agree on a list find the same in it. -/
theorem findSome?_congr {α β : Type} {names : List α} {look other : α → Option β}
    (same : ∀ name ∈ names, look name = other name) :
    names.findSome? look = names.findSome? other := by
  rw [← List.head?_filterMap, ← List.head?_filterMap, List.filterMap_congr same]

namespace Indistinguishable

variable {selection : Selection} {left right : Catalog}

/-- Indistinguishable catalogs have the same requested scopes. -/
theorem hasScope_eq (same : Indistinguishable selection left right) {name : String}
    (member : name ∈ selection.scopes) : left.hasScope name = right.hasScope name := by
  have present := congrArg Option.isSome (same.cases name member)
  rwa [Option.isSome_map, Option.isSome_map] at present

/-- The global scopes cannot be told apart either, whether they are selected or not. -/
theorem cases_eq (same : Indistinguishable selection left right) {name : String}
    (member : name ∈ selection.scopes ++ [globalName]) :
    (left.findScope? name).map (·.cases.values) = (right.findScope? name).map (·.cases.values) := by
  rcases List.mem_append.mp member with requested | last
  · exact same.cases name requested
  · rw [List.mem_singleton.mp last]
    exact congrArg (fun view => some view.cases.values) same.global

/-- Indistinguishable catalogs find the same parsers in the scopes that count. -/
theorem parsers_eq (same : Indistinguishable selection left right) {name : String}
    (member : name ∈ selection.scopes ++ [globalName]) (query : String) :
    (left.findScope? name).bind (·.findParser? query) =
      (right.findScope? name).bind (·.findParser? query) := by
  rcases List.mem_append.mp member with requested | last
  · exact same.parsers name requested query
  · rw [List.mem_singleton.mp last]
    exact congrArg (fun view => view.parser? query) same.global

/-- Indistinguishable catalogs look alike. -/
theorem alike (same : Indistinguishable selection left right) :
    Alike left right selection selection := by
  have found : left.global.findCase? = right.global.findCase? :=
    congrArg (fun view query => view.cases.find? query) same.global
  have present : left.global.hasCase = right.global.hasCase :=
    congrArg (fun view query => view.cases.contains query) same.global
  constructor
  · exact same.settings
  · exact congrArg Scope.View.name same.global
  · rw [missingCase?, missingCase?, present]
  · rw [missingScope?, missingScope?, same.settings,
      List.find?_congr fun name member => by rw [same.hasScope_eq member]]
  · intro message
    rw [deciding?_eq, deciding?_eq, namedGlobalCases, namedGlobalCases, found]
    refine congrArg (Option.or _) (findSome?_congr fun name member => ?_)
    have cases := same.cases_eq (mem_of_mem_candidateScopeNames member)
    have searched := congrArg
      (fun found => found.bind (List.find? (·.condition.isMatch message))) cases
    rwa [Option.bind_map, Option.bind_map] at searched
  · intro query
    rw [resolve?_visibleScopes, resolve?_visibleScopes]
    exact findSome?_congr fun name member => same.parsers_eq member query
  · rfl

/-- **Catalogs that cannot be told apart transform alike.** Every input has the same outcome in
both, a report or an error. -/
theorem transform_eq (same : Indistinguishable selection left right) (input : Input) :
    left.transform input selection = right.transform input selection :=
  same.alike.transform_eq input

end Indistinguishable

/-- Two catalogs look alike to selections of some scopes. -/
structure AgreesOn (names : List String) (left right : Catalog) : Prop where
  settings : left.settings = right.settings
  global : left.global.view = right.global.view
  scopes : ∀ name ∈ names,
    (left.findScope? name).map Scope.view = (right.findScope? name).map Scope.view

/-- Catalogs that agree on the requested scopes and the global one are indistinguishable. -/
theorem AgreesOn.indistinguishable {selection : Selection} {left right : Catalog}
    (agrees : AgreesOn selection.scopes left right) : Indistinguishable selection left right where
  settings := agrees.settings
  global := agrees.global
  cases name member := by
    have seen := congrArg (Option.map (·.cases.values)) (agrees.scopes name member)
    rwa [Option.map_map, Option.map_map] at seen
  parsers name member query := by
    have seen := congrArg (fun found => found.bind (·.parser? query)) (agrees.scopes name member)
    rwa [Option.bind_map, Option.bind_map] at seen

/-- Catalogs that agree on the requested scopes and the global one make the same of every input.
-/
theorem transform_congr {selection : Selection} {left right : Catalog}
    (agrees : AgreesOn selection.scopes left right) (input : Input) :
    left.transform input selection = right.transform input selection :=
  agrees.indistinguishable.transform_eq input

end Catalog

end ErrorCatalog
